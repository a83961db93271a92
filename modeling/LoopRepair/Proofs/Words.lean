import LoopRepair.Text.Blank
import Mathlib.Data.List.DropRight

/-!
# Lines, words and margins

A text is cut at its line feeds into pieces, and a piece at its blanks into words,
the maximal runs of characters that are not blank. Both cuts are stated with the
library's `splitOn` and `splitOnP`. This module relates them to the way a listing
is read: `lines` leaves out the carriage return of a line end, `trim` takes the
blanks off both ends of a line, and `twoWords` reads a trimmed line from left to
right.

Everything about words follows from one equation, `words_append_cons`: a blank
separates what stands before it from what stands after it. That the carriage return
of a line end does not show is `map_trim_lines`: a piece is its line, or its line and
one blank more (`forall₂_lines_splitOn`).
-/

namespace LoopRepair.Text

/-- The words of a line: its maximal runs of characters that are not blank. -/
def words (line : List Char) : List (List Char) :=
  (line.splitOnP isBlank).filter (· ≠ [])

/-- `Stripped line core`: the core is the line without the blanks at both ends. -/
structure Stripped (line core : List Char) : Prop where
  between : ∃ left right, line = left ++ core ++ right ∧
    (∀ c ∈ left, isBlank c = true) ∧ ∀ c ∈ right, isBlank c = true
  starts : ∀ c ∈ core.head?, isBlank c = false
  ends : ∀ c ∈ core.getLast?, isBlank c = false

variable {cs line core left right : List Char}

/-! ## Words -/

theorem words_append_cons {blank : Char} (separates : isBlank blank = true)
    (before after : List Char) :
    words (before ++ blank :: after) = words before ++ words after := by
  unfold words
  rw [List.splitOnP_append_cons before after separates, List.filter_append]

theorem words_of_ink (nonempty : cs ≠ []) (ink : ∀ c ∈ cs, isBlank c = false) :
    words cs = [cs] := by
  rw [words, List.splitOnP_eq_singleton ink]
  simp [nonempty]

theorem words_nil : words [] = [] := by
  simp [words, List.splitOnP_nil]

theorem words_cons_of_blank {c : Char} (blank : isBlank c = true) : words (c :: cs) = words cs := by
  simpa [words_nil] using words_append_cons blank [] cs

theorem words_blank_append (blank : ∀ c ∈ left, isBlank c = true) :
    words (left ++ cs) = words cs := by
  induction left with
  | nil => rfl
  | cons c left ih =>
    rw [List.cons_append, words_cons_of_blank (blank c (by simp))]
    exact ih fun c member => blank c (List.mem_cons_of_mem _ member)

theorem words_dropWhile_isBlank (cs : List Char) : words (cs.dropWhile isBlank) = words cs := by
  have blank : ∀ c ∈ cs.takeWhile isBlank, isBlank c = true := fun _ => List.mem_takeWhile_imp
  rw [← words_blank_append blank, List.takeWhile_append_dropWhile]

theorem words_of_blank (blank : ∀ c ∈ cs, isBlank c = true) : words cs = [] := by
  rw [← List.append_nil cs, words_blank_append blank, words_nil]

theorem words_append_blank (blank : ∀ c ∈ right, isBlank c = true) :
    words (cs ++ right) = words cs := by
  cases right with
  | nil => rw [List.append_nil]
  | cons c right =>
    rw [words_append_cons (blank c (by simp)),
      words_of_blank fun c member => blank c (List.mem_cons_of_mem _ member), List.append_nil]

theorem takeWhile_isInk_ne_nil (nonempty : cs ≠ []) (starts : ∀ c ∈ cs.head?, isBlank c = false) :
    cs.takeWhile isInk ≠ [] := by
  obtain ⟨c, rest, rfl⟩ := List.exists_cons_of_ne_nil nonempty
  simp [isInk, starts c rfl]

/-- A text that starts with a word is that word and the words after it. -/
theorem words_of_starts (nonempty : cs ≠ []) (starts : ∀ c ∈ cs.head?, isBlank c = false) :
    words cs = cs.takeWhile isInk :: words (cs.dropWhile isInk) := by
  have first := takeWhile_isInk_ne_nil nonempty starts
  have ink : ∀ c ∈ cs.takeWhile isInk, isBlank c = false := by
    intro c member
    simpa [isInk] using List.mem_takeWhile_imp member
  have after : ∀ c ∈ (cs.dropWhile isInk).head?, isBlank c = true := by
    intro c heads
    have stops := List.head?_dropWhile_not isInk cs
    rw [Option.mem_def.mp heads] at stops
    simpa [isInk] using stops
  calc words cs = words (cs.takeWhile isInk ++ cs.dropWhile isInk) := by
        rw [List.takeWhile_append_dropWhile]
    _ = cs.takeWhile isInk :: words (cs.dropWhile isInk) := by
        cases rest : cs.dropWhile isInk with
        | nil => rw [List.append_nil, words_of_ink first ink, words_nil]
        | cons c rest' =>
          rw [rest] at after
          rw [words_append_cons (after c rfl), words_of_ink first ink,
            words_cons_of_blank (after c rfl)]
          rfl

theorem words_eq_nil_iff : words cs = [] ↔ ∀ c ∈ cs, isBlank c = true := by
  constructor
  · intro none
    induction cs with
    | nil => exact fun _ member => absurd member List.not_mem_nil
    | cons c cs ih =>
      cases blank : isBlank c with
      | true =>
        rw [words_cons_of_blank blank] at none
        simpa [blank] using ih none
      | false =>
        rw [words_of_starts (List.cons_ne_nil c cs) (by simpa using blank)] at none
        cases none
  · exact words_of_blank

theorem ends_of_suffix (suffix : cs <:+ line) (nonempty : cs ≠ [])
    (ends : ∀ c ∈ line.getLast?, isBlank c = false) : ∀ c ∈ cs.getLast?, isBlank c = false := by
  obtain ⟨before, rfl⟩ := suffix
  rwa [List.getLast?_append_of_ne_nil before nonempty] at ends

/-- A text with no blank at either end is a single word only if it is that word. -/
theorem words_eq_singleton_iff (nonempty : cs ≠ []) (starts : ∀ c ∈ cs.head?, isBlank c = false)
    (ends : ∀ c ∈ cs.getLast?, isBlank c = false) {word : List Char} :
    words cs = [word] ↔ (∀ c ∈ cs, isBlank c = false) ∧ cs = word := by
  constructor
  · intro single
    rw [words_of_starts nonempty starts, List.cons.injEq, words_eq_nil_iff] at single
    -- What follows the first word is blank, and ends as the text ends: so nothing follows.
    have nothing : cs.dropWhile isInk = [] := by
      apply Classical.byContradiction
      intro something
      have last := ends_of_suffix (List.dropWhile_suffix _) something ends _
        (List.getLast?_eq_some_getLast something)
      rw [single.2 _ (List.getLast_mem something)] at last
      cases last
    have ink := List.dropWhile_eq_nil_iff.mp nothing
    rw [← single.1, List.takeWhile_eq_self_iff.mpr ink]
    exact ⟨by simpa [isInk] using ink, rfl⟩
  · rintro ⟨ink, rfl⟩
    exact words_of_ink nonempty ink

/-! ## Margins -/

theorem starts_dropWhile (cs : List Char) :
    ∀ c ∈ (cs.dropWhile isBlank).head?, isBlank c = false := by
  intro c heads
  have stops := List.head?_dropWhile_not isBlank cs
  rwa [Option.mem_def.mp heads] at stops

theorem dropWhile_margin (blank : ∀ c ∈ left, isBlank c = true)
    (starts : ∀ c ∈ core.head?, isBlank c = false) :
    (left ++ core).dropWhile isBlank = core := by
  rw [List.dropWhile_append_of_pos blank]
  cases core with
  | nil => rfl
  | cons c core => exact List.dropWhile_cons_of_neg (by simp [starts c rfl])

theorem stripped_trim (line : List Char) : Stripped line (trim line) := by
  have unfolded : trim line = (line.dropWhile isBlank).rdropWhile isBlank := rfl
  rw [unfolded]
  refine ⟨⟨line.takeWhile isBlank, (line.dropWhile isBlank).rtakeWhile isBlank, ?_, ?_, ?_⟩, ?_, ?_⟩
  · rw [List.append_assoc, List.rdropWhile_append_rtakeWhile, List.takeWhile_append_dropWhile]
  · exact fun _ => List.mem_takeWhile_imp
  · exact fun _ => List.mem_rtakeWhile_imp
  · intro c heads
    apply starts_dropWhile line
    rw [← List.rdropWhile_append_rtakeWhile (p := isBlank) (l := line.dropWhile isBlank),
      List.head?_append, heads]
    rfl
  · intro c ends
    have nonempty := List.ne_nil_of_mem (List.mem_of_getLast? ends)
    have stops := List.rdropWhile_last_not isBlank _ nonempty
    rw [List.getLast?_eq_some_getLast nonempty] at ends
    cases ends
    simpa using stops

/-! ## Lines -/

/-- A piece between line feeds is the line that is read there, or that line and the carriage
return of its end. -/
theorem forall₂_lines_splitOn (cs : List Char) :
    List.Forall₂ (fun line piece => piece = line ∨ piece = line ++ ['\r'])
      (lines cs) (cs.splitOn '\n') := by
  fun_induction lines cs with
  | case1 => exact .cons (.inl rfl) .nil
  | case2 cs ih =>
    exact .cons (.inr rfl) ih
  | case3 cs ih =>
    exact .cons (.inl rfl) ih
  | case4 c cs _ notFeed ih =>
    -- The character goes in front of the first line and of the first piece.
    rw [List.splitOn_cons_eq_if_modifyHead, if_neg (by simpa using notFeed)]
    generalize lines cs = read, cs.splitOn '\n' = cut at ih ⊢
    cases ih with
    | nil => exact .nil
    | cons first later => exact .cons (first.imp (congrArg (c :: ·)) (congrArg (c :: ·))) later

theorem Stripped.append_blank (strips : Stripped line core)
    (blank : ∀ c ∈ right, isBlank c = true) : Stripped (line ++ right) core := by
  obtain ⟨left, margin, rfl, leftBlank, marginBlank⟩ := strips.between
  refine ⟨⟨left, margin ++ right, by simp, leftBlank, ?_⟩, strips.starts, strips.ends⟩
  intro c member
  exact (List.mem_append.mp member).elim (marginBlank c) (blank c)

namespace Stripped

theorem words_eq (strips : Stripped line core) : words core = words line := by
  obtain ⟨left, right, rfl, leftBlank, rightBlank⟩ := strips.between
  rw [words_append_blank rightBlank, words_blank_append leftBlank]

theorem eq_nil_iff (strips : Stripped line core) : core = [] ↔ words line = [] := by
  rw [← strips.words_eq]
  constructor
  · rintro rfl
    exact words_nil
  · intro none
    apply Classical.byContradiction
    intro nonempty
    rw [words_of_starts nonempty strips.starts] at none
    cases none

/-- The margins of a line leave no choice. -/
theorem eq_trim (strips : Stripped line core) : core = trim line := by
  obtain ⟨left, right, rfl, leftBlank, rightBlank⟩ := strips.between
  by_cases empty : core = []
  · subst empty
    have blank : ∀ c ∈ left ++ [] ++ right, isBlank c = true := by
      intro c member
      rcases List.mem_append.mp member with member | member
      · exact leftBlank c (by simpa using member)
      · exact rightBlank c member
    rw [trim, List.dropWhile_eq_nil_iff.mpr blank]
    rfl
  · have starts : ∀ c ∈ (core ++ right).head?, isBlank c = false := by
      rw [List.head?_append_of_ne_nil core empty]
      exact strips.starts
    have ends : ∀ c ∈ core.reverse.head?, isBlank c = false := by
      rw [List.head?_reverse]
      exact strips.ends
    have blank : ∀ c ∈ right.reverse, isBlank c = true := by
      simpa using rightBlank
    rw [trim, List.append_assoc, dropWhile_margin leftBlank starts, List.reverse_append,
      dropWhile_margin blank ends, List.reverse_reverse]

/-- Reading a trimmed line from left to right finds two words exactly if the line
has two. -/
theorem twoWords_eq_some_iff (strips : Stripped line core) {first second : List Char} :
    twoWords core = some (first, second) ↔ words line = [first, second] := by
  rw [← strips.words_eq]
  by_cases empty : core = []
  · subst empty
    simp [twoWords, words_nil]
  · have found := takeWhile_isInk_ne_nil empty strips.starts
    have rest : (core.dropWhile isInk).dropWhile isBlank <:+ core :=
      (List.dropWhile_suffix _).trans (List.dropWhile_suffix _)
    have starts := starts_dropWhile (core.dropWhile isInk)
    rw [words_of_starts empty strips.starts, ← words_dropWhile_isBlank, twoWords]
    generalize (core.dropWhile isInk).dropWhile isBlank = after at rest starts ⊢
    by_cases nothing : after = []
    · simp [nothing, words_nil]
    · have ends := ends_of_suffix rest nothing strips.ends
      rw [List.cons.injEq, words_eq_singleton_iff nothing starts ends]
      simp [found, nothing, isInk, and_left_comm]

end Stripped

theorem trim_append_blank (line : List Char) (blank : ∀ c ∈ right, isBlank c = true) :
    trim (line ++ right) = trim line :=
  ((stripped_trim line).append_blank blank).eq_trim.symm

/-- Trimmed, the lines of a text are its pieces between line feeds. -/
theorem map_trim_lines (cs : List Char) : (lines cs).map trim = (cs.splitOn '\n').map trim := by
  have blank : ∀ c ∈ ['\r'], isBlank c = true := List.all_eq_true.mp rfl
  have cuts := forall₂_lines_splitOn cs
  generalize lines cs = read, cs.splitOn '\n' = cut at cuts ⊢
  induction cuts with
  | nil => rfl
  | cons near _ ih =>
    rw [List.map_cons, List.map_cons, ih]
    rcases near with rfl | rfl
    · rfl
    · rw [trim_append_blank _ blank]

/-- A text has one line more than it has line feeds. -/
theorem length_lines (cs : List Char) : (lines cs).length = cs.count '\n' + 1 := by
  fun_induction lines cs with
  | case1 => rfl
  | case2 cs ih | case3 cs ih => simp [ih]
  | case4 c cs _ notFeed ih =>
    rw [List.length_modifyHead, ih, List.count_cons_of_ne notFeed]

end LoopRepair.Text
