import LoopRepair.Proofs.Listings

/-!
# Listings put together

A listing is read line by line, so a text put together from two others with a line
feed between them is read as the two are: the instructions of the second one follow
those of the first, and so do the warnings, with their lines counted on.

This holds wherever the texts are cut. In particular the first one may end in a carriage
return, which together with the line feed makes a line end of two characters: then its
last line is not the one it had by itself, but only by a blank at the end, where blanks do
not count. So it does not matter either which of the two line ends is written. Both are
shown of the pieces between line feeds, as which a text is read (`ofLines_lines`).

Results:
1. `Text.exists_splitOn_append`: what is added to a text without a line feed is added to
   its last piece.
2. `Listing.ofLines_append`, `Listing.ofLines_add`: lines are read one after the other, and
   their numbers show in nothing but the warnings.
3. `Listing.read_joined_texts`: both properties of whole texts.
-/

namespace LoopRepair

/-- The same warning, that many lines further down. -/
def Warning.lower (w : Warning) (count : Nat) : Warning :=
  { w with line := w.line + count }

/-! ## Pieces -/

namespace Text

theorem length_splitOn (cs : List Char) : (cs.splitOn '\n').length = cs.count '\n' + 1 := by
  rw [← length_lines, ← List.length_map trim, ← map_trim_lines, List.length_map]

/-- What is added to the end of a text is added to its last piece. -/
theorem exists_splitOn_append (cs : List Char) :
    ∃ before last, ∀ tail, '\n' ∉ tail → (cs ++ tail).splitOn '\n' = before ++ [last ++ tail] := by
  by_cases inline : '\n' ∈ cs
  · -- Cut at the first line feed; the last piece is that of what follows it.
    obtain ⟨first, rest, cut, apart⟩ := List.eq_append_cons_of_mem inline
    obtain ⟨before, last, appended⟩ := exists_splitOn_append rest
    refine ⟨first :: before, last, fun tail staysInline => ?_⟩
    rw [cut, List.append_assoc, List.cons_append,
      List.splitOn_append_cons_self_of_not_mem apart, appended tail staysInline]
    rfl
  · refine ⟨[], cs, fun tail staysInline => ?_⟩
    rw [List.splitOn_eq_singleton (by simp [inline, staysInline])]
    rfl
termination_by cs.length
decreasing_by
  rw [cut, List.length_append, List.length_cons]
  omega

end Text

/-! ## Reading lines -/

namespace Listing

theorem ofLines_append (lines lines' : List (List Char)) (number : Nat) :
    ofLines (lines ++ lines') number =
      ⟨(ofLines lines number).program ++ (ofLines lines' (number + lines.length)).program,
        (ofLines lines number).warnings ++ (ofLines lines' (number + lines.length)).warnings⟩ := by
  unfold ofLines
  rw [List.filterMap_append, List.zipIdx_append, List.filterMap_append]

theorem warningOf_add (line : List Char) (number count : Nat) :
    warningOf line (number + count) = (warningOf line number).map (·.lower count) := by
  unfold warningOf
  rw [Option.map_map]
  rfl

/-- Lines that stand further down say the same, and warn of it further down. -/
theorem ofLines_add (lines : List (List Char)) (number count : Nat) :
    ofLines lines (number + count) =
      ⟨(ofLines lines number).program,
        (ofLines lines number).warnings.map (·.lower count)⟩ := by
  induction lines generalizing number with
  | nil => rfl
  | cons line lines ih =>
    have next : number + count + 1 = number + 1 + count := by omega
    rw [ofLines_cons, ofLines_cons, next, ih, warningOf_add, List.map_append]
    cases warningOf line number <;> rfl

/-- Blanks at the end of a text that do not end its last line make no difference. -/
theorem ofLines_append_blank (cs : List Char) {tail : List Char}
    (blank : ∀ c ∈ tail, Text.isBlank c = true) (inline : '\n' ∉ tail) (number : Nat) :
    ofLines ((cs ++ tail).splitOn '\n') number = ofLines (cs.splitOn '\n') number := by
  obtain ⟨before, last, appended⟩ := Text.exists_splitOn_append cs
  have unchanged := appended [] List.not_mem_nil
  rw [List.append_nil, List.append_nil] at unchanged
  rw [appended tail inline, unchanged, ofLines_append, ofLines_append, ofLines_cons, ofLines_cons]
  simp only [instrOf, warningOf, Text.trim_append_blank last blank]

/-! ## Reading texts -/

/-- Two texts with a line feed between them are read one after the other: the instructions of
the second follow those of the first, and so do its warnings, as many lines further down as the
first text has lines, one more than it has line feeds. If a carriage return stands before the
line feed, or none does, the same is read. -/
theorem read_joined_texts (s t : String) :
    Listing.read (s ++ "\n" ++ t) =
      ⟨(Listing.read s).program ++ (Listing.read t).program,
        (Listing.read s).warnings ++
          (Listing.read t).warnings.map (·.lower (1 + s.toList.count '\n'))⟩ ∧
    Listing.read (s ++ "\r\n" ++ t) = Listing.read (s ++ "\n" ++ t) := by
  have feed : (s ++ "\n" ++ t).toList = s.toList ++ '\n' :: t.toList := by simp
  have both : (s ++ "\r\n" ++ t).toList = (s.toList ++ ['\r']) ++ '\n' :: t.toList := by simp
  constructor
  · have count : 1 + (s.toList.splitOn '\n').length = 1 + (1 + s.toList.count '\n') := by
      rw [Text.length_splitOn]
      omega
    simp only [Listing.read, ofLines_lines]
    rw [feed, List.splitOn_append_cons_self, ofLines_append, count, ofLines_add]
  · have blank : ∀ c ∈ ['\r'], Text.isBlank c = true := List.all_eq_true.mp rfl
    have inline : '\n' ∉ ['\r'] := by decide
    -- The two texts have as many lines before the cut, so what follows it is read alike.
    have count : ((s.toList ++ ['\r']).splitOn '\n').length = (s.toList.splitOn '\n').length := by
      simp [Text.length_splitOn]
    simp only [Listing.read, ofLines_lines]
    rw [both, feed, List.splitOn_append_cons_self, List.splitOn_append_cons_self, ofLines_append,
      ofLines_append, count, ofLines_append_blank s.toList blank inline]

end Listing

end LoopRepair
