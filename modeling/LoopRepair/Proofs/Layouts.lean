import LoopRepair.Proofs.Listings

/-!
# Layouts

A program can be written down in many ways: any blanks around an instruction and
between its two words, blank lines anywhere, two kinds of line ends, a line end
after the last line or none. A `Layout` makes these choices, row by row, and
`Layout.chars` is the text that comes of them. The type leaves no other choice
open: what is put between words is blank and never a line feed.

`read_layout` says that reading forgets the layout and nothing else. The blanks of
a row may hold carriage returns and separators of every kind; only a line feed
ends a line, and every other blank only ends a word.

The plainest of these texts is `Program.listing`, with no more blanks than needed.
-/

namespace LoopRepair

open Text (words isBlank)

/-! ## Texts by choice -/

/-- Blanks that stay on their line. -/
structure Spacing where
  chars : List Char
  blank : ∀ c ∈ chars, isBlank c = true
  inline : '\n' ∉ chars

/-- The end of a line. -/
inductive LineEnd where
  | lf
  | crlf

def LineEnd.chars : LineEnd → List Char
  | lf => ['\n']
  | crlf => ['\r', '\n']

/-- A line of a layout: blanks only, or an instruction between blanks, with at
least one blank in place of the space between its words. -/
inductive Row where
  | blank (space : Spacing)
  | instr (left : Spacing) (ins : Instr) (gap : Spacing) (apart : gap.chars ≠ []) (right : Spacing)

namespace Row

def instr? : Row → Option Instr
  | blank _ => none
  | instr _ ins _ _ _ => some ins

def chars : Row → List Char
  | blank space => space.chars
  | instr left ins gap _ right =>
    left.chars ++ ins.text.toList.flatMap (fun c => if c = ' ' then gap.chars else [c])
      ++ right.chars

end Row

/-- The rows of a text and the line ends between them. The text ends after a row
(`last`), or after a line end or before any row (`nil`). -/
inductive Layout where
  | nil
  | last (row : Row)
  | cons (row : Row) (lineEnd : LineEnd) (rest : Layout)

namespace Layout

/-- The instructions of a layout, in order. -/
def program : Layout → Program
  | nil => []
  | last row => row.instr?.toList
  | cons row _ rest => row.instr?.toList ++ rest.program

def chars : Layout → List Char
  | nil => []
  | last row => row.chars
  | cons row lineEnd rest => row.chars ++ lineEnd.chars ++ rest.chars

end Layout

/-! ## Words of an instruction -/

theorem Text.isBlank_of_isDigit {c : Char} (digit : c.isDigit = true) : isBlank c = false := by
  obtain ⟨least, greatest⟩ := Char.isDigit_iff_toNat.mp digit
  simp only [Char.reduceToNat] at least greatest
  rw [Bool.eq_false_iff]
  intro blank
  simp only [isBlank, inRanges, blankRanges, List.any_cons, List.any_nil, Bool.or_eq_true,
    Bool.and_eq_true, decide_eq_true_eq, Bool.false_eq_true, or_false] at blank
  omega

theorem Decimal.writeSigned_ink (n : Int) : ∀ c ∈ (writeSigned n).toList, isBlank c = false := by
  intro c member
  rw [toList_writeSigned] at member
  rcases List.mem_cons.mp member with rfl | digit
  · unfold sign
    split <;> decide
  · exact Text.isBlank_of_isDigit (Nat.isDigit_of_mem_toDigits (by decide) (by decide) digit)

variable {op : Opcode} {ins : Instr} {row : Row} {number : Nat}

theorem names_mnemonic (known : op = .acc ∨ op = .jmp ∨ op = .nop) :
    Names op.mnemonic.toList op := by
  rcases known with rfl | rfl | rfl
  · exact .acc
  · exact .jmp
  · exact .nop (by decide) (by decide)

theorem mnemonic_ink (known : op = .acc ∨ op = .jmp ∨ op = .nop) :
    op.mnemonic.toList ≠ [] ∧ ∀ c ∈ op.mnemonic.toList, isBlank c = false := by
  have ink : op.mnemonic.toList.all Text.isInk = true := by
    rcases known with rfl | rfl | rfl <;> rfl
  constructor
  · rcases known with rfl | rfl | rfl <;> decide
  · simpa [Text.isInk] using ink

theorem flatMap_of_ink {cs : List Char} (ink : ∀ c ∈ cs, isBlank c = false) (gap : List Char) :
    cs.flatMap (fun c => if c = ' ' then gap else [c]) = cs := by
  induction cs with
  | nil => rfl
  | cons c cs ih =>
    have notSpace : c ≠ ' ' := by
      rintro rfl
      exact absurd (ink ' ' (by simp)) (by decide)
    have later := ih fun c member => ink c (List.mem_cons_of_mem _ member)
    rw [List.flatMap_cons, if_neg notSpace, later]
    rfl

/-- An instruction has one space, which stands between its words. -/
theorem Row.chars_instr (known : ins.op = .acc ∨ ins.op = .jmp ∨ ins.op = .nop)
    (left gap right : Spacing) (apart : gap.chars ≠ []) :
    (Row.instr left ins gap apart right).chars =
      left.chars ++ (ins.op.mnemonic.toList ++ gap.chars ++ (Decimal.writeSigned ins.arg).toList)
        ++ right.chars := by
  have space : " ".toList = [' '] := rfl
  rw [Row.chars, Instr.text, String.toList_append, String.toList_append, List.flatMap_append,
    List.flatMap_append, flatMap_of_ink (mnemonic_ink known).2,
    flatMap_of_ink (Decimal.writeSigned_ink _), space]
  simp

/-! ## Rows -/

theorem words_gap {first gap second : List Char} (nonempty : first ≠ [])
    (ink : ∀ c ∈ first, isBlank c = false) (apart : gap ≠ [])
    (blank : ∀ c ∈ gap, isBlank c = true) :
    words (first ++ gap ++ second) = first :: words second := by
  obtain ⟨c, gap, rfl⟩ := List.exists_cons_of_ne_nil apart
  rw [List.append_assoc, List.cons_append, Text.words_append_cons (blank c (by simp)),
    Text.words_of_ink nonempty ink,
    Text.words_blank_append fun c member => blank c (List.mem_cons_of_mem _ member)]
  rfl

theorem Row.inline (known : Program.Known row.instr?.toList) : '\n' ∉ row.chars := by
  have feed : isBlank '\n' = true := by decide
  cases row with
  | blank space => exact space.inline
  | instr left ins gap apart right =>
    have known := known ins (by simp [instr?])
    rw [Row.chars_instr known]
    intro member
    simp only [List.mem_append, left.inline, gap.inline, right.inline, or_false, false_or] at member
    rcases member with word | operand
    · exact absurd ((mnemonic_ink known).2 _ word) (by simp [feed])
    · exact absurd (Decimal.writeSigned_ink _ _ operand) (by simp [feed])

/-- A row, with any blanks after it, gives its instruction and no warning. -/
theorem Row.gives (known : Program.Known row.instr?.toList) {tail : List Char}
    (blank : ∀ c ∈ tail, isBlank c = true) :
    Listing.Gives number (row.chars ++ tail) row.instr? none := by
  cases row with
  | blank space =>
    refine .nothing ?_
    rw [Text.words_append_blank blank]
    exact Text.words_of_blank space.blank
  | instr left ins gap apart right =>
    have known := known ins (by simp [instr?])
    have numeral := Decimal.signedNumeral_writeSigned ins.arg
    have operand : (Decimal.writeSigned ins.arg).toList ≠ [] := by
      rw [Decimal.toList_writeSigned]
      exact List.cons_ne_nil _ _
    refine .instruction ?_ (names_mnemonic known) numeral
    rw [Text.words_append_blank blank, Row.chars_instr known, Text.words_append_blank right.blank,
      Text.words_blank_append left.blank,
      words_gap (mnemonic_ink known).1 (mnemonic_ink known).2 apart gap.blank,
      Text.words_of_ink operand (Decimal.writeSigned_ink _)]

/-! ## Whole texts -/

/-- Before its line feed, a line end has nothing but blanks. -/
theorem LineEnd.chars_eq (lineEnd : LineEnd) :
    ∃ tail, lineEnd.chars = tail ++ ['\n'] ∧ (∀ c ∈ tail, isBlank c = true) ∧ '\n' ∉ tail := by
  cases lineEnd with
  | lf => exact ⟨[], rfl, by simp⟩
  | crlf => exact ⟨['\r'], rfl, List.all_eq_true.mp rfl, by decide⟩

namespace Layout

theorem accounted {layout : Layout} (known : layout.program.Known) :
    Listing.Accounted number (layout.chars.splitOn '\n') ⟨layout.program, []⟩ := by
  induction layout generalizing number with
  | nil => exact .cons (.nothing Text.words_nil) .nil
  | last row =>
    have gives : Listing.Gives number (row.chars ++ []) row.instr? none := Row.gives known (by simp)
    rw [chars, List.splitOn_eq_singleton (Row.inline known)]
    simpa [program] using Listing.Accounted.cons gives .nil
  | cons row lineEnd rest ih =>
    have knownRow : Program.Known row.instr?.toList :=
      fun ins member => known ins (List.mem_append_left _ member)
    have knownRest : rest.program.Known :=
      fun ins member => known ins (List.mem_append_right _ member)
    obtain ⟨tail, split, blank, inline⟩ := lineEnd.chars_eq
    have first : '\n' ∉ row.chars ++ tail := by
      simpa [inline] using Row.inline knownRow
    have text : (cons row lineEnd rest).chars = (row.chars ++ tail) ++ '\n' :: rest.chars := by
      simp [chars, split]
    rw [text, List.splitOn_append_cons_self_of_not_mem first]
    exact .cons (Row.gives knownRow blank) (ih knownRest)

/-- However a program is laid out, reading the text gives back its instructions in
order, without a warning. -/
theorem read_layout (layout : Layout) (known : layout.program.Known) :
    Listing.read (String.ofList layout.chars) = ⟨layout.program, []⟩ := by
  rw [Listing.read, String.toList_ofList, Listing.ofLines_lines]
  exact Listing.accounted_iff.mp (accounted known)

/-- Two instructions among tabs, a no-break space, a byte order mark, carriage
returns and a line separator. -/
def exLayout : Layout :=
  .cons (.instr ⟨['\t'], List.all_eq_true.mp rfl, by decide⟩ ⟨.acc, 7⟩
    ⟨['\u00A0'], List.all_eq_true.mp rfl, by decide⟩ (by decide)
    ⟨['\r', ' '], List.all_eq_true.mp rfl, by decide⟩) .crlf <|
  .cons (.blank ⟨['\uFEFF'], List.all_eq_true.mp rfl, by decide⟩) .lf <|
  .last (.instr ⟨[], List.all_eq_true.mp rfl, by decide⟩ ⟨.jmp, -12⟩
    ⟨['\r', '\u2028'], List.all_eq_true.mp rfl, by decide⟩ (by decide)
    ⟨['\r'], List.all_eq_true.mp rfl, by decide⟩)

theorem exLayout_read :
    exLayout.program.Known ∧
    String.ofList exLayout.chars = "\tacc\u00A0+7\r \r\n\uFEFF\njmp\r\u2028-12\r" ∧
    Listing.read "\tacc\u00A0+7\r \r\n\uFEFF\njmp\r\u2028-12\r" =
      ⟨[⟨.acc, 7⟩, ⟨.jmp, -12⟩], []⟩ := by
  have known : exLayout.program.Known := by decide
  have text : String.ofList exLayout.chars =
      "\tacc\u00A0+7\r \r\n\uFEFF\njmp\r\u2028-12\r" := by cbv
  refine ⟨known, text, ?_⟩
  rw [← text]
  exact read_layout exLayout known

end Layout

/-! ## Plain listings -/

/-- The listing of a program: its instructions, one a line, and nothing else. -/
def Program.listing (prog : Program) : String :=
  "\n".intercalate (prog.map Instr.text)

/-- An instruction as it is written, with no blank around it. -/
def Row.plain (ins : Instr) : Row :=
  let margin : Spacing := ⟨[], nofun, by decide⟩
  .instr margin ins ⟨[' '], List.all_eq_true.mp rfl, by decide⟩ (by decide) margin

theorem Row.chars_plain (ins : Instr) : (Row.plain ins).chars = ins.text.toList := by
  have same : (fun c => if c = ' ' then [' '] else [c]) = fun c : Char => [c] := by
    funext c
    split
    · next space => rw [space]
    · rfl
  show [] ++ ins.text.toList.flatMap (fun c => if c = ' ' then [' '] else [c]) ++ [] = _
  rw [same, List.nil_append, List.append_nil, List.flatMap_singleton']

/-- The layout of a plain listing. -/
def Layout.plain : Program → Layout
  | [] => .nil
  | [ins] => .last (.plain ins)
  | ins :: ins' :: rest => .cons (.plain ins) .lf (plain (ins' :: rest))

theorem Layout.program_plain (prog : Program) : (plain prog).program = prog := by
  fun_induction plain prog with
  | case1 | case2 => rfl
  | case3 ins ins' rest ih =>
    rw [program, ih]
    rfl

theorem Layout.chars_plain (prog : Program) : (plain prog).chars = prog.listing.toList := by
  fun_induction plain prog with
  | case1 => rfl
  | case2 ins => simp [chars, Row.chars_plain, Program.listing]
  | case3 ins ins' rest ih =>
    simp [chars, ih, Row.chars_plain, Program.listing, LineEnd.chars]

/-- A plain listing is read as the program it was written from. -/
theorem Listing.read_listing {prog : Program} (known : prog.Known) :
    Listing.read prog.listing = ⟨prog, []⟩ := by
  have plain : (Layout.plain prog).program.Known := by rwa [Layout.program_plain]
  have accounted : Accounted 1 ((Layout.plain prog).chars.splitOn '\n') _ := Layout.accounted plain
  rw [Layout.chars_plain, Layout.program_plain] at accounted
  rw [Listing.read, ofLines_lines]
  exact accounted_iff.mp accounted

end LoopRepair
