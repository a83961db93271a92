import LoopRepair.Listing
import LoopRepair.Proofs.Numerals
import LoopRepair.Proofs.Steps
import LoopRepair.Proofs.Words

/-!
# The grammar of listings

Reading a listing trims each line, looks for two words from left to right, and
reads the second one as an operand. `Gives` says what a line contributes as rules on
its words, one rule for each kind of line, and `Accounted` adds up the lines of a
text. No rule mentions how a line is read.

Results:
1. `gives_iff`: what is read from a line is what the line gives. Each line falls
   under one rule (`exists_gives`).
2. `read_eq_iff_accounted`: what is read from a text is what its lines say, in
   order, with nothing left out and nothing added.
3. `known_read`: the machine knows every opcode of a program that was read.
-/

namespace LoopRepair

open Text (words Stripped)
open Decimal (SignedNumeral)

/-! ## Rules -/

/-- `Names word op`: the word stands for the opcode. Only the exact spellings of
accumulation and jump count; every other word is a no-op. -/
inductive Names : List Char → Opcode → Prop
  | acc : Names "acc".toList .acc
  | jmp : Names "jmp".toList .jmp
  | nop {word : List Char} : word ≠ "acc".toList → word ≠ "jmp".toList → Names word .nop

namespace Listing

/-- `Gives number line instr warning`: this is what the line contributes, if it has
that number.

* `nothing`: a line without a word contributes nothing.
* `instruction`: two words, the second of which is a signed numeral, are an
  instruction.
* `defaulted`: two words of another kind are an instruction with operand zero, and
  leave a warning.
* `skipped`: any other number of words leaves a warning and no instruction.

A warning has the number of its line and the line without the blanks at its ends. -/
inductive Gives (number : Nat) (line : List Char) : Option Instr → Option Warning → Prop
  | nothing : words line = [] → Gives number line none none
  | instruction {word operand : List Char} {op : Opcode} {arg : Int} :
      words line = [word, operand] → Names word op → SignedNumeral operand arg →
      Gives number line (some ⟨op, arg⟩) none
  | defaulted {word operand : List Char} {op : Opcode} {doubt : Doubt} {text : String} :
      words line = [word, operand] → Names word op → (∀ arg, ¬ SignedNumeral operand arg) →
      doubt.code = "W_OPERAND_DEFAULTED" → Stripped line text.toList →
      Gives number line (some ⟨op, 0⟩) (some ⟨doubt, number, text⟩)
  | skipped {doubt : Doubt} {text : String} :
      words line ≠ [] → (words line).length ≠ 2 →
      doubt.code = "W_LINE_SKIPPED" → Stripped line text.toList →
      Gives number line none (some ⟨doubt, number, text⟩)

/-- `Accounted number lines listing`: the listing holds what the lines say, in
their order, if the first of them has that number. -/
inductive Accounted : Nat → List (List Char) → Listing → Prop
  | nil {number : Nat} : Accounted number [] ⟨[], []⟩
  | cons {number : Nat} {line : List Char} {lines : List (List Char)} {instr : Option Instr}
      {warning : Option Warning} {listing : Listing} :
      Gives number line instr warning → Accounted (number + 1) lines listing →
      Accounted number (line :: lines)
        ⟨instr.toList ++ listing.program, warning.toList ++ listing.warnings⟩

end Listing

theorem names_iff {word : List Char} {op : Opcode} : Names word op ↔ Opcode.ofWord word = op := by
  constructor
  · intro names
    cases names with
    | acc | jmp => rfl
    | nop notAcc notJmp => rw [Opcode.ofWord, if_neg notAcc, if_neg notJmp]
  · rintro rfl
    unfold Opcode.ofWord
    split
    · next word => exact word ▸ .acc
    · next notAcc =>
      split
      · next word => exact word ▸ .jmp
      · next notJmp => exact .nop notAcc notJmp

namespace Listing

variable {number : Nat} {line : List Char} {instr : Option Instr} {warning : Option Warning}

/-! ## Lines -/

theorem ofList_trim {text : String} (strips : Stripped line text.toList) :
    String.ofList (Text.trim line) = text := by
  rw [← strips.eq_trim, String.ofList_toList]

theorem Gives.eq (gives : Gives number line instr warning) :
    instrOf line = instr ∧ warningOf line number = warning := by
  have strips := Text.stripped_trim line
  cases gives with
  | nothing none =>
    simp [instrOf, warningOf, readTrimmed, strips.eq_nil_iff.mpr none]
  | instruction two names numeral =>
    have nonempty : Text.trim line ≠ [] := by simp [strips.eq_nil_iff, two]
    simp [instrOf, warningOf, readTrimmed, nonempty, strips.twoWords_eq_some_iff.mpr two,
      numeral.readSigned_eq, names_iff.mp names]
  | @defaulted _ _ _ doubt _ two names other code text =>
    have nonempty : Text.trim line ≠ [] := by simp [strips.eq_nil_iff, two]
    cases doubt with
    | lineSkipped => simp [Doubt.code] at code
    | operandDefaulted =>
      simp [instrOf, warningOf, readTrimmed, nonempty, strips.twoWords_eq_some_iff.mpr two,
        Decimal.readSigned_eq_none_iff.mpr other, names_iff.mp names, ofList_trim text]
  | @skipped doubt _ some count code text =>
    have nonempty : Text.trim line ≠ [] := by simpa [strips.eq_nil_iff] using some
    have noTwo : Text.twoWords (Text.trim line) = none := by
      rw [Option.eq_none_iff_forall_ne_some]
      rintro ⟨first, second⟩ found
      rw [strips.twoWords_eq_some_iff] at found
      simp [found] at count
    cases doubt with
    | operandDefaulted => simp [Doubt.code] at code
    | lineSkipped => simp [instrOf, warningOf, readTrimmed, nonempty, noTwo, ofList_trim text]

theorem exists_gives (number : Nat) (line : List Char) :
    ∃ instr warning, Gives number line instr warning := by
  have text : Stripped line (String.ofList (Text.trim line)).toList := by
    rw [String.toList_ofList]
    exact Text.stripped_trim line
  by_cases none : words line = []
  · exact ⟨_, _, .nothing none⟩
  · by_cases two : (words line).length = 2
    · obtain ⟨word, operand, two⟩ := List.length_eq_two.mp two
      have names : Names word (Opcode.ofWord word) := names_iff.mpr rfl
      cases read : Decimal.readSigned operand with
      | some arg => exact ⟨_, _, .instruction two names (.of_readSigned read)⟩
      | none =>
        have other := Decimal.readSigned_eq_none_iff.mp read
        have code : Doubt.operandDefaulted.code = "W_OPERAND_DEFAULTED" := rfl
        exact ⟨_, _, .defaulted two names other code text⟩
    · have code : Doubt.lineSkipped.code = "W_LINE_SKIPPED" := rfl
      exact ⟨_, _, .skipped none two code text⟩

theorem gives_iff :
    Gives number line instr warning ↔ instrOf line = instr ∧ warningOf line number = warning := by
  constructor
  · exact Gives.eq
  · rintro ⟨rfl, rfl⟩
    obtain ⟨instr, warning, gives⟩ := exists_gives number line
    rwa [gives.eq.1, gives.eq.2]

/-! ## Texts -/

theorem ofLines_cons (line : List Char) (lines : List (List Char)) (number : Nat) :
    ofLines (line :: lines) number =
      ⟨(instrOf line).toList ++ (ofLines lines (number + 1)).program,
        (warningOf line number).toList ++ (ofLines lines (number + 1)).warnings⟩ := by
  unfold ofLines
  rw [List.zipIdx_cons, List.filterMap_cons, List.filterMap_cons]
  congr 1
  · cases instrOf line <;> rfl
  · cases warningOf line number <;> rfl

theorem accounted_iff {lines : List (List Char)} {listing : Listing} :
    Accounted number lines listing ↔ ofLines lines number = listing := by
  constructor
  · intro accounted
    induction accounted with
    | nil => rfl
    | cons gives _ ih => rw [ofLines_cons, gives.eq.1, gives.eq.2, ih]
  · rintro rfl
    induction lines generalizing number with
    | nil => exact .nil
    | cons line lines ih =>
      rw [ofLines_cons]
      exact .cons (gives_iff.mpr ⟨rfl, rfl⟩) ih

/-- Of a line, what is trimmed away does not count. -/
theorem ofLines_congr {lines lines' : List (List Char)}
    (same : lines.map Text.trim = lines'.map Text.trim) (number : Nat) :
    ofLines lines number = ofLines lines' number := by
  induction lines generalizing lines' number with
  | nil => rw [List.map_eq_nil_iff.mp same.symm]
  | cons line lines ih =>
    obtain ⟨line', rest, rfl, first, later⟩ := List.map_eq_cons_iff.mp same.symm
    rw [ofLines_cons, ofLines_cons, ih later.symm]
    simp only [instrOf, warningOf, first]

/-- A text is read as its pieces between line feeds are, although these may end in a carriage
return that belongs to the line end. -/
theorem ofLines_lines (cs : List Char) (number : Nat) :
    ofLines (Text.lines cs) number = ofLines (cs.splitOn '\n') number :=
  ofLines_congr (Text.map_trim_lines cs) number

/-- A listing is what is read from a text exactly if it accounts for every line of
the text, cut at its line feeds and numbered from one. -/
theorem read_eq_iff_accounted (text : String) (listing : Listing) :
    Listing.read text = listing ↔ Accounted 1 (text.toList.splitOn '\n') listing := by
  rw [accounted_iff, ← ofLines_lines]
  rfl

/-! ## Programs that were read -/

theorem known_of_instrOf {ins : Instr} (read : instrOf line = some ins) :
    ins.op = .acc ∨ ins.op = .jmp ∨ ins.op = .nop := by
  obtain ⟨instr, warning, gives⟩ := exists_gives 0 line
  rw [gives.eq.1] at read
  subst read
  cases gives with
  | instruction _ names _ | defaulted _ names _ _ _ => cases names <;> simp

theorem known_read (text : String) : (Listing.read text).program.Known := by
  intro ins member
  obtain ⟨line, _, read⟩ := List.mem_filterMap.mp member
  exact known_of_instrOf read

end Listing

end LoopRepair
