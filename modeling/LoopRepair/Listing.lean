import LoopRepair.Instr
import LoopRepair.Text.Blank
import LoopRepair.Text.Decimal
import LoopRepair.Trace.Tracing

/-!
# Listings

A listing is the text of a program: one instruction a line, an opcode word and a
signed operand with blanks between them. Reading a listing never fails. A blank
line says nothing. A line that is not two words is skipped, and an operand that
is not a signed integer becomes zero; both leave a warning with the number of
the line and its text.

Each line is read for itself, so what a line contributes does not depend on its
neighbours. The tag of a warning is emitted when its line is read.
-/

namespace LoopRepair

/-! ## Warnings -/

/-- What is doubtful about a line. -/
inductive Doubt where
  | operandDefaulted
  | lineSkipped
deriving DecidableEq, Repr

/-- The code by which a doubt is known. -/
def Doubt.code : Doubt → String
  | operandDefaulted => "W_OPERAND_DEFAULTED"
  | lineSkipped => "W_LINE_SKIPPED"

/-- A doubtful line: its number, counted from one, and its text without the
blanks at both ends. -/
structure Warning where
  doubt : Doubt
  line : Nat
  text : String
deriving DecidableEq, Repr

namespace Warning

/-- The trace tag of a warning. -/
def tag (w : Warning) : Tag :=
  .warning w.doubt.code w.line

/-- The warning as it is shown to the user. -/
def message (w : Warning) : String :=
  "warning: line " ++ Decimal.write w.line ++ ": " ++ w.doubt.code ++ ": " ++ w.text

/-- The warning as a JSON object. -/
def toJson (w : Warning) : Json :=
  .obj [("code", .str w.doubt.code), ("line", .int w.line), ("text", .str w.text)]

end Warning

/-! ## Lines -/

/-- The opcode of a word. A word that names no operation is a no-op. -/
def Opcode.ofWord (word : List Char) : Opcode :=
  if word = "acc".toList then .acc
  else if word = "jmp".toList then .jmp
  else .nop

/-- An instruction as a listing writes it. -/
def Instr.text (ins : Instr) : String :=
  ins.op.mnemonic ++ " " ++ Decimal.writeSigned ins.arg

/-- What a listing says: its program, and what is doubtful about it. -/
structure Listing where
  program : Program
  warnings : List Warning
deriving DecidableEq, Repr

namespace Listing

/-- What one line contributes: at most one instruction and at most one doubt. -/
structure Contribution where
  instr : Option Instr
  doubt : Option Doubt
deriving DecidableEq, Repr

/-- Reads a line without blanks at its ends. -/
def readTrimmed (line : List Char) : Contribution :=
  if line = [] then ⟨none, none⟩
  else
    match Text.twoWords line with
    | none => ⟨none, some .lineSkipped⟩
    | some (word, operand) =>
      match Decimal.readSigned operand with
      | some arg => ⟨some ⟨.ofWord word, arg⟩, none⟩
      | none => ⟨some ⟨.ofWord word, 0⟩, some .operandDefaulted⟩

/-- The instruction of a line, if it has one. -/
def instrOf (line : List Char) : Option Instr :=
  (readTrimmed (Text.trim line)).instr

/-- The warning of a line with a given number, if it leaves one. -/
def warningOf (line : List Char) (number : Nat) : Option Warning :=
  (readTrimmed (Text.trim line)).doubt.map fun doubt =>
    ⟨doubt, number, String.ofList (Text.trim line)⟩

/-- Reads lines, the first of which has a given number. -/
def ofLines (lines : List (List Char)) (number : Nat) : Listing :=
  ⟨lines.filterMap instrOf, (lines.zipIdx number).filterMap fun line => warningOf line.1 line.2⟩

/-- Reads a text. -/
def read (text : String) : Listing :=
  ofLines (Text.lines text.toList) 1

/-- The tags that reading the listing leaves. -/
def tags (listing : Listing) : List Tag :=
  listing.warnings.map Warning.tag

end Listing

/-! ## Reading under a trace -/

namespace Tracing

variable {m : Type → Type} [Tracing m]

/-- Reads lines, the first of which has a given number. -/
def readLines : List (List Char) → Nat → m Listing
  | [], _ => pure ⟨[], []⟩
  | line :: lines, number => do
    let here := Listing.ofLines [line] number
    emitAll here.tags
    let rest ← readLines lines (number + 1)
    pure ⟨here.program ++ rest.program, here.warnings ++ rest.warnings⟩

/-- Reads a text. -/
def read (text : String) : m Listing :=
  readLines (Text.lines text.toList) 1

end Tracing

end LoopRepair
