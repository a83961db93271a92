import LoopRepair.Text.Lower

/-!
# Instructions

A program is a list of instructions, each an opcode with a signed operand. The
machine knows three opcodes; `other` keeps the name of one it does not know, so
that a program holding it can still be written down and run up to that point.

Exchanging jump and no-op (`Instr.flip`) is the only edit a repair makes.
-/

namespace LoopRepair

/-! ## Opcodes -/

/-- The operation of an instruction. -/
inductive Opcode where
  | acc
  | jmp
  | nop
  | other (name : String)
deriving DecidableEq, Repr

namespace Opcode

/-- The name by which reports and traces refer to an opcode. -/
def name : Opcode → String
  | acc => "ACC"
  | jmp => "JMP"
  | nop => "NOP"
  | other name => name

/-- The opcode of a name. Names are case-sensitive. -/
def ofName (name : String) : Opcode :=
  if name = "ACC" then acc
  else if name = "JMP" then jmp
  else if name = "NOP" then nop
  else other name

/-- The opcode as a listing spells it: its name in lower case. -/
def mnemonic : Opcode → String
  | acc => "acc"
  | jmp => "jmp"
  | nop => "nop"
  | other name => String.ofList (Text.lower name.toList)

/-- Jump and no-op exchanged; every other opcode is left as it is. -/
def flip : Opcode → Opcode
  | jmp => nop
  | nop => jmp
  | op => op

@[simp] theorem flip_flip (op : Opcode) : op.flip.flip = op := by
  cases op <;> rfl

end Opcode

/-! ## Instructions and programs -/

/-- One instruction: what to do, and by how much. -/
structure Instr where
  op : Opcode
  arg : Int
deriving DecidableEq, Repr

namespace Instr

/-- The same operand under the exchanged opcode. -/
def flip (ins : Instr) : Instr :=
  { ins with op := ins.op.flip }

@[simp] theorem flip_flip (ins : Instr) : ins.flip.flip = ins := by
  simp [flip]

end Instr

/-- The instructions of a program, in order; a position is an index into them. -/
abbrev Program := List Instr

namespace Program

/-- The program with jump and no-op exchanged at one position. A position
outside the program, or one that holds neither, changes nothing. -/
def flipAt (prog : Program) (pos : Int) : Program :=
  if 0 ≤ pos then prog.modify pos.toNat Instr.flip else prog

@[simp] theorem length_flipAt (prog : Program) (pos : Int) :
    (prog.flipAt pos).length = prog.length := by
  unfold flipAt
  split <;> simp

end Program

end LoopRepair
