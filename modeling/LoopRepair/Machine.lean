import LoopRepair.Instr

/-!
# The machine

A state is a position and an accumulator. One instruction takes a state to the
next; a position at or past the end of the program has no instruction, and the
machine rests there.

A *swap* names a position at which jump and no-op change places for the length
of a run. The program itself is not touched: the exchange happens when the
instruction is fetched.

`Program.stateAfter` is the machine without any memory of where it has been. The
bounded run of `LoopRepair.Run` is judged against it.
-/

namespace LoopRepair

/-- Where the machine stands and what it has added up so far. -/
structure State where
  pos : Nat
  acc : Int
deriving DecidableEq, Repr

/-- The state every run starts from. -/
def State.start : State := ⟨0, 0⟩

/-- A position at which jump and no-op change places, if any. It may lie
anywhere, also before the first instruction or past the last one. -/
abbrev Swap := Option Int

/-- Where a jump by `offset` from `pos` lands in a program of `size`
instructions. A target before the first instruction becomes the first one, and
every target past the end becomes the end, so a position never leaves
`0, …, size` however large the operand. -/
def landing (size pos : Nat) (offset : Int) : Nat :=
  min (pos + offset).toNat size

theorem landing_le (size pos : Nat) (offset : Int) : landing size pos offset ≤ size :=
  Nat.min_le_right _ _

/-- The effect of one instruction, or nothing if its opcode is unknown. -/
def Instr.apply (size : Nat) (ins : Instr) (s : State) : Option State :=
  match ins.op with
  | .acc => some ⟨s.pos + 1, s.acc + ins.arg⟩
  | .jmp => some ⟨landing size s.pos ins.arg, s.acc⟩
  | .nop => some ⟨s.pos + 1, s.acc⟩
  | .other _ => none

/-- An instruction inside the program leads to a position in it or to its end. -/
theorem Instr.apply_pos_le {size : Nat} {ins : Instr} {s t : State}
    (h : ins.apply size s = some t) (inside : s.pos < size) : t.pos ≤ size := by
  unfold apply at h
  split at h <;> cases h
  · exact inside
  · exact landing_le size s.pos ins.arg
  · exact inside

namespace Program

/-- The instruction in force at a position: the one that stands there, flipped
if the swap names this position. There is none past the end. -/
def fetch (prog : Program) (swap : Swap) (pos : Nat) : Option Instr :=
  prog[pos]?.map fun ins => if swap = some (pos : Int) then ins.flip else ins

/-- One step of the machine. It rests in a state that has no instruction in
force, and in one whose opcode it does not know. -/
def next (prog : Program) (swap : Swap) (s : State) : State :=
  ((prog.fetch swap s.pos).bind (·.apply prog.length s)).getD s

/-- The state after a number of steps from the start. -/
def stateAfter (prog : Program) (swap : Swap) : Nat → State
  | 0 => .start
  | n + 1 => prog.next swap (prog.stateAfter swap n)

theorem fetch_eq_none_iff {prog : Program} {swap : Swap} {pos : Nat} :
    prog.fetch swap pos = none ↔ prog.length ≤ pos := by
  simp [fetch]

theorem lt_length_of_fetch {prog : Program} {swap : Swap} {pos : Nat} {ins : Instr}
    (h : prog.fetch swap pos = some ins) : pos < prog.length := by
  apply Nat.lt_of_not_le
  intro hle
  rw [fetch_eq_none_iff.mpr hle] at h
  cases h

/-- Fetching under a swap is fetching from the flipped program. -/
theorem fetch_flipAt (prog : Program) (swapped : Int) (pos : Nat) :
    (prog.flipAt swapped).fetch none pos = prog.fetch (some swapped) pos := by
  unfold flipAt fetch
  by_cases here : swapped = pos
  · subst here
    simp
    rfl
  · by_cases nonneg : 0 ≤ swapped
    · have elsewhere : swapped.toNat ≠ pos := by omega
      simp [nonneg, here, elsewhere]
    · simp [nonneg, here]

end Program

end LoopRepair
