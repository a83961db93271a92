import LoopRepair.Repair

/-!
# Operands beyond the program

The operand of a jump may be of any size, but a jump lands in the program or at its
end. `saturate` cuts an operand down to the distance it can cover: back to the first
position, or ahead to the end. A program with its jumps and no-ops saturated cannot be
told from the original, by any run, with any swap, nor by the search for a repair.

A no-op carries its operand for the case that it is swapped, so it is saturated like a
jump. Accumulations add what they are told to.

Results:
1. `landing_eq_add_saturate`: a jump lands as far away as its saturated operand says,
   and that one is never clamped again.
2. `fetch_saturated`, `apply_saturated`: one step of the saturated program.
   `runFrom_saturated`: so the whole run, which fails where the other one does.
3. `saturation_changes_nothing`: executions, first cycles and repairs are the same, to
   the last tag of their traces.
-/

namespace LoopRepair

/-- The operand of a jump from `pos`, cut down to what a program of `size` instructions
has room for: not before the first position, and not past the end. -/
def saturate (size pos : Nat) (d : Int) : Int :=
  min (max d (-pos)) (size - pos)

/-- The instruction at `pos` in a program of `size` instructions, its operand saturated if
it is a jump or a no-op. -/
def Instr.saturated (size pos : Nat) (ins : Instr) : Instr :=
  if ins.op = .jmp ∨ ins.op = .nop then { ins with arg := saturate size pos ins.arg } else ins

/-- The program with every jump and no-op saturated. -/
def Program.saturated (prog : Program) : Program :=
  prog.mapIdx fun pos ins => ins.saturated prog.length pos

/-! ## Landings -/

/-- A jump goes as far as its saturated operand says. -/
theorem landing_eq_add_saturate (size pos : Nat) (d : Int) :
    (landing size pos d : Int) = pos + saturate size pos d := by
  unfold landing saturate
  omega

theorem landing_saturate (size pos : Nat) (d : Int) :
    landing size pos (saturate size pos d) = landing size pos d := by
  have lands := landing_eq_add_saturate size pos d
  -- The saturated operand leads to a position of the program or its end, where no clamp acts.
  have within := landing_le size pos d
  have unclamped : landing size pos (saturate size pos d) =
      min (landing size pos d : Int).toNat size := by
    rw [lands]
    rfl
  rw [unclamped, Int.toNat_natCast, Nat.min_eq_left within]

/-! ## Instructions -/

namespace Instr

variable (size pos : Nat) (ins : Instr)

@[simp] theorem op_saturated : (ins.saturated size pos).op = ins.op := by
  unfold saturated
  split <;> rfl

/-- It does not matter whether a jump and a no-op are exchanged before or after. -/
theorem flip_saturated : (ins.saturated size pos).flip = ins.flip.saturated size pos := by
  obtain ⟨op, d⟩ := ins
  cases op <;> simp [saturated, flip, Opcode.flip]

/-- An instruction does what it did before. -/
theorem apply_saturated (s : State) :
    (ins.saturated size s.pos).apply size s = ins.apply size s := by
  obtain ⟨op, d⟩ := ins
  cases op with
  | jmp =>
    show some (⟨landing size s.pos (saturate size s.pos d), s.acc⟩ : State) =
      some ⟨landing size s.pos d, s.acc⟩
    rw [landing_saturate]
  | acc | nop | other name => simp [saturated, apply]

/-- An instruction that does nothing known is not touched. -/
theorem saturated_of_stuck {s : State} (stuck : ins.apply size s = none) :
    ins.saturated size pos = ins := by
  obtain ⟨op, d⟩ := ins
  cases op with
  | acc | jmp | nop => cases stuck
  | other name => simp [saturated]

end Instr

/-! ## Runs -/

namespace Program

variable (prog : Program) (swap : Swap)

@[simp] theorem length_saturated : prog.saturated.length = prog.length := by
  simp [saturated]

theorem getElem?_saturated (pos : Nat) :
    prog.saturated[pos]? = prog[pos]?.map (Instr.saturated prog.length pos) := by
  simp [saturated]

theorem fetch_saturated (pos : Nat) :
    prog.saturated.fetch swap pos =
      (prog.fetch swap pos).map (Instr.saturated prog.length pos) := by
  unfold fetch
  rw [getElem?_saturated, Option.map_map, Option.map_map]
  congr 1
  funext ins
  show (if _ then _ else _) = Instr.saturated _ _ (if _ then _ else _)
  split
  · exact ins.flip_saturated prog.length pos
  · rfl

/-- The saturated program runs as the program does, also into an unknown instruction. -/
theorem runFrom_saturated (visited : List Nat) (s : State) :
    prog.saturated.runFrom swap visited s = prog.runFrom swap visited s := by
  fun_induction runFrom prog swap visited s with
  | case1 visited s again => rw [runFrom_eq, if_pos again]
  | case2 visited s new outside =>
    rw [runFrom_eq, if_neg new, fetch_saturated, outside]
    rfl
  | case3 visited s new ins fetched stuck =>
    rw [runFrom_eq, if_neg new, fetch_saturated, fetched, length_saturated]
    simp only [Option.map_some, ins.saturated_of_stuck prog.length s.pos stuck, stuck]
  | case4 visited s new ins fetched t applied ih =>
    rw [runFrom_eq, if_neg new, fetch_saturated, fetched, length_saturated]
    simp only [Option.map_some, ins.apply_saturated prog.length, applied, ih]

theorem execute_saturated : prog.saturated.execute swap = prog.execute swap := by
  rw [execute_def, execute_def, run, runFrom_saturated, run]

/-! ## The search for a repair -/

theorem isCandidate_saturated : prog.saturated.isCandidate = prog.isCandidate := by
  funext pos
  unfold isCandidate
  rw [getElem?_saturated]
  cases prog[pos]? with
  | none => rfl
  | some ins => simp

theorem opcodeAt_saturated (pos : Nat) : prog.saturated.opcodeAt pos = prog.opcodeAt pos := by
  unfold opcodeAt
  rw [getElem?_saturated]
  cases prog[pos]? with
  | none => rfl
  | some ins => simp

theorem tryEach_saturated (positions : List Nat) :
    prog.saturated.tryEach positions = prog.tryEach positions := by
  induction positions with
  | nil => rfl
  | cons pos rest ih => simp only [tryEach_cons, execute_saturated, opcodeAt_saturated, ih]

/-- A program whose jumps and no-ops are saturated is executed, under every swap, as the
program itself: with the same ending, accumulator and moves. Its first cycle is the same,
and so is its repair, with all that was tried. -/
theorem saturation_changes_nothing :
    (∀ swap, prog.saturated.execute swap = prog.execute swap) ∧
    prog.saturated.firstLoop = prog.firstLoop ∧ prog.saturated.repair = prog.repair := by
  refine ⟨prog.execute_saturated, ?_, ?_⟩
  · simp only [firstLoop_def, execute_saturated]
  · simp only [repair_def, execute_saturated, isCandidate_saturated, tryEach_saturated]

/-- A jump far back, and a no-op far ahead: three positions are all that they can cover. -/
example : saturated [⟨.acc, 10⟩, ⟨.jmp, -1000⟩, ⟨.nop, 1000⟩] =
    [⟨.acc, 10⟩, ⟨.jmp, -1⟩, ⟨.nop, 1⟩] := by
  decide

end Program

end LoopRepair
