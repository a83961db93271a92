import LoopRepair.Machine

/-!
# Runs

A run follows the machine from its start until it leaves the program or is about
to visit a position for the second time, and records every move on the way. The
next position depends on the current one alone, so a position met again is met
forever: both endings are final answers.

A run is bounded by the positions of the program it has not visited yet, and
needs no other limit.
-/

namespace LoopRepair

/-- How a run ends. -/
inductive Ending where
  /-- It left the program. -/
  | halted
  /-- It was about to visit `entry` again. -/
  | looped (entry : Nat)
deriving DecidableEq, Repr

/-- What a run reports: its ending, the accumulator there, and its moves as
pairs of a position and its successor, in the order in which they were made. -/
structure Outcome where
  ending : Ending
  acc : Int
  moves : List (Nat × Nat)
deriving DecidableEq, Repr

/-- The outcome of a run that made one more move before. -/
def Outcome.after (pos next : Nat) (out : Outcome) : Outcome :=
  { out with moves := (pos, next) :: out.moves }

namespace Outcome

variable (pos next : Nat) (out : Outcome)

@[simp] theorem ending_after : (out.after pos next).ending = out.ending := rfl

@[simp] theorem acc_after : (out.after pos next).acc = out.acc := rfl

@[simp] theorem moves_after : (out.after pos next).moves = (pos, next) :: out.moves := rfl

end Outcome

/-- Whether the run left the program. -/
def Outcome.isHalted (out : Outcome) : Bool :=
  out.ending = .halted

namespace Program

/-- The positions of the program that are not among the visited ones. -/
def unvisited (prog : Program) (visited : List Nat) : List Nat :=
  (List.range prog.length).filter (· ∉ visited)

theorem length_unvisited_cons_lt {prog : Program} {visited : List Nat} {pos : Nat}
    (inside : pos < prog.length) (fresh : pos ∉ visited) :
    (prog.unvisited (pos :: visited)).length < (prog.unvisited visited).length := by
  have shrink : prog.unvisited (pos :: visited) = (prog.unvisited visited).filter (· ≠ pos) := by
    simp [unvisited, List.filter_filter, List.mem_cons, not_or]
  rw [shrink]
  apply List.length_filter_lt_length_iff_exists.mpr
  exact ⟨pos, by simp [unvisited, inside, fresh], by simp⟩

/-- The run from a state, given the positions visited before. It stops with an
error at an instruction whose opcode the machine does not know. -/
def runFrom (prog : Program) (swap : Swap) (visited : List Nat) (s : State) :
    Except Instr Outcome :=
  if s.pos ∈ visited then
    .ok ⟨.looped s.pos, s.acc, []⟩
  else
    match _h : prog.fetch swap s.pos with
    | none => .ok ⟨.halted, s.acc, []⟩
    | some ins =>
      match ins.apply prog.length s with
      | none => .error ins
      | some t => (runFrom prog swap (s.pos :: visited) t).map (·.after s.pos t.pos)
termination_by (prog.unvisited visited).length
decreasing_by
  exact length_unvisited_cons_lt (lt_length_of_fetch _h) (by assumption)

/-- One step of a run, without the evidence that it ends. -/
theorem runFrom_eq (prog : Program) (swap : Swap) (visited : List Nat) (s : State) :
    prog.runFrom swap visited s =
      if s.pos ∈ visited then .ok ⟨.looped s.pos, s.acc, []⟩
      else
        match prog.fetch swap s.pos with
        | none => .ok ⟨.halted, s.acc, []⟩
        | some ins =>
          match ins.apply prog.length s with
          | none => .error ins
          | some t => (prog.runFrom swap (s.pos :: visited) t).map (·.after s.pos t.pos) := by
  rw [runFrom]
  split
  · rfl
  · split <;> simp_all

/-- The run of a program from its first instruction. -/
def run (prog : Program) (swap : Swap) : Except Instr Outcome :=
  prog.runFrom swap [] .start

end Program

end LoopRepair
