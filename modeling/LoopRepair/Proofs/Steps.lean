import LoopRepair.Machine

/-!
# The machine, rule by rule

`Program.next` fetches an instruction, flips it if the swap says so, and applies
it. This module gives the same machine as rules on the program as it stands, one
rule for each way in which an instruction can act, and counts its steps from the
start. Statements about halting are made in terms of the rules; the machine as a
function serves their proofs.

Results:
1. `step_iff`: the rules are what fetching and applying an instruction does.
2. `Step.pos_eq`: where a step leads depends on the position alone. The
   accumulator is carried along and never consulted.
3. `Known.exists_step`: inside a program of known opcodes there is always a step.
4. `Step.acc_eq`, `Step.leads`: what a step adds is a matter of the position too,
   so it can be taken with any accumulator.
5. `ReachesIn.eq_stateAfter`, `reachesIn_halted_unique`: the machine has one
   history, and stops at one state at most.
-/

namespace LoopRepair

namespace Program

/-! ## Rules -/

/-- The machine knows every opcode of the program. -/
def Known (prog : Program) : Prop :=
  ∀ ins ∈ prog, ins.op = .acc ∨ ins.op = .jmp ∨ ins.op = .nop

instance (prog : Program) : Decidable prog.Known :=
  inferInstanceAs (Decidable (∀ ins ∈ prog, ins.op = .acc ∨ ins.op = .jmp ∨ ins.op = .nop))

/-- `Step prog swap s t`: the machine moves from `s` to `t`.

* `add`: an accumulation adds its operand and goes on to the next position.
* `jump`: a jump goes to its target, clamped to the first position and the end.
* `pass`: a no-op goes on to the next position.
* `swappedJump`, `swappedPass`: at the swapped position a jump acts as a no-op
  and a no-op as a jump, each with its own operand.

There is no rule at or past the end, so the machine halts there. -/
inductive Step (prog : Program) (swap : Swap) : State → State → Prop
  | add {pos : Nat} {acc d : Int} :
      prog[pos]? = some ⟨.acc, d⟩ → Step prog swap ⟨pos, acc⟩ ⟨pos + 1, acc + d⟩
  | jump {pos target : Nat} {acc d : Int} :
      prog[pos]? = some ⟨.jmp, d⟩ → swap ≠ some (pos : Int) →
      (target : Int) = max 0 (min (pos + d) prog.length) →
      Step prog swap ⟨pos, acc⟩ ⟨target, acc⟩
  | pass {pos : Nat} {acc d : Int} :
      prog[pos]? = some ⟨.nop, d⟩ → swap ≠ some (pos : Int) →
      Step prog swap ⟨pos, acc⟩ ⟨pos + 1, acc⟩
  | swappedJump {pos : Nat} {acc d : Int} :
      prog[pos]? = some ⟨.jmp, d⟩ → swap = some (pos : Int) →
      Step prog swap ⟨pos, acc⟩ ⟨pos + 1, acc⟩
  | swappedPass {pos target : Nat} {acc d : Int} :
      prog[pos]? = some ⟨.nop, d⟩ → swap = some (pos : Int) →
      (target : Int) = max 0 (min (pos + d) prog.length) →
      Step prog swap ⟨pos, acc⟩ ⟨target, acc⟩

/-- `ReachesIn prog swap n s`: after `n` steps from the start the machine is in
state `s`. It holds for no `s` if the machine halted earlier. -/
inductive ReachesIn (prog : Program) (swap : Swap) : Nat → State → Prop
  | start : ReachesIn prog swap 0 .start
  | step {n : Nat} {s t : State} :
      ReachesIn prog swap n s → Step prog swap s t → ReachesIn prog swap (n + 1) t

variable {prog : Program} {swap : Swap} {s t : State}

/-! ## The rules and the machine -/

theorem landing_eq_iff {size pos target : Nat} {offset : Int} :
    landing size pos offset = target ↔ (target : Int) = max 0 (min (pos + offset) size) := by
  unfold landing
  omega

theorem fetch_eq_some_iff {pos : Nat} {ins : Instr} :
    prog.fetch swap pos = some ins ↔
      (swap ≠ some (pos : Int) ∧ prog[pos]? = some ins) ∨
      (swap = some (pos : Int) ∧ prog[pos]? = some ins.flip) := by
  unfold fetch
  by_cases here : swap = some (pos : Int)
  · simp only [here, if_true, ne_eq, not_true, false_and, true_and, false_or]
    rw [Option.map_eq_some_iff]
    constructor
    · rintro ⟨stands, there, rfl⟩
      rw [there, Instr.flip_flip]
    · intro there
      exact ⟨ins.flip, there, ins.flip_flip⟩
  · simp [here]

/-- A step is made by the instruction in force, and does what that one does. -/
theorem step_iff :
    Step prog swap s t ↔
      ∃ ins, prog.fetch swap s.pos = some ins ∧ ins.apply prog.length s = some t := by
  constructor
  · intro step
    cases step with
    | @add pos acc d here =>
      refine ⟨⟨.acc, d⟩, fetch_eq_some_iff.mpr ?_, rfl⟩
      by_cases swapped : swap = some (pos : Int)
      · exact .inr ⟨swapped, here⟩
      · exact .inl ⟨swapped, here⟩
    | @jump pos target acc d here plain lands =>
      refine ⟨⟨.jmp, d⟩, fetch_eq_some_iff.mpr (.inl ⟨plain, here⟩), ?_⟩
      simp only [Instr.apply, landing_eq_iff.mpr lands]
    | @pass pos acc d here plain =>
      exact ⟨⟨.nop, d⟩, fetch_eq_some_iff.mpr (.inl ⟨plain, here⟩), rfl⟩
    | @swappedJump pos acc d here swapped =>
      exact ⟨⟨.nop, d⟩, fetch_eq_some_iff.mpr (.inr ⟨swapped, here⟩), rfl⟩
    | @swappedPass pos target acc d here swapped lands =>
      refine ⟨⟨.jmp, d⟩, fetch_eq_some_iff.mpr (.inr ⟨swapped, here⟩), ?_⟩
      simp only [Instr.apply, landing_eq_iff.mpr lands]
  · rintro ⟨⟨op, d⟩, fetched, applied⟩
    obtain ⟨pos, acc⟩ := s
    -- What stands at the swapped position is the flip of what is in force there, so a jump in
    -- force is a plain jump or a swapped no-op, and a no-op likewise.
    cases op with
    | acc =>
      cases applied
      rcases fetch_eq_some_iff.mp fetched with ⟨_, here⟩ | ⟨_, here⟩ <;> exact .add here
    | jmp =>
      cases applied
      rcases fetch_eq_some_iff.mp fetched with ⟨plain, here⟩ | ⟨swapped, here⟩
      · exact .jump here plain (landing_eq_iff.mp rfl)
      · exact .swappedPass here swapped (landing_eq_iff.mp rfl)
    | nop =>
      cases applied
      rcases fetch_eq_some_iff.mp fetched with ⟨plain, here⟩ | ⟨swapped, here⟩
      · exact .pass here plain
      · exact .swappedJump here swapped
    | other name => cases applied

/-- A step is what the machine does next. -/
theorem Step.eq_next (step : Step prog swap s t) : t = prog.next swap s := by
  obtain ⟨ins, fetched, applied⟩ := step_iff.mp step
  simp [next, fetched, applied]

theorem Step.pos_lt (step : Step prog swap s t) : s.pos < prog.length := by
  obtain ⟨ins, fetched, _⟩ := step_iff.mp step
  exact lt_length_of_fetch fetched

/-- The accumulator has no say in where a step leads. -/
theorem Step.pos_eq {s' t' : State} (step : Step prog swap s t) (step' : Step prog swap s' t')
    (same : s'.pos = s.pos) : t'.pos = t.pos := by
  obtain ⟨⟨op, d⟩, fetched, applied⟩ := step_iff.mp step
  obtain ⟨ins', fetched', applied'⟩ := step_iff.mp step'
  rw [same, fetched] at fetched'
  cases fetched'
  cases op with
  | acc | jmp | nop =>
    cases applied
    cases applied'
    simp only [same]
  | other name => cases applied

theorem Known.op_of_fetch (known : prog.Known) {pos : Nat} {ins : Instr}
    (fetched : prog.fetch swap pos = some ins) :
    ins.op = .acc ∨ ins.op = .jmp ∨ ins.op = .nop := by
  rcases fetch_eq_some_iff.mp fetched with ⟨_, here⟩ | ⟨_, here⟩
  · exact known ins (List.mem_of_getElem? here)
  · have flipped := known ins.flip (List.mem_of_getElem? here)
    obtain ⟨op, d⟩ := ins
    cases op <;> simp_all [Instr.flip, Opcode.flip]

/-- A program of known opcodes never gets stuck before its end. -/
theorem Known.exists_step (known : prog.Known) (swap : Swap) (inside : s.pos < prog.length) :
    ∃ t, Step prog swap s t := by
  cases fetched : prog.fetch swap s.pos with
  | none => exact absurd (fetch_eq_none_iff.mp fetched) (Nat.not_le.mpr inside)
  | some ins =>
    obtain ⟨op, d⟩ := ins
    have op_known := known.op_of_fetch fetched
    cases op with
    | acc | jmp | nop => exact ⟨_, step_iff.mpr ⟨_, fetched, rfl⟩⟩
    | other name => simp at op_known

/-! ## Amounts -/

/-- What the instruction at a position adds to the accumulator: the operand of an
accumulation, and nothing for any other instruction or past the end. -/
def addend (prog : Program) (pos : Nat) : Int :=
  match prog[pos]? with
  | some ⟨.acc, d⟩ => d
  | _ => 0

/-- What the instructions at the given positions add up to. -/
def tally (prog : Program) : List Nat → Int
  | [] => 0
  | pos :: positions => prog.addend pos + prog.tally positions

@[simp] theorem tally_nil : prog.tally [] = 0 := rfl

@[simp] theorem tally_cons (pos : Nat) (positions : List Nat) :
    prog.tally (pos :: positions) = prog.addend pos + prog.tally positions := rfl

theorem Step.acc_eq (step : Step prog swap s t) : t.acc = s.acc + prog.addend s.pos := by
  cases step with
  | add here | jump here _ _ | pass here _ | swappedJump here _ | swappedPass here _ _ =>
    simp [addend, here]

/-- `Leads prog swap p q`: the instruction in force at `p` leads to `q`, with any
accumulator, and adds what stands at `p`. -/
def Leads (prog : Program) (swap : Swap) (p q : Nat) : Prop :=
  ∀ a, Step prog swap ⟨p, a⟩ ⟨q, a + prog.addend p⟩

theorem Step.leads (step : Step prog swap s t) : Leads prog swap s.pos t.pos := by
  intro a
  cases step with
  | add here =>
    rw [addend, here]
    exact .add here
  | jump here plain lands =>
    rw [addend, here, Int.add_zero]
    exact .jump here plain lands
  | pass here plain =>
    rw [addend, here, Int.add_zero]
    exact .pass here plain
  | swappedJump here swapped =>
    rw [addend, here, Int.add_zero]
    exact .swappedJump here swapped
  | swappedPass here swapped lands =>
    rw [addend, here, Int.add_zero]
    exact .swappedPass here swapped lands

/-- A step leads to a position of the program or to its end. -/
theorem Step.target_le (step : Step prog swap s t) : t.pos ≤ prog.length := by
  obtain ⟨ins, fetched, applied⟩ := step_iff.mp step
  exact Instr.apply_pos_le applied (lt_length_of_fetch fetched)

/-! ## Histories -/

theorem ReachesIn.eq_stateAfter {n : Nat} (reaches : ReachesIn prog swap n s) :
    s = prog.stateAfter swap n := by
  induction reaches with
  | start => rfl
  | step _ step ih =>
    rw [step.eq_next, ih]
    rfl

theorem ReachesIn.unique {n : Nat} (reaches : ReachesIn prog swap n s)
    (reaches' : ReachesIn prog swap n t) : s = t :=
  reaches.eq_stateAfter.trans reaches'.eq_stateAfter.symm

/-- Past the end the machine rests. -/
theorem stateAfter_of_halted {m n : Nat} (halted : prog.length ≤ (prog.stateAfter swap n).pos)
    (later : n ≤ m) : prog.stateAfter swap m = prog.stateAfter swap n := by
  induction later with
  | refl => rfl
  | step _ ih =>
    rw [stateAfter, ih, next, fetch_eq_none_iff.mpr halted]
    rfl

/-- The machine halts in one state at most, whenever it is looked at. -/
theorem reachesIn_halted_unique {m n : Nat}
    (reaches : ReachesIn prog swap n s) (halted : prog.length ≤ s.pos)
    (reaches' : ReachesIn prog swap m t) (halted' : prog.length ≤ t.pos) : s = t := by
  have atN := reaches.eq_stateAfter
  have atM := reaches'.eq_stateAfter
  subst atN atM
  rcases Nat.le_total n m with later | later
  · exact (stateAfter_of_halted halted later).symm
  · exact stateAfter_of_halted halted' later

end Program

end LoopRepair
