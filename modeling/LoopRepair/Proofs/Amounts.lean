import Mathlib.Data.List.Forall2
import LoopRepair.Proofs.Histories
import LoopRepair.Proofs.Repairs

/-!
# What accumulations decide

Two programs that differ only in how much their accumulations add go the same way:
they visit the same positions in the same order, close the same cycle, and are
repaired by the same swap after the same trials. The operands of accumulations show
in the accumulators, and nowhere else.

There they show linearly. Every accumulator that an execution or a repair reports is
a tally over positions on which the operands have no influence, so if the operands
of two programs are added position by position, the accumulators are added too.

Results:
1. `SameControl.leads`, `SameControl.runsTo`: programs with the same control take
   the same moves, each with its own tally.
2. `Known.exists_tallied`: they share one answer, as a function of the program that
   takes the tallies.
3. `amounts_add_up`: both statements for executions and repairs, and the sum.
-/

namespace LoopRepair

/-- Two instructions that do the same, but for the amount of an accumulation. -/
def Instr.SameControl (ins ins' : Instr) : Prop :=
  ins'.op = ins.op ∧ (ins.op ≠ .acc → ins'.arg = ins.arg)

namespace Program

/-- Programs of one length that agree on every opcode, and on every operand except
those of accumulations. -/
def SameControl (prog prog' : Program) : Prop :=
  List.Forall₂ Instr.SameControl prog prog'

/-- The first program with the amounts of the second one added to its own. -/
def addAmounts (prog prog' : Program) : Program :=
  List.zipWith (fun ins ins' =>
    if ins.op = .acc then { ins with arg := ins.arg + ins'.arg } else ins) prog prog'

variable {prog prog' : Program} {swap : Swap} {visited : List Nat} {s : State} {out : Outcome}

/-! ## Programs with the same control -/

namespace SameControl

theorem size_eq (same : SameControl prog prog') : prog'.length = prog.length :=
  same.length_eq.symm

theorem refl (prog : Program) : SameControl prog prog :=
  List.forall₂_same.mpr fun _ _ => ⟨rfl, fun _ => rfl⟩

theorem symm (same : SameControl prog prog') : SameControl prog' prog := by
  induction same with
  | nil => exact .nil
  | cons alike _ ih =>
    refine .cons ⟨alike.1.symm, ?_⟩ ih
    intro other
    exact (alike.2 (alike.1 ▸ other)).symm

theorem exists_getElem? (same : SameControl prog prog') {pos : Nat} {ins : Instr}
    (here : prog[pos]? = some ins) : ∃ ins', prog'[pos]? = some ins' ∧ ins.SameControl ins' := by
  induction same generalizing pos with
  | nil => cases here
  | @cons first first' _ _ alike _ ih =>
    cases pos with
    | zero =>
      cases here
      exact ⟨first', rfl, alike⟩
    | succ pos => exact ih here

theorem getElem?_add (same : SameControl prog prog') {pos : Nat} {d : Int}
    (here : prog[pos]? = some ⟨.acc, d⟩) : ∃ d', prog'[pos]? = some ⟨.acc, d'⟩ := by
  obtain ⟨⟨op, d'⟩, there, op_eq, _⟩ := same.exists_getElem? here
  cases op_eq
  exact ⟨d', there⟩

/-- Instructions other than accumulations are the same. -/
theorem getElem?_eq (same : SameControl prog prog') {pos : Nat} {ins : Instr}
    (here : prog[pos]? = some ins) (other : ins.op ≠ .acc) : prog'[pos]? = some ins := by
  obtain ⟨⟨op, d⟩, there, op_eq, arg_eq⟩ := same.exists_getElem? here
  rw [there]
  cases op_eq
  cases arg_eq other
  rfl

theorem known (same : SameControl prog prog') (known : prog.Known) : prog'.Known := by
  intro ins' member
  obtain ⟨pos, there⟩ := List.mem_iff_getElem?.mp member
  obtain ⟨ins, here, op_eq, _⟩ := same.symm.exists_getElem? there
  rw [← op_eq]
  exact known ins (List.mem_of_getElem? here)

/-! ## Moves, runs, executions -/

/-- Where one program steps, the other one leads to the same position. -/
theorem leads {t : State} (same : SameControl prog prog') (step : Step prog swap s t) :
    prog'.Leads swap s.pos t.pos := by
  have size := same.size_eq
  cases step with
  | @add pos acc _ here =>
    obtain ⟨d', there⟩ := same.getElem?_add here
    have step' : Step prog' swap ⟨pos, acc⟩ _ := .add there
    exact step'.leads
  | @jump pos target acc _ here plain lands =>
    have step' : Step prog' swap ⟨pos, acc⟩ ⟨target, acc⟩ :=
      .jump (same.getElem?_eq here nofun) plain (size ▸ lands)
    exact step'.leads
  | @pass pos acc _ here plain =>
    have step' : Step prog' swap ⟨pos, acc⟩ _ := .pass (same.getElem?_eq here nofun) plain
    exact step'.leads
  | @swappedJump pos acc _ here swapped =>
    have step' : Step prog' swap ⟨pos, acc⟩ _ :=
      .swappedJump (same.getElem?_eq here nofun) swapped
    exact step'.leads
  | @swappedPass pos target acc _ here swapped lands =>
    have step' : Step prog' swap ⟨pos, acc⟩ ⟨target, acc⟩ :=
      .swappedPass (same.getElem?_eq here nofun) swapped (size ▸ lands)
    exact step'.leads

/-- The run of one program is the run of the other, with its own tally. -/
theorem runsTo (same : SameControl prog prog') (runs : RunsTo prog swap visited s out) (a : Int) :
    RunsTo prog' swap visited ⟨s.pos, a⟩ { out with acc := a + prog'.tally out.positions } := by
  -- The two runs part in the accumulator at their first accumulation, so the one of the second
  -- run is left open.
  induction runs generalizing a with
  | @loop visited s again =>
    have stays : RunsTo prog' swap visited ⟨s.pos, a⟩ _ := .loop again
    simpa [Outcome.positions] using stays
  | @halt visited s new outside =>
    have stays : RunsTo prog' swap visited ⟨s.pos, a⟩ _ := .halt new (same.size_eq ▸ outside)
    simpa [Outcome.positions] using stays
  | @move visited s t out new step _ ih =>
    rw [Outcome.positions_after, tally_cons, ← Int.add_assoc]
    have new' : (⟨s.pos, a⟩ : State).pos ∉ visited := new
    exact .move new' (same.leads step a) (ih (a + prog'.addend s.pos))

theorem execute (same : SameControl prog prog') (returned : (prog.execute swap).result = .ok out) :
    (prog'.execute swap).result = .ok { out with acc := prog'.tally out.positions } := by
  have runs := same.runsTo (execute_eq_ok_iff.mp returned) 0
  rw [Int.zero_add] at runs
  exact execute_eq_ok_iff.mpr runs

/-! ## The search for a repair -/

theorem exchangeable_eq (same : SameControl prog prog') :
    prog'.exchangeable = prog.exchangeable := by
  funext pos
  unfold exchangeable
  cases here : prog[pos]? with
  | none =>
    rw [List.getElem?_eq_none_iff, ← same.size_eq, ← List.getElem?_eq_none_iff] at here
    rw [here]
  | some ins =>
    obtain ⟨ins', there, op_eq, _⟩ := same.exists_getElem? here
    rw [there]
    simp only [op_eq]

theorem haltsUnder (same : SameControl prog prog') {p : Nat} (halts : prog.HaltsUnder p) :
    prog'.HaltsUnder p := by
  obtain ⟨out, returned, halted⟩ := halts
  exact ⟨_, same.execute returned, halted⟩

theorem firstLoop (same : SameControl prog prog') {entry : Nat}
    (returned : (prog.execute none).result = .ok out) (looped : out.ending = .looped entry) :
    prog'.firstLoop.result = .ok (some ⟨entry, prog'.tally out.positions, out.cycle entry⟩) :=
  firstLoop_of_looped (same.execute returned) looped

end SameControl

/-! ## Answers and their tallies -/

/-- `Tallied answer`: the answer is a function of the program that takes tallies of
it where an accumulator is reported, over positions fixed in advance. All else is
fixed. -/
inductive Tallied : (Program → Except NoRepair RepairReport) → Prop
  | unneeded (passed : List Nat) : Tallied fun prog => .ok ⟨prog.tally passed, none, none, []⟩
  | fixed (passed looped path candidates : List Nat) (entry p : Nat) :
      Tallied fun prog =>
        .ok ⟨prog.tally passed, some p, some ⟨entry, prog.tally looped, path⟩, candidates⟩
  | hopeless (looped path candidates : List Nat) (entry : Nat) :
      Tallied fun prog => .error ⟨⟨entry, prog.tally looped, path⟩, candidates⟩

/-- Programs with the same control have one answer in common. -/
theorem Known.exists_tallied (known : prog.Known) :
    ∃ answer, Tallied answer ∧
      ∀ prog', SameControl prog prog' → RepairAnswer prog' (answer prog') := by
  obtain ⟨right, answers⟩ := known.exists_repairAnswer
  cases answers with
  | @unneeded out returned halted =>
    refine ⟨_, .unneeded out.positions, ?_⟩
    intro prog' same
    exact .unneeded (same.execute returned) halted
  | @fixed loop before after p out found split vain trial halted =>
    obtain ⟨plain, entry, returned, looped, rfl⟩ := known.looped_of_firstLoop found
    refine ⟨_, .fixed out.positions plain.positions (plain.cycle entry) (before ++ [p]) entry p, ?_⟩
    intro prog' same
    have split' : (plain.cycle entry).filter prog'.exchangeable = before ++ p :: after := by
      rw [same.exchangeable_eq]
      exact split
    refine .fixed (same.firstLoop returned looped) split' ?_ (same.execute trial) halted
    -- A swap that helps the other program would have helped this one.
    intro q tried halts
    exact vain q tried (same.symm.haltsUnder halts)
  | @hopeless loop found vain =>
    obtain ⟨plain, entry, returned, looped, rfl⟩ := known.looped_of_firstLoop found
    refine ⟨_, .hopeless plain.positions (plain.cycle entry)
      ((plain.cycle entry).filter prog.exchangeable) entry, ?_⟩
    intro prog' same
    rw [← same.exchangeable_eq]
    refine .hopeless (same.firstLoop returned looped) ?_
    intro q tried halts
    rw [same.exchangeable_eq] at tried
    exact vain q tried (same.symm.haltsUnder halts)

/-! ## Sums -/

theorem sameControl_addAmounts (same : SameControl prog prog') :
    SameControl prog (prog.addAmounts prog') := by
  induction same with
  | nil => exact .nil
  | @cons ins ins' _ _ alike _ ih =>
    refine .cons ?_ ih
    by_cases adds : ins.op = .acc <;> simp [Instr.SameControl, adds]

theorem addend_addAmounts (same : SameControl prog prog') (pos : Nat) :
    (prog.addAmounts prog').addend pos = prog.addend pos + prog'.addend pos := by
  induction same generalizing pos with
  | nil => rfl
  | @cons ins ins' _ _ alike _ ih =>
    cases pos with
    | zero =>
      obtain ⟨op, d⟩ := ins
      obtain ⟨op', d'⟩ := ins'
      cases alike.1
      cases op <;> rfl
    | succ pos => exact ih pos

theorem tally_addAmounts (same : SameControl prog prog') (positions : List Nat) :
    (prog.addAmounts prog').tally positions = prog.tally positions + prog'.tally positions := by
  induction positions with
  | nil => rfl
  | cons pos positions ih =>
    rw [tally_cons, tally_cons, tally_cons, addend_addAmounts same, ih]
    omega

/-- `AnswersAdd answer answer' sum`: the three answers are alike in all but their
accumulators, and each accumulator of `sum` is the sum of those of the other two. -/
inductive AnswersAdd : Except NoRepair RepairReport → Except NoRepair RepairReport →
    Except NoRepair RepairReport → Prop
  | unneeded {a a' : Int} :
      AnswersAdd (.ok ⟨a, none, none, []⟩) (.ok ⟨a', none, none, []⟩)
        (.ok ⟨a + a', none, none, []⟩)
  | fixed {a a' b b' : Int} {p entry : Nat} {path candidates : List Nat} :
      AnswersAdd (.ok ⟨a, some p, some ⟨entry, b, path⟩, candidates⟩)
        (.ok ⟨a', some p, some ⟨entry, b', path⟩, candidates⟩)
        (.ok ⟨a + a', some p, some ⟨entry, b + b', path⟩, candidates⟩)
  | hopeless {b b' : Int} {entry : Nat} {path candidates : List Nat} :
      AnswersAdd (.error ⟨⟨entry, b, path⟩, candidates⟩) (.error ⟨⟨entry, b', path⟩, candidates⟩)
        (.error ⟨⟨entry, b + b', path⟩, candidates⟩)

theorem Tallied.add {answer : Program → Except NoRepair RepairReport} (tallied : Tallied answer)
    (same : SameControl prog prog') :
    AnswersAdd (answer prog) (answer prog') (answer (prog.addAmounts prog')) := by
  cases tallied with
  | unneeded passed =>
    simp only [tally_addAmounts same]
    exact .unneeded
  | fixed passed looped path candidates entry p =>
    simp only [tally_addAmounts same]
    exact .fixed
  | hopeless looped path candidates entry =>
    simp only [tally_addAmounts same]
    exact .hopeless

/-- The amounts that accumulations add have no influence but on accumulators, and
there they add up. Under every swap, two programs that differ only in amounts have
executions with the same ending and the same moves, and the accumulators of the two
give that of the program with both amounts. Their repairs agree in whether there is
one, in the swap, in what was tried and in the cycle, and add up likewise. -/
theorem amounts_add_up (known : prog.Known) (same : SameControl prog prog') :
    (∀ swap, ∃ ending moves a a',
      (prog.execute swap).result = .ok ⟨ending, a, moves⟩ ∧
      (prog'.execute swap).result = .ok ⟨ending, a', moves⟩ ∧
      ((prog.addAmounts prog').execute swap).result = .ok ⟨ending, a + a', moves⟩) ∧
    ∃ answer answer' sum,
      prog.repair.result = .ok answer ∧
      prog'.repair.result = .ok answer' ∧
      (prog.addAmounts prog').repair.result = .ok sum ∧ AnswersAdd answer answer' sum := by
  have both := sameControl_addAmounts same
  constructor
  · intro swap
    obtain ⟨out, returned, _⟩ := known.exists_execute swap
    refine ⟨out.ending, out.moves, prog.tally out.positions, prog'.tally out.positions,
      (SameControl.refl prog).execute returned, same.execute returned, ?_⟩
    rw [← tally_addAmounts same]
    exact both.execute returned
  · obtain ⟨answer, tallied, right⟩ := known.exists_tallied
    exact ⟨answer prog, answer prog', answer (prog.addAmounts prog'),
      (right prog (.refl prog)).repair_eq known, (right prog' same).repair_eq (same.known known),
      (right _ both).repair_eq (both.known known), tallied.add same⟩

/-- `exRound` with other amounts. -/
def exRound' : Program :=
  [⟨.acc, -1⟩, ⟨.jmp, -5⟩, ⟨.acc, 9⟩]

/-- Both are repaired by the swap at 1, with 42 and 8; so is their sum, with 50. -/
theorem exRound_amounts :
    exRound.Known ∧ SameControl exRound exRound' ∧
    exRound.repair.result = .ok (.ok ⟨42, some 1, some ⟨0, 2, [0, 1]⟩, [1]⟩) ∧
    exRound'.repair.result = .ok (.ok ⟨8, some 1, some ⟨0, -1, [0, 1]⟩, [1]⟩) ∧
    (exRound.addAmounts exRound').repair.result =
      .ok (.ok ⟨50, some 1, some ⟨0, 1, [0, 1]⟩, [1]⟩) := by
  have known : exRound.Known := by decide
  have same : SameControl exRound exRound' :=
    .cons ⟨rfl, by decide⟩ (.cons ⟨rfl, by decide⟩ (.cons ⟨rfl, by decide⟩ .nil))
  have repaired : exRound.repair.result =
      .ok (.ok ⟨42, some 1, some ⟨0, 2, [0, 1]⟩, [1]⟩) := by cbv
  have repaired' : exRound'.repair.result =
      .ok (.ok ⟨8, some 1, some ⟨0, -1, [0, 1]⟩, [1]⟩) := by cbv
  obtain ⟨_, answer, answer', sum, first, second, third, adds⟩ := amounts_add_up known same
  rw [repaired] at first
  rw [repaired'] at second
  cases first
  cases second
  cases adds
  exact ⟨known, same, repaired, repaired', third⟩

end Program

end LoopRepair
