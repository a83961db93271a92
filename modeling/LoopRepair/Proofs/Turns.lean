import LoopRepair.Proofs.Recurrence
import LoopRepair.Proofs.Repairs

/-!
# Where a cycle turns back

An accumulation and a no-op go on to the next position, and a jump by a positive
operand goes ahead too, since the end to which it may be clamped lies ahead of every
instruction. Moves that only go ahead never come back to where they started. So a
cycle has a jump on it whose operand is not positive, or a no-op that acts as one.

No single move shows this. The argument is about the whole lap: positions would
grow from its entry to its entry.

Results:
1. `Step.turnsBack_iff`: the steps that do not go ahead are those of such jumps.
2. `Cycle.Linked.exists_back`: moves that do not lead ahead have one among them that
   does not. `RunsTo.exists_turnsBack`: so there is a turn on every cycle.
3. `cycle_holds_backward_jump`: what this means for executions, for programs whose
   jumps all go ahead, and for the search along a cycle.
-/

namespace LoopRepair

/-! ## Moves that go ahead -/

/-- Moves that lead from a position to one that is not ahead of it do not all go ahead. -/
theorem Cycle.Linked.exists_back {p q : Nat} {moves : List (Nat × Nat)}
    (linked : Linked p moves q) (nonempty : moves ≠ []) (notAhead : q ≤ p) :
    ∃ move ∈ moves, move.2 ≤ move.1 := by
  induction linked with
  | nil => exact absurd rfl nonempty
  | @cons p next q moves rest ih =>
    rcases Nat.lt_or_ge p next with ahead | back
    · -- The first move goes ahead, so the others have to make up for it.
      have more : moves ≠ [] := by
        rintro rfl
        cases rest
        omega
      obtain ⟨move, later, back⟩ := ih more (by omega)
      exact ⟨move, List.mem_cons_of_mem _ later, back⟩
    · exact ⟨(p, next), List.mem_cons_self, back⟩

namespace Program

/-- `TurnsBack prog swap pos`: what is in force at the position is a jump whose operand is
not positive.

* `jump`: a jump stands there, and is not swapped.
* `swappedPass`: a no-op stands there, and is swapped. -/
inductive TurnsBack (prog : Program) (swap : Swap) (pos : Nat) : Prop
  | jump {d : Int} :
      prog[pos]? = some ⟨.jmp, d⟩ → swap ≠ some (pos : Int) → d ≤ 0 → TurnsBack prog swap pos
  | swappedPass {d : Int} :
      prog[pos]? = some ⟨.nop, d⟩ → swap = some (pos : Int) → d ≤ 0 → TurnsBack prog swap pos

variable {prog : Program} {swap : Swap} {s t : State} {out : Outcome}

/-! ## Steps -/

/-- From inside the program, a jump goes ahead exactly if its operand is positive. Neither of
the two clamps turns it round. -/
theorem target_le_iff {size pos target : Nat} {d : Int}
    (lands : (target : Int) = max 0 (min (pos + d) size)) (inside : pos < size) :
    target ≤ pos ↔ d ≤ 0 := by
  omega

/-- The steps that do not go ahead are the jumps whose operand is not positive. -/
theorem Step.turnsBack_iff (step : Step prog swap s t) :
    TurnsBack prog swap s.pos ↔ t.pos ≤ s.pos := by
  have inside := step.pos_lt
  constructor
  · intro turns
    cases turns with
    | jump here plain notPositive =>
      cases step with
      | jump here' _ lands =>
        cases here.symm.trans here'
        exact (target_le_iff lands inside).mpr notPositive
      | swappedJump _ swapped => exact absurd swapped plain
      | add here' | pass here' _ | swappedPass here' _ _ => cases here.symm.trans here'
    | swappedPass here swapped notPositive =>
      cases step with
      | swappedPass here' _ lands =>
        cases here.symm.trans here'
        exact (target_le_iff lands inside).mpr notPositive
      | pass _ plain => exact absurd swapped plain
      | add here' | jump here' _ _ | swappedJump here' _ => cases here.symm.trans here'
  · intro back
    cases step with
    | add _ | pass _ _ | swappedJump _ _ => exact absurd back (Nat.not_succ_le_self _)
    | jump here plain lands => exact .jump here plain ((target_le_iff lands inside).mp back)
    | swappedPass here swapped lands =>
      exact .swappedPass here swapped ((target_le_iff lands inside).mp back)

/-! ## Cycles -/

/-- Somewhere on its cycle a looping run turns back. -/
theorem RunsTo.exists_turnsBack (runs : RunsTo prog swap [] .start out) {entry : Nat}
    (looped : out.ending = .looped entry) :
    ∃ pos ∈ out.cycle entry, TurnsBack prog swap pos := by
  have visits := runs.entry_mem_cycle looped
  rw [← out.keys_lap] at visits ⊢
  have nonempty : out.lap entry ≠ [] := by
    intro empty
    rw [empty] at visits
    cases visits
  obtain ⟨⟨pos, next⟩, made, back⟩ :=
    (runs.linked_lap looped).exists_back nonempty (Nat.le_refl entry)
  have step := runs.leads_lap (pos, next) made 0
  exact ⟨pos, List.mem_map_of_mem made, step.turnsBack_iff.mpr back⟩

/-- Without a swap, a turn is a jump of the program. -/
theorem TurnsBack.exists_jmp {pos : Nat} (turns : TurnsBack prog none pos) :
    ∃ d ≤ 0, prog[pos]? = some ⟨.jmp, d⟩ := by
  cases turns with
  | @jump d here _ notPositive => exact ⟨d, notPositive, here⟩
  | swappedPass _ swapped _ => cases swapped

/-- The plain run of a program whose jumps all go ahead leaves the program. -/
theorem RunsTo.halted_of_forward (runs : RunsTo prog none [] .start out)
    (forward : ∀ d, (⟨.jmp, d⟩ : Instr) ∈ prog → 1 ≤ d) : out.ending = .halted := by
  cases ended : out.ending with
  | halted => rfl
  | looped entry =>
    obtain ⟨pos, _, turns⟩ := runs.exists_turnsBack ended
    obtain ⟨d, notPositive, here⟩ := turns.exists_jmp
    have positive := forward d (List.mem_of_getElem? here)
    omega

/-! ## The search along a cycle -/

/-- The positions that were tried on the way to an answer. -/
def triedFor : Except NoRepair RepairReport → List Nat
  | .ok report => report.candidates
  | .error trouble => trouble.candidates

/-- There is always a candidate on the first cycle: the jump by which it turns back. -/
theorem Known.exists_candidate (known : prog.Known) {loop : LoopReport}
    (found : prog.firstLoop.result = .ok (some loop)) :
    loop.path.filter prog.exchangeable ≠ [] := by
  obtain ⟨out, entry, returned, looped, rfl⟩ := known.looped_of_firstLoop found
  obtain ⟨pos, onCycle, turns⟩ := (execute_eq_ok_iff.mp returned).exists_turnsBack looped
  obtain ⟨d, _, here⟩ := turns.exists_jmp
  have candidate : prog.exchangeable pos = true := by simp [exchangeable, here]
  exact List.ne_nil_of_mem (List.mem_filter.mpr ⟨onCycle, candidate⟩)

/-- Unless the program halts by itself, something was tried. -/
theorem RepairAnswer.triedFor_ne_nil {answer : Except NoRepair RepairReport} (known : prog.Known)
    (right : RepairAnswer prog answer) {entry : Nat}
    (returned : (prog.execute none).result = .ok out) (looped : out.ending = .looped entry) :
    triedFor answer ≠ [] := by
  cases right with
  | unneeded returned' halted =>
    rw [returned] at returned'
    cases returned'
    rw [looped] at halted
    cases halted
  | fixed _ _ _ _ _ => exact List.append_ne_nil_of_right_ne_nil _ (List.cons_ne_nil _ _)
  | hopeless found _ => exact known.exists_candidate found

/-- On every cycle that an execution reports, under any swap, the walk along it passes a
position at which a jump is in force whose operand is not positive. So a program whose jumps
have positive operands halts when executed plainly, and needs no repair. And a search for a
repair, which is along a cycle, has something to try: whether it finds a swap or fails, its
candidates are not empty. -/
theorem cycle_holds_backward_jump (known : prog.Known) :
    (∀ (swap : Swap) (out : Outcome) (entry : Nat),
      (prog.execute swap).result = .ok out → out.ending = .looped entry →
      ∃ path, Cycle.walk out.moves entry = .ok path ∧ ∃ pos ∈ path, TurnsBack prog swap pos) ∧
    ((∀ d, (⟨.jmp, d⟩ : Instr) ∈ prog → 1 ≤ d) →
      ∃ out, (prog.execute none).result = .ok out ∧ out.ending = .halted ∧
        prog.repair.result = .ok (.ok ⟨out.acc, none, none, []⟩)) ∧
    (∀ (out : Outcome) (entry : Nat),
      (prog.execute none).result = .ok out → out.ending = .looped entry →
      ∃ answer, prog.repair.result = .ok answer ∧ triedFor answer ≠ []) ∧
    ∀ trouble, prog.repair.result = .ok (.error trouble) → trouble.candidates ≠ [] := by
  refine ⟨?_, ?_, ?_, ?_⟩
  · intro swap out entry returned looped
    have runs := execute_eq_ok_iff.mp returned
    exact ⟨out.cycle entry, runs.walk looped, runs.exists_turnsBack looped⟩
  · intro forward
    obtain ⟨out, returned, runs⟩ := known.exists_execute none
    have halted := runs.halted_of_forward forward
    exact ⟨out, returned, halted, repair_of_halted returned halted⟩
  · intro out entry returned looped
    obtain ⟨answer, right⟩ := known.exists_repairAnswer
    exact ⟨answer, right.repair_eq known, right.triedFor_ne_nil known returned looped⟩
  · intro trouble failed
    cases known.repair_eq_ok_iff.mp failed with
    | hopeless found _ => exact known.exists_candidate found

/-- A jump over an accumulation, and a no-op behind them that would lead back to the start. -/
def exForward : Program :=
  [⟨.jmp, 2⟩, ⟨.acc, 1⟩, ⟨.nop, -2⟩]

/-- `exForward` halts, for its one jump goes ahead. With the no-op swapped it turns back there.
The search along the cycle of `exDetour` fails, but not for want of candidates. -/
theorem exForward_turns :
    exForward.Known ∧ (∀ d, (⟨.jmp, d⟩ : Instr) ∈ exForward → 1 ≤ d) ∧
    (∃ out, (exForward.execute none).result = .ok out ∧ out.ending = .halted ∧
      exForward.repair.result = .ok (.ok ⟨out.acc, none, none, []⟩)) ∧
    (exForward.execute (some 2)).result = .ok ⟨.looped 0, 0, [(0, 2), (2, 0)]⟩ ∧
    (∃ pos ∈ [0, 2], TurnsBack exForward (some 2) pos) ∧
    exDetour.Known ∧ ∃ trouble, exDetour.repair.result = .ok (.error trouble) ∧
      trouble.candidates ≠ [] := by
  have known : exForward.Known := by decide
  have known' : exDetour.Known := by decide
  have forward : ∀ d, (⟨.jmp, d⟩ : Instr) ∈ exForward → 1 ≤ d := by
    intro d member
    simp only [exForward, List.mem_cons, Instr.mk.injEq, reduceCtorEq, false_and, List.not_mem_nil,
      or_false, true_and] at member
    omega
  have loops : (exForward.execute (some 2)).result =
      .ok ⟨.looped 0, 0, [(0, 2), (2, 0)]⟩ := by cbv
  have walked : Cycle.walk [(0, 2), (2, 0)] 0 = .ok [0, 2] := by cbv
  obtain ⟨cycles, halts, _, _⟩ := cycle_holds_backward_jump known
  obtain ⟨_, _, _, tried⟩ := cycle_holds_backward_jump known'
  obtain ⟨path, found, turns⟩ := cycles (some 2) _ 0 loops rfl
  rw [walked] at found
  cases found
  exact ⟨known, forward, halts forward, loops, turns, known', _, exDetour_repair,
    tried _ exDetour_repair⟩

end Program

end LoopRepair
