import LoopRepair.Proofs.Exchange
import LoopRepair.Proofs.Wordings

/-!
# What a repair returns

A repair runs the program, walks the cycle it finds, and tries the swaps along
it. `RepairAnswer` says which answer is right, without reference to the search:
the accumulator of a program that halts, the first swap along the cycle that
makes it halt, or the fact that none does.

Results:
1. `repair_returns_first_fix`: a repair always returns, and returns the right
   answer.
2. `repair_complete_off_lead_in`: a swap that makes the program halt is found
   unless it lies on the way to the cycle; `repair_misses_lead_in`: there it is
   not even looked for, though it may be the only one that helps.
3. `repair_of_edited_program`: a swap that was found can be made for good, and
   leaves nothing to repair; one that was tried in vain leaves the program looping.
-/

namespace LoopRepair

namespace Program

/-! ## Right answers -/

/-- Whether a position holds a jump or a no-op. -/
def exchangeable (prog : Program) (pos : Nat) : Bool :=
  match prog[pos]? with
  | some ins => ins.op = .jmp || ins.op = .nop
  | none => false

/-- The swap at a position makes the program halt. -/
def HaltsUnder (prog : Program) (pos : Nat) : Prop :=
  ∃ out, (prog.execute (some (pos : Int))).result = .ok out ∧ out.ending = .halted

/-- `RepairAnswer prog answer`: the answer is the right one for the program.

* `unneeded`: the program halts by itself.
* `fixed`: of the jumps and no-ops on the first cycle, in the order of the cycle,
  `p` is the first whose swap makes the program halt. The accumulator is the one
  of the run under that swap; what comes before `p` was tried in vain.
* `hopeless`: no swap of a jump or no-op on the first cycle does. -/
inductive RepairAnswer (prog : Program) : Except NoRepair RepairReport → Prop
  | unneeded {out : Outcome} :
      (prog.execute none).result = .ok out → out.ending = .halted →
      RepairAnswer prog (.ok ⟨out.acc, none, none, []⟩)
  | fixed {loop : LoopReport} {before after : List Nat} {p : Nat} {out : Outcome} :
      prog.firstLoop.result = .ok (some loop) →
      loop.path.filter prog.exchangeable = before ++ p :: after →
      (∀ q ∈ before, ¬ prog.HaltsUnder q) →
      (prog.execute (some (p : Int))).result = .ok out → out.ending = .halted →
      RepairAnswer prog (.ok ⟨out.acc, some p, some loop, before ++ [p]⟩)
  | hopeless {loop : LoopReport} :
      prog.firstLoop.result = .ok (some loop) →
      (∀ q ∈ loop.path.filter prog.exchangeable, ¬ prog.HaltsUnder q) →
      RepairAnswer prog (.error ⟨loop, loop.path.filter prog.exchangeable⟩)

variable {prog : Program} {out : Outcome}

/-- Among known opcodes, all but accumulations can be exchanged. -/
theorem Known.isCandidate_eq (known : prog.Known) : prog.isCandidate = prog.exchangeable := by
  funext pos
  unfold isCandidate exchangeable
  cases here : prog[pos]? with
  | none => rfl
  | some ins =>
    rcases known ins (List.mem_of_getElem? here) with op | op | op <;> simp [op]

/-! ## The first cycle -/

theorem firstLoop_of_halted (returned : (prog.execute none).result = .ok out)
    (halted : out.ending = .halted) : prog.firstLoop.result = .ok none := by
  rw [firstLoop_def, Logged.result_andThen_of_ok returned]
  simp only [halted, Logged.result_pure]

theorem loopReport_of_looped (returned : (prog.execute none).result = .ok out) {entry : Nat}
    (looped : out.ending = .looped entry) :
    loopReport out entry = .ok ⟨entry, out.acc, out.cycle entry⟩ := by
  simp only [loopReport, (execute_eq_ok_iff.mp returned).walk looped]

theorem firstLoop_of_looped (returned : (prog.execute none).result = .ok out) {entry : Nat}
    (looped : out.ending = .looped entry) :
    prog.firstLoop.result = .ok (some ⟨entry, out.acc, out.cycle entry⟩) := by
  rw [firstLoop_def, Logged.result_andThen_of_ok returned]
  simp only [looped, loopReport_of_looped returned looped]
  rfl

/-- A first cycle is one that the plain run closed. -/
theorem Known.looped_of_firstLoop (known : prog.Known) {loop : LoopReport}
    (found : prog.firstLoop.result = .ok (some loop)) :
    ∃ out entry, (prog.execute none).result = .ok out ∧ out.ending = .looped entry ∧
      loop = ⟨entry, out.acc, out.cycle entry⟩ := by
  obtain ⟨out, returned, _⟩ := known.exists_execute none
  cases ended : out.ending with
  | halted =>
    rw [firstLoop_of_halted returned ended] at found
    cases found
  | looped entry =>
    rw [firstLoop_of_looped returned ended] at found
    cases found
    exact ⟨out, entry, returned, ended, rfl⟩

theorem Known.pos_lt_of_firstLoop (known : prog.Known) {loop : LoopReport}
    (found : prog.firstLoop.result = .ok (some loop)) : ∀ p ∈ loop.path, p < prog.length := by
  obtain ⟨out, entry, returned, _, rfl⟩ := known.looped_of_firstLoop found
  intro p onCycle
  apply (execute_eq_ok_iff.mp returned).pos_lt
  rw [← out.leadIn_append_cycle entry]
  exact List.mem_append_right _ onCycle

/-! ## The search -/

/-- One trial of the search. -/
theorem result_tryEach_cons {p : Nat} (returned : (prog.execute (some (p : Int))).result = .ok out)
    (rest : List Nat) :
    (prog.tryEach (p :: rest)).result =
      if out.ending = .halted then .ok ([p], some (p, out))
      else (prog.tryEach rest).result.map fun search => (p :: search.1, search.2) := by
  rw [tryEach_cons, Logged.result_andThen_of_ok returned,
    Logged.result_andThen_of_ok (Logged.result_tell _)]
  by_cases halted : out.ending = .halted
  · simp [Outcome.isHalted, halted]
  · simp only [Outcome.isHalted, halted, decide_false, Bool.false_eq_true, if_false]
    cases search : (prog.tryEach rest).result with
    | error fault => rw [Logged.andThen_of_error search, Except.map]
    | ok found =>
      rw [Logged.result_andThen_of_ok search]
      rfl

/-- Positions tried in vain are passed over, and stay on record. -/
theorem Known.tryEach_append (known : prog.Known) {before : List Nat}
    (vain : ∀ q ∈ before, ¬ prog.HaltsUnder q) (rest : List Nat) :
    (prog.tryEach (before ++ rest)).result =
      (prog.tryEach rest).result.map fun search => (before ++ search.1, search.2) := by
  induction before with
  | nil =>
    rw [List.nil_append]
    cases (prog.tryEach rest).result <;> rfl
  | cons q before ih =>
    obtain ⟨out, returned, _⟩ := known.exists_execute (some (q : Int))
    have goesOn : out.ending ≠ .halted := fun halted => vain q (by simp) ⟨out, returned, halted⟩
    have later := ih fun q' member => vain q' (List.mem_cons_of_mem _ member)
    rw [List.cons_append, result_tryEach_cons returned, if_neg goesOn, later]
    cases (prog.tryEach rest).result <;> rfl

theorem repair_of_halted (returned : (prog.execute none).result = .ok out)
    (halted : out.ending = .halted) :
    prog.repair.result = .ok (.ok ⟨out.acc, none, none, []⟩) := by
  rw [repair_def, Logged.result_andThen_of_ok returned]
  simp only [halted]
  rfl

/-- What a repair makes of its search along the first cycle. -/
theorem Known.repair_of_search (known : prog.Known) {loop : LoopReport}
    (found : prog.firstLoop.result = .ok (some loop)) {tried : List Nat}
    {fix : Option (Nat × Outcome)}
    (search : (prog.tryEach (loop.path.filter prog.exchangeable)).result = .ok (tried, fix)) :
    prog.repair.result = .ok (match fix with
      | some (p, fixed) => .ok ⟨fixed.acc, some p, some loop, tried⟩
      | none => .error ⟨loop, tried⟩) := by
  obtain ⟨out, entry, returned, looped, rfl⟩ := known.looped_of_firstLoop found
  rw [repair_def, Logged.result_andThen_of_ok returned]
  simp only [looped, loopReport_of_looped returned looped, known.isCandidate_eq]
  rw [Logged.result_andThen_of_ok rfl, Logged.result_andThen_of_ok search]
  cases fix <;> rfl

/-! ## Answers -/

theorem RepairAnswer.repair_eq {answer : Except NoRepair RepairReport} (known : prog.Known)
    (right : RepairAnswer prog answer) : prog.repair.result = .ok answer := by
  cases right with
  | unneeded returned halted => exact repair_of_halted returned halted
  | @fixed loop before after p out found split vain returned halted =>
    have search : (prog.tryEach (loop.path.filter prog.exchangeable)).result =
        .ok (before ++ [p], some (p, out)) := by
      rw [split, known.tryEach_append vain, result_tryEach_cons returned, if_pos halted]
      rfl
    exact known.repair_of_search found search
  | @hopeless loop found vain =>
    have search := known.tryEach_append vain []
    simp only [List.append_nil, tryEach_nil, Logged.result_pure, Except.map] at search
    exact known.repair_of_search found search

/-- Every program has a right answer. -/
theorem Known.exists_repairAnswer (known : prog.Known) :
    ∃ answer, RepairAnswer prog answer := by
  classical
  obtain ⟨out, returned, _⟩ := known.exists_execute none
  cases ended : out.ending with
  | halted => exact ⟨_, .unneeded returned ended⟩
  | looped entry =>
    have found := firstLoop_of_looped returned ended
    -- The search is for the first of the candidates that halts, so split them there.
    cases first : ((out.cycle entry).filter prog.exchangeable).find?
        (fun q => decide (prog.HaltsUnder q)) with
    | none =>
      refine ⟨_, .hopeless found ?_⟩
      simpa using List.find?_eq_none.mp first
    | some p =>
      obtain ⟨halts, before, after, split, vain⟩ := List.find?_eq_some_iff_append.mp first
      obtain ⟨fixed, returned', halted⟩ := of_decide_eq_true halts
      refine ⟨_, .fixed found split ?_ returned' halted⟩
      simpa using vain

theorem Known.repair_eq_ok_iff (known : prog.Known) {answer : Except NoRepair RepairReport} :
    prog.repair.result = .ok answer ↔ RepairAnswer prog answer := by
  constructor
  · intro returned
    obtain ⟨right, answers⟩ := known.exists_repairAnswer
    rw [answers.repair_eq known] at returned
    cases returned
    exact answers
  · exact fun answers => answers.repair_eq known

/-- A repair returns, and returns the right answer and no other: the accumulator
of a program that halts; else the first swap along the first cycle that makes it
halt; else the failure that names the cycle and all that was tried. Every position
it looks at holds an instruction. -/
theorem repair_returns_first_fix (known : prog.Known) :
    (∃ answer, prog.repair.result = .ok answer) ∧
    (∀ answer, prog.repair.result = .ok answer ↔ RepairAnswer prog answer) ∧
    (∀ trouble, prog.repair.result = .ok (.error trouble) →
      (Failure.noRepair trouble).code = "E_NO_REPAIR" ∧
      (Failure.noRepair trouble).details =
        .obj [("loop", trouble.loop.toJson), ("candidates", .ofPositions trouble.candidates)] ∧
      Json.read (Failure.noRepair trouble).details.line =
        some (.obj [("loop", trouble.loop.said),
          ("candidates", saidPositions trouble.candidates)])) ∧
    ∀ loop, prog.firstLoop.result = .ok (some loop) → ∀ p ∈ loop.path, p < prog.length := by
  refine ⟨?_, fun _ => known.repair_eq_ok_iff,
    fun trouble _ => ⟨rfl, rfl, Json.read_noRepair trouble⟩, fun _ => known.pos_lt_of_firstLoop⟩
  obtain ⟨answer, answers⟩ := known.exists_repairAnswer
  exact ⟨answer, answers.repair_eq known⟩

/-- Of the jumps on the cycle of `exSample`, the second one tried helps. -/
theorem exSample_repaired :
    exSample.Known ∧
    RepairAnswer exSample (.ok ⟨8, some 7, some ⟨1, 5, [1, 2, 6, 7, 3, 4]⟩, [2, 7]⟩) := by
  have known : exSample.Known := by decide
  refine ⟨known, ((repair_returns_first_fix known).2.1 _).mp ?_⟩
  cbv

/-! ## Which programs are repaired -/

variable {loop : LoopReport}

/-- A looping program is repaired if a swap on its first cycle makes it halt. -/
theorem Known.repaired_iff (known : prog.Known) (found : prog.firstLoop.result = .ok (some loop)) :
    (∃ report, prog.repair.result = .ok (.ok report)) ↔
      ∃ p ∈ loop.path.filter prog.exchangeable, prog.HaltsUnder p := by
  constructor
  · rintro ⟨report, returned⟩
    cases known.repair_eq_ok_iff.mp returned with
    | unneeded plain halted =>
      rw [firstLoop_of_halted plain halted] at found
      cases found
    | @fixed loop' before after p fixed found' split vain trial halted =>
      rw [found'] at found
      cases found
      exact ⟨p, by simp [split], fixed, trial, halted⟩
  · rintro ⟨p, candidate, halts⟩
    obtain ⟨answer, answers⟩ := known.exists_repairAnswer
    have returned := answers.repair_eq known
    cases answers with
    | unneeded _ _ | fixed _ _ _ _ _ => exact ⟨_, returned⟩
    | hopeless found' vain =>
      rw [found'] at found
      cases found
      exact absurd halts (vain p candidate)

theorem Known.not_repaired_iff (known : prog.Known) :
    (∃ trouble, prog.repair.result = .ok (.error trouble)) ↔
      ¬ ∃ report, prog.repair.result = .ok (.ok report) := by
  obtain ⟨answer, answers⟩ := known.exists_repairAnswer
  rw [answers.repair_eq known]
  cases answer <;> simp

/-- A swap that stops a looping program is at a position that the plain run
visits. -/
theorem HaltsUnder.mem_positions {p entry : Nat} (halts : prog.HaltsUnder p)
    (returned : (prog.execute none).result = .ok out) (looped : out.ending = .looped entry) :
    p ∈ out.positions := by
  apply Classical.byContradiction
  intro unvisited
  obtain ⟨fixed, returned', halted⟩ := halts
  have same := execute_eq_ok_iff.mpr ((execute_eq_ok_iff.mp returned).swap_unvisited unvisited)
  rw [same] at returned'
  cases returned'
  rw [looped] at halted
  cases halted

/-- A looping program is repaired if and only if it halts under the swap of some
jump or no-op that does not lie on the way to the cycle, be it on the cycle or
never visited. The search fails if and only if there is no such swap. -/
theorem repair_complete_off_lead_in (known : prog.Known) {entry : Nat}
    (returned : (prog.execute none).result = .ok out) (looped : out.ending = .looped entry) :
    ((∃ report, prog.repair.result = .ok (.ok report)) ↔
      ∃ p, prog.exchangeable p ∧ p ∉ out.leadIn entry ∧ prog.HaltsUnder p) ∧
    ((∃ trouble, prog.repair.result = .ok (.error trouble)) ↔
      ∀ p, prog.exchangeable p → p ∉ out.leadIn entry → ¬ prog.HaltsUnder p) := by
  have repaired : (∃ report, prog.repair.result = .ok (.ok report)) ↔
      ∃ p, prog.exchangeable p ∧ p ∉ out.leadIn entry ∧ prog.HaltsUnder p := by
    rw [known.repaired_iff (firstLoop_of_looped returned looped)]
    constructor
    · rintro ⟨p, candidate, halts⟩
      obtain ⟨onCycle, exchangeable⟩ := List.mem_filter.mp candidate
      exact ⟨p, exchangeable, (execute_eq_ok_iff.mp returned).not_mem_leadIn onCycle, halts⟩
    · -- A swap that is never reached does not help, and the lead-in is excluded: the cycle is left.
      rintro ⟨p, exchangeable, offLeadIn, halts⟩
      have visited := halts.mem_positions returned looped
      rw [← out.leadIn_append_cycle entry, List.mem_append] at visited
      exact ⟨p, List.mem_filter.mpr ⟨visited.resolve_left offLeadIn, exchangeable⟩, halts⟩
  refine ⟨repaired, ?_⟩
  rw [known.not_repaired_iff, repaired]
  simp only [not_exists, not_and]

theorem exDetour_loops :
    (exDetour.execute none).result = .ok ⟨.looped 1, 0, [(0, 1), (1, 1)]⟩ := by
  cbv

theorem exDetour_repair :
    exDetour.repair.result = .ok (.error ⟨⟨1, 0, [1]⟩, [1]⟩) := by
  cbv

/-- Off its lead-in, no swap helps `exDetour`. -/
theorem exDetour_hopeless :
    exDetour.Known ∧ (∃ trouble, exDetour.repair.result = .ok (.error trouble)) ∧
    ∀ p, exDetour.exchangeable p → p ∉ [0] → ¬ exDetour.HaltsUnder p := by
  have known : exDetour.Known := by decide
  have failed : ∃ trouble, exDetour.repair.result = .ok (.error trouble) := ⟨_, exDetour_repair⟩
  exact ⟨known, failed, (repair_complete_off_lead_in known exDetour_loops rfl).2.mp failed⟩

/-- The lead-in cannot be left out of account: a swap there may be the one that
makes the program halt, and the search does not find it. -/
theorem repair_misses_lead_in :
    ¬ ∀ prog : Program, prog.Known →
      (∃ out entry, (prog.execute none).result = .ok out ∧ out.ending = .looped entry) →
      (∃ p, p < prog.length ∧ prog.exchangeable p ∧ prog.HaltsUnder p) →
      ∃ report, prog.repair.result = .ok (.ok report) := by
  intro complete
  have halts : exDetour.HaltsUnder 0 := ⟨⟨.halted, 0, [(0, 3)]⟩, by cbv, rfl⟩
  obtain ⟨report, returned⟩ := complete exDetour (by decide) ⟨_, 1, exDetour_loops, rfl⟩
    ⟨0, by decide, by decide, halts⟩
  rw [exDetour_repair] at returned
  cases returned

/-! ## Making a swap for good -/

/-- A swap that makes the program halt, made for good, leaves nothing to repair. -/
theorem repair_flipAt_of_halted {p : Int} (returned : (prog.execute (some p)).result = .ok out)
    (halted : out.ending = .halted) :
    (prog.flipAt p).repair.result = .ok (.ok ⟨out.acc, none, none, []⟩) := by
  have runs := (execute_eq_ok_iff.mp returned).flipAt
  exact repair_of_halted (execute_eq_ok_iff.mpr runs) halted

theorem Known.firstLoop_flipAt (known : prog.Known) {p : Nat} (vain : ¬ prog.HaltsUnder p) :
    ∃ loop, (prog.flipAt p).firstLoop.result = .ok (some loop) := by
  obtain ⟨out, returned, runs⟩ := known.exists_execute (some (p : Int))
  cases ended : out.ending with
  | halted => exact absurd ⟨out, returned, ended⟩ vain
  | looped entry => exact ⟨_, firstLoop_of_looped (execute_eq_ok_iff.mpr runs.flipAt) ended⟩

/-- If a repair names a position, exchanging the jump or no-op there gives a
program that halts by itself, with the accumulator of the repair: repairing it
again finds nothing to do. If a repair fails, exchanging any of the positions it
tried gives a program that still loops. -/
theorem repair_of_edited_program (known : prog.Known) :
    (∀ report p, prog.repair.result = .ok (.ok report) → report.swappedAt = some p →
      prog.exchangeable p ∧ prog.FlippedAt p (prog.flipAt p) ∧
      (prog.flipAt p).repair.result = .ok (.ok ⟨report.acc, none, none, []⟩)) ∧
    (∀ trouble, prog.repair.result = .ok (.error trouble) → ∀ q ∈ trouble.candidates,
      prog.exchangeable q ∧ prog.FlippedAt q (prog.flipAt q) ∧
      ∃ loop, (prog.flipAt q).firstLoop.result = .ok (some loop)) := by
  constructor
  · intro report p returned swapped
    cases known.repair_eq_ok_iff.mp returned with
    | unneeded _ _ => cases swapped
    | @fixed loop _ _ _ _ _ split _ trial halted =>
      cases swapped
      have candidate : p ∈ loop.path.filter prog.exchangeable := by
        rw [split]
        exact List.mem_append_right _ List.mem_cons_self
      exact ⟨(List.mem_filter.mp candidate).2, flippedAt_flipAt prog p,
        repair_flipAt_of_halted trial halted⟩
  · intro trouble returned q tried
    cases known.repair_eq_ok_iff.mp returned with
    | hopeless _ vain =>
      exact ⟨(List.mem_filter.mp tried).2, flippedAt_flipAt prog q,
        known.firstLoop_flipAt (vain q tried)⟩

/-- The repair of `exSample` holds; that of `exDetour` failed, and still does. -/
theorem exSample_stays_repaired :
    exSample.Known ∧ exDetour.Known ∧
    exSample.repair.result = .ok (.ok ⟨8, some 7, some ⟨1, 5, [1, 2, 6, 7, 3, 4]⟩, [2, 7]⟩) ∧
    (exSample.flipAt 7).repair.result = .ok (.ok ⟨8, none, none, []⟩) ∧
    exDetour.repair.result = .ok (.error ⟨⟨1, 0, [1]⟩, [1]⟩) ∧
    ∃ loop, (exDetour.flipAt 1).firstLoop.result = .ok (some loop) := by
  have known : exSample.Known := by decide
  have known' : exDetour.Known := by decide
  have repaired : exSample.repair.result =
      .ok (.ok ⟨8, some 7, some ⟨1, 5, [1, 2, 6, 7, 3, 4]⟩, [2, 7]⟩) := by cbv
  obtain ⟨_, _, again⟩ := (repair_of_edited_program known).1 _ 7 repaired rfl
  obtain ⟨_, _, loops⟩ := (repair_of_edited_program known').2 _ exDetour_repair 1 (by decide)
  exact ⟨known, known', repaired, again, exDetour_repair, loops⟩

end Program

end LoopRepair
