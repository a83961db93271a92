import LoopRepair.Proofs.Commands
import LoopRepair.Proofs.JsonLines

/-!
# When an unknown opcode is a fault

A program put together by hand may hold opcodes the machine does not know. They do no
harm by being there: a run faults exactly if it arrives at one. `Meets` says what it is to
arrive, by the steps of the machine alone, and `run_eq_error_iff` that this is when a run
faults. What a run has not arrived at may be replaced (`execute_patched`).

A search for a repair runs the program several times, and each swap may lead to places where
the plain run has not been. `tryEach_faults_iff` says which of these runs count: the ones up
to the first that halts.
-/

namespace LoopRepair

/-- The machine does not know the opcode. -/
def Instr.IsForeign (ins : Instr) : Prop :=
  ins.op ≠ .acc ∧ ins.op ≠ .jmp ∧ ins.op ≠ .nop

instance (ins : Instr) : Decidable ins.IsForeign :=
  inferInstanceAs (Decidable (ins.op ≠ .acc ∧ ins.op ≠ .jmp ∧ ins.op ≠ .nop))

namespace Instr

variable {ins : Instr}

theorem flip_of_isForeign (foreign : ins.IsForeign) : ins.flip = ins := by
  obtain ⟨op, d⟩ := ins
  cases op with
  | acc | other name => rfl
  | jmp => exact absurd rfl foreign.2.1
  | nop => exact absurd rfl foreign.2.2

theorem isForeign_flip_iff : ins.flip.IsForeign ↔ ins.IsForeign := by
  obtain ⟨op, d⟩ := ins
  cases op <;> simp [IsForeign, flip, Opcode.flip]

theorem apply_eq_none_iff {size : Nat} {s : State} :
    ins.apply size s = none ↔ ins.IsForeign := by
  obtain ⟨op, d⟩ := ins
  cases op <;> simp [IsForeign, apply]

end Instr

/-- The computation ends in a fault. -/
def Logged.Faults {ε α : Type} (x : Logged ε α) : Prop :=
  ∃ fault, x.result = .error fault

theorem Logged.not_faults_iff {ε α : Type} {x : Logged ε α} :
    ¬ x.Faults ↔ ∃ a, x.result = .ok a := by
  unfold Faults
  cases x.result <;> simp

/-- The message of an unknown opcode holds the instruction, as a line of JSON. -/
theorem Fault.message_unknownOpcode (ins : Instr) :
    ∃ text, (Fault.unknownOpcode ins).message = "unknown opcode: " ++ text ∧
      Json.read text =
        some (.obj [("op", .str ins.op.name), ("arg", .str (Decimal.write ins.arg))]) :=
  ⟨_, rfl, Json.read_line _⟩

namespace Program

variable {prog prog' : Program} {swap : Swap} {visited : List Nat} {s t : State} {ins : Instr}
  {out : Outcome} {fault : Fault}

/-! ## Arriving at an unknown opcode -/

/-- `Trail prog swap visited s`: from its start the machine has come to `s`, and has been at the
positions `visited` on the way, the last one first. -/
inductive Trail (prog : Program) (swap : Swap) : List Nat → State → Prop
  | start : Trail prog swap [] .start
  | step {visited : List Nat} {s t : State} :
      Trail prog swap visited s → Step prog swap s t → Trail prog swap (s.pos :: visited) t

/-- `Meets prog swap ins`: the machine arrives at an instruction it does not know, before it
comes to any position for the second time. It is the first such instruction on its way. -/
def Meets (prog : Program) (swap : Swap) (ins : Instr) : Prop :=
  ∃ visited s, Trail prog swap visited s ∧ (s.pos :: visited).Nodup ∧
    prog[s.pos]? = some ins ∧ ins.IsForeign ∧
    ∀ pos ∈ visited, ∃ ins', prog[pos]? = some ins' ∧ ¬ ins'.IsForeign

/-- A swap exchanges nothing at an instruction the machine does not know. -/
theorem fetch_foreign_iff {pos : Nat} :
    (prog.fetch swap pos = some ins ∧ ins.IsForeign) ↔
      (prog[pos]? = some ins ∧ ins.IsForeign) := by
  constructor
  · rintro ⟨fetched, foreign⟩
    rcases fetch_eq_some_iff.mp fetched with ⟨_, here⟩ | ⟨_, here⟩
    · exact ⟨here, foreign⟩
    · rw [Instr.flip_of_isForeign foreign] at here
      exact ⟨here, foreign⟩
  · rintro ⟨here, foreign⟩
    refine ⟨fetch_eq_some_iff.mpr ?_, foreign⟩
    rw [Instr.flip_of_isForeign foreign]
    by_cases swapped : swap = some (pos : Int)
    · exact .inr ⟨swapped, here⟩
    · exact .inl ⟨swapped, here⟩

/-- A step is made by an instruction the machine knows. -/
theorem Step.exists_known (step : Step prog swap s t) :
    ∃ ins, prog[s.pos]? = some ins ∧ ¬ ins.IsForeign := by
  cases step with
  | add here | jump here _ _ | pass here _ | swappedJump here _ | swappedPass here _ _ =>
    exact ⟨_, here, by simp [Instr.IsForeign]⟩

theorem Trail.exists_known (trail : Trail prog swap visited s) :
    ∀ pos ∈ visited, ∃ ins, prog[pos]? = some ins ∧ ¬ ins.IsForeign := by
  induction trail with
  | start => exact fun _ member => absurd member List.not_mem_nil
  | step _ step ih => exact List.forall_mem_cons.mpr ⟨step.exists_known, ih⟩

theorem Meets.of_runFrom (faulted : prog.runFrom swap visited s = .error ins)
    (trail : Trail prog swap visited s) (once : visited.Nodup) : Meets prog swap ins := by
  fun_induction runFrom prog swap visited s with
  | case1 | case2 => cases faulted
  | case3 visited s new ins' fetched stuck =>
    cases faulted
    have foreign := Instr.apply_eq_none_iff.mp stuck
    have here := (fetch_foreign_iff.mp ⟨fetched, foreign⟩).1
    exact ⟨visited, s, trail, List.nodup_cons.mpr ⟨new, once⟩, here, foreign, trail.exists_known⟩
  | case4 visited s new ins' fetched t applied ih =>
    have goesOn := trail.step (step_iff.mpr ⟨ins', fetched, applied⟩)
    cases rest : prog.runFrom swap (s.pos :: visited) t with
    | error ins'' =>
      rw [rest] at faulted
      cases faulted
      exact ih rest goesOn (List.nodup_cons.mpr ⟨new, once⟩)
    | ok out =>
      rw [rest] at faulted
      cases faulted

/-- If the rest of a run faults, so does the run. -/
theorem Trail.run_eq_error (trail : Trail prog swap visited s) (once : visited.Nodup)
    (faulted : prog.runFrom swap visited s = .error ins) : prog.run swap = .error ins := by
  induction trail with
  | start => exact faulted
  | step _ step ih =>
    obtain ⟨new, once⟩ := List.nodup_cons.mp once
    obtain ⟨ins', fetched, applied⟩ := step_iff.mp step
    refine ih once ?_
    rw [runFrom_eq, if_neg new, fetched]
    simp only [applied, faulted]
    rfl

/-- A run faults at the instruction that the machine meets and does not know. -/
theorem run_eq_error_iff : prog.run swap = .error ins ↔ Meets prog swap ins := by
  constructor
  · intro faulted
    exact .of_runFrom faulted .start List.nodup_nil
  · rintro ⟨visited, s, trail, once, here, foreign, _⟩
    obtain ⟨new, once⟩ := List.nodup_cons.mp once
    obtain ⟨fetched, _⟩ := fetch_foreign_iff.mpr ⟨here, foreign⟩
    refine trail.run_eq_error once ?_
    rw [runFrom_eq, if_neg new, fetched]
    simp only [Instr.apply_eq_none_iff.mpr foreign]

theorem execute_eq_error_iff :
    (prog.execute swap).result = .error fault ↔
      ∃ ins, fault = .unknownOpcode ins ∧ Meets prog swap ins := by
  simp only [← run_eq_error_iff]
  rw [execute_def]
  cases prog.run swap with
  | ok out => simp
  | error ins => simp [eq_comm]

/-- A run that faults leaves no tag. -/
theorem log_execute_of_faults (faults : (prog.execute swap).Faults) :
    (prog.execute swap).log = [] := by
  obtain ⟨fault, faulted⟩ := faults
  rw [execute_def] at faulted ⊢
  cases ran : prog.run swap with
  | ok out =>
    rw [ran] at faulted
    cases faulted
  | error ins => rfl

/-! ## Replacing what was not met -/

/-- `Patched prog prog'`: the programs are of one length, and differ at most where `prog` holds
an instruction the machine does not know. -/
structure Patched (prog prog' : Program) : Prop where
  length_eq : prog'.length = prog.length
  same : ∀ (pos : Nat) (ins : Instr), prog[pos]? = some ins → ¬ ins.IsForeign →
    prog'[pos]? = some ins

theorem Step.patched (step : Step prog swap s t) (patched : Patched prog prog') :
    Step prog' swap s t := by
  obtain ⟨ins, fetched, applied⟩ := step_iff.mp step
  refine step_iff.mpr ⟨ins, ?_, by rw [patched.length_eq]; exact applied⟩
  have known : ¬ ins.IsForeign := by
    intro foreign
    rw [Instr.apply_eq_none_iff.mpr foreign] at applied
    cases applied
  rw [fetch_eq_some_iff] at fetched ⊢
  rcases fetched with ⟨plain, here⟩ | ⟨swapped, here⟩
  · exact .inl ⟨plain, patched.same _ _ here known⟩
  · exact .inr ⟨swapped, patched.same _ _ here (mt Instr.isForeign_flip_iff.mp known)⟩

/-- A run that has met no unknown opcode is the same whatever stands in the place of one. -/
theorem execute_patched (returned : (prog.execute swap).result = .ok out)
    (patched : Patched prog prog') : prog'.execute swap = prog.execute swap := by
  have runs := (execute_eq_ok_iff.mp returned).transfer patched.length_eq
    fun _ _ _ step => step.patched patched
  rw [execute_eq returned, execute_eq (execute_eq_ok_iff.mpr runs)]

/-! ## The search for a repair -/

/-- The first cycle is found unless the run faults. -/
theorem firstLoop_eq_error_iff :
    prog.firstLoop.result = .error fault ↔ (prog.execute none).result = .error fault := by
  cases returned : (prog.execute none).result with
  | error fault' =>
    rw [firstLoop_def, Logged.andThen_of_error returned]
    simp only [Except.error.injEq]
  | ok out =>
    cases ended : out.ending with
    | halted => simp [firstLoop_of_halted returned ended]
    | looped entry => simp [firstLoop_of_looped returned ended]

/-- On a cycle, where every opcode is known, all but accumulations can be exchanged. -/
theorem filter_isCandidate_cycle (returned : (prog.execute none).result = .ok out) (entry : Nat) :
    (out.cycle entry).filter prog.isCandidate = (out.cycle entry).filter prog.exchangeable := by
  apply List.filter_congr
  intro pos onCycle
  have visits : pos ∈ out.positions := by
    rw [← out.leadIn_append_cycle entry]
    exact List.mem_append_right _ onCycle
  obtain ⟨⟨pos, next⟩, made, rfl⟩ := List.mem_map.mp visits
  obtain ⟨ins, here, known⟩ := ((execute_eq_ok_iff.mp returned).leads made 0).exists_known
  obtain ⟨op, d⟩ := ins
  unfold isCandidate exchangeable
  rw [here]
  cases op with
  | acc | jmp | nop => rfl
  | other name => exact absurd (by simp [Instr.IsForeign]) known

/-- `FaultsAmong prog positions`: the run under the swap at one of the positions faults, and no
swap at a position before it lets the program halt. -/
def FaultsAmong (prog : Program) (positions : List Nat) : Prop :=
  ∃ (before : List Nat) (p : Nat) (after : List Nat), positions = before ++ p :: after ∧
    (∀ q ∈ before, ¬ prog.HaltsUnder q) ∧ (prog.execute (some (p : Int))).Faults

theorem not_faultsAmong_nil : ¬ prog.FaultsAmong [] := by
  rintro ⟨before, p, after, split, _⟩
  cases before <;> cases split

theorem faultsAmong_cons (p : Nat) (rest : List Nat) :
    prog.FaultsAmong (p :: rest) ↔
      (prog.execute (some (p : Int))).Faults ∨ (¬ prog.HaltsUnder p ∧ prog.FaultsAmong rest) := by
  constructor
  · rintro ⟨before, q, after, split, vain, faults⟩
    cases before with
    | nil =>
      cases split
      exact .inl faults
    | cons p before =>
      cases split
      obtain ⟨vain, vainRest⟩ := List.forall_mem_cons.mp vain
      exact .inr ⟨vain, before, q, after, rfl, vainRest, faults⟩
  · rintro (faults | ⟨vain, before, q, after, rfl, vainRest, faults⟩)
    · exact ⟨[], p, rest, rfl, fun _ member => absurd member List.not_mem_nil, faults⟩
    · exact ⟨p :: before, q, after, rfl, List.forall_mem_cons.mpr ⟨vain, vainRest⟩, faults⟩

theorem haltsUnder_iff {p : Nat} (returned : (prog.execute (some (p : Int))).result = .ok out) :
    prog.HaltsUnder p ↔ out.ending = .halted := by
  constructor
  · rintro ⟨out', returned', halted⟩
    rw [returned] at returned'
    cases returned'
    exact halted
  · exact fun halted => ⟨out, returned, halted⟩

theorem tryEach_faults_iff (positions : List Nat) :
    (prog.tryEach positions).Faults ↔ prog.FaultsAmong positions := by
  induction positions with
  | nil =>
    refine ⟨?_, fun among => absurd among not_faultsAmong_nil⟩
    rintro ⟨_, ⟨⟩⟩
  | cons p rest ih =>
    rw [faultsAmong_cons]
    cases returned : (prog.execute (some (p : Int))).result with
    | error fault =>
      refine ⟨fun _ => .inl ⟨fault, returned⟩, fun _ => ⟨fault, ?_⟩⟩
      rw [tryEach_cons, Logged.andThen_of_error returned]
    | ok out =>
      have sound : ¬ (prog.execute (some (p : Int))).Faults :=
        Logged.not_faults_iff.mpr ⟨_, returned⟩
      rw [or_iff_right sound, haltsUnder_iff returned, ← ih, Logged.Faults,
        result_tryEach_cons returned]
      by_cases halted : out.ending = .halted
      · simp [halted]
      · rw [if_neg halted, Logged.Faults]
        cases (prog.tryEach rest).result <;> simp [Except.map, halted]

theorem repair_faults_of_faults (faulted : (prog.execute none).result = .error fault) :
    prog.repair.Faults := by
  refine ⟨fault, ?_⟩
  rw [repair_def, Logged.andThen_of_error faulted]

/-- The repair of a looping program faults if its search does. -/
theorem repair_faults_of_looped (returned : (prog.execute none).result = .ok out) {entry : Nat}
    (looped : out.ending = .looped entry) :
    prog.repair.Faults ↔
      (prog.tryEach ((out.cycle entry).filter prog.exchangeable)).Faults := by
  unfold Logged.Faults
  rw [repair_def, Logged.result_andThen_of_ok returned]
  simp only [looped, loopReport_of_looped returned looped]
  rw [Logged.result_andThen_of_ok rfl, filter_isCandidate_cycle returned]
  cases search : (prog.tryEach ((out.cycle entry).filter prog.exchangeable)).result with
  | error fault =>
    rw [Logged.andThen_of_error search]
    simp only [Except.error.injEq]
  | ok found =>
    obtain ⟨tried, fix⟩ := found
    rw [Logged.result_andThen_of_ok search]
    cases fix <;> simp [Logged.result_andThen_of_ok (Logged.result_tell _)]

/-- A repair faults if the plain run does, or the run under a swap that is tried. -/
theorem repair_faults_iff :
    prog.repair.Faults ↔ (prog.execute none).Faults ∨
      ∃ loop, prog.firstLoop.result = .ok (some loop) ∧
        prog.FaultsAmong (loop.path.filter prog.exchangeable) := by
  cases returned : (prog.execute none).result with
  | error fault =>
    exact ⟨fun _ => .inl ⟨fault, returned⟩, fun _ => repair_faults_of_faults returned⟩
  | ok out =>
    have sound : ¬ (prog.execute none).Faults := Logged.not_faults_iff.mpr ⟨_, returned⟩
    cases ended : out.ending with
    | halted =>
      have whole : ¬ prog.repair.Faults :=
        Logged.not_faults_iff.mpr ⟨_, repair_of_halted returned ended⟩
      simp [whole, sound, firstLoop_of_halted returned ended]
    | looped entry =>
      rw [repair_faults_of_looped returned ended, tryEach_faults_iff,
        firstLoop_of_looped returned ended]
      simp [sound]

/-! ## Faults -/

/-- An unknown opcode is a fault exactly where it is met.

* A run faults if and only if the machine arrives at an instruction it does not know, before it
  halts or comes to a position again. The fault is the first such instruction, the message
  says which one it is, and the run leaves no tag.
* A run that does not fault is the same whatever stands in place of the unknown instructions.
* The search for the first cycle faults if and only if the run does, and in the same way.
* A repair faults if and only if the run does, or the run under a swap along the cycle, where no
  swap before it lets the program halt.
* None of this happens to a program that was read. -/
theorem faults_where_met :
    (∀ (prog : Program) (swap : Swap) (fault : Fault),
      (prog.execute swap).result = .error fault ↔
        ∃ ins, fault = .unknownOpcode ins ∧ Meets prog swap ins) ∧
    (∀ (prog : Program) (swap : Swap) (ins : Instr), Meets prog swap ins →
      (prog.execute swap).log = [] ∧
      ∃ text, (Fault.unknownOpcode ins).message = "unknown opcode: " ++ text ∧
        Json.read text =
          some (.obj [("op", .str ins.op.name), ("arg", .str (Decimal.write ins.arg))])) ∧
    (∀ (prog prog' : Program) (swap : Swap), ¬ (prog.execute swap).Faults → Patched prog prog' →
      prog'.execute swap = prog.execute swap) ∧
    (∀ (prog : Program) (fault : Fault),
      prog.firstLoop.result = .error fault ↔ (prog.execute none).result = .error fault) ∧
    (∀ prog : Program, prog.repair.Faults ↔ (prog.execute none).Faults ∨
      ∃ loop, prog.firstLoop.result = .ok (some loop) ∧
        prog.FaultsAmong (loop.path.filter prog.exchangeable)) ∧
    ∀ text : String,
      (∀ swap, ¬ ((Listing.read text).program.execute swap).Faults) ∧
      ¬ (Listing.read text).program.firstLoop.Faults ∧
      ¬ (Listing.read text).program.repair.Faults := by
  refine ⟨fun _ _ _ => execute_eq_error_iff, fun prog swap ins meets => ⟨?_, ?_⟩,
    fun prog prog' swap sound patched => ?_, fun _ _ => firstLoop_eq_error_iff,
    fun _ => repair_faults_iff, fun text => ?_⟩
  · exact log_execute_of_faults ⟨_, execute_eq_error_iff.mpr ⟨ins, rfl, meets⟩⟩
  · exact Fault.message_unknownOpcode ins
  · obtain ⟨out, returned⟩ := Logged.not_faults_iff.mp sound
    exact execute_patched returned patched
  · have known := Listing.known_read text
    have sound (swap : Swap) : ¬ ((Listing.read text).program.execute swap).Faults := by
      obtain ⟨out, returned, _⟩ := known.exists_execute swap
      exact Logged.not_faults_iff.mpr ⟨out, returned⟩
    have repaired : ¬ (Listing.read text).program.repair.Faults := by
      obtain ⟨answer, right⟩ := known.exists_repairAnswer
      exact Logged.not_faults_iff.mpr ⟨answer, right.repair_eq known⟩
    refine ⟨sound, ?_, repaired⟩
    rintro ⟨fault, faulted⟩
    exact sound none ⟨fault, firstLoop_eq_error_iff.mp faulted⟩

/-- The plain run of this program goes round its first two instructions. A swap of the first
one leads to the third. -/
def exForeign : Program :=
  [⟨.nop, 2⟩, ⟨.jmp, -1⟩, ⟨.other "HCF", 5⟩]

theorem exForeign_faults :
    (exForeign.execute (some 0)).result = .error (.unknownOpcode ⟨.other "HCF", 5⟩) ∧
    (exForeign.execute (some 0)).log = [] ∧
    exForeign.repair.Faults ∧
    execute [⟨.nop, 2⟩, ⟨.jmp, -1⟩, ⟨.acc, 1⟩] none = exForeign.execute none := by
  obtain ⟨faults, met, patched, _, repair, _⟩ := faults_where_met
  have faulted : (exForeign.execute (some 0)).result =
      .error (.unknownOpcode ⟨.other "HCF", 5⟩) := by cbv
  obtain ⟨ins, same, meets⟩ := (faults exForeign (some 0) _).mp faulted
  have loops : exForeign.firstLoop.result = .ok (some ⟨0, 0, [0, 1]⟩) := by cbv
  have sound : ¬ (exForeign.execute none).Faults :=
    Logged.not_faults_iff.mpr ⟨⟨.looped 0, 0, [(0, 1), (1, 0)]⟩, by cbv⟩
  refine ⟨faulted, (met _ _ _ meets).1, (repair _).mpr (.inr ?_), patched _ _ _ sound ?_⟩
  · exact ⟨_, loops, [], 0, [1], by decide, by simp, _, faulted⟩
  · refine ⟨rfl, fun pos ins here known => ?_⟩
    rcases pos with _ | _ | _ | pos
    · exact here
    · exact here
    · cases here
      exact absurd (by decide) known
    · cases here

end Program

end LoopRepair
