import Mathlib.Data.List.Perm.Basic
import Mathlib.Logic.Relation
import LoopRepair.Proofs.Strands

/-!
# Branches at the same time

The branches of a parallel step share the environment and what was read of the flags.
Each has its own logs. This module lets them act in any order, one action at a time, so
that a branch may be held up between any two tags it emits, and inside logs of any
depth.

No branch notices. As long as none of them changes the environment or resets the flags,
the most that one branch does to another is to read a flag before it does, and a flag
has the same value whoever reads it first. So what a branch does is what it would do
under the *settled* recorder, in which both flags have been read.

Results:
1. `Strand.Steady.run_eq`: a steady strand runs as it does under the settled recorder,
   and leaves nothing behind but the flags it read.
2. `Pool.Acts.finish_eq`: no action changes how the branches will end.
3. `parallel_branches_isolated`: however branches interleave, each ends as if it were
   alone, and the order of the branches does not matter.
-/

namespace LoopRepair

/-! ## Steady steps -/

mutual

/-- Whether a step leaves the environment alone and resets no flag, at any depth. -/
def Step.isSteady {δ : Type} : Step δ → Bool
  | .setVariable _ _ | .reset => false
  | .withLog _ steps => areSteady steps
  | .parallel branches => areSteadyBranches branches
  | .given _ | .request _ | .emit _ | .readFlag _ | .programPath => true

/-- Whether all of the steps are steady. -/
def areSteady {δ : Type} : List (Step δ) → Bool
  | [] => true
  | step :: steps => step.isSteady && areSteady steps

/-- Whether all steps of all branches are steady. -/
def areSteadyBranches {δ : Type} : List (List (Step δ)) → Bool
  | [] => true
  | steps :: branches => areSteady steps && areSteadyBranches branches

end

/-- Whether an action leaves the environment alone and resets no flag. -/
def Action.isSteady : Action → Bool
  | assign _ _ | reset => false
  | read _ | emit _ | enter | leave | programPath => true

/-- The flags that an action reads, given whether tracing is on. -/
def Action.flags (tracing : Bool) : Action → List Flag
  | read flag => [flag]
  | emit _ => if tracing then [.trace, .stderr] else [.trace]
  | enter => [.trace]
  | leave | programPath | assign _ _ | reset => []

namespace Strand

variable {α β : Type}

/-- All actions of the strand are steady, whatever is replied to them. -/
def Steady : Strand α → Prop
  | done _ => True
  | act action next => action.isSteady = true ∧ ∀ reply, (next reply).Steady

/-- The flags that a strand reads on its way to the end. -/
def flags : Strand α → Recorder → List Flag
  | done _, _ => []
  | act action next, r =>
    action.flags (r.isOn .trace) ++ (next (r.perform action).1).flags (r.perform action).2

theorem Steady.bind {strand : Strand α} {f : α → Strand β} (steady : strand.Steady)
    (later : ∀ value, (f value).Steady) : (strand.bind f).Steady := by
  induction strand with
  | done value => exact later value
  | act action next ih => exact ⟨steady.1, fun reply => ih reply (steady.2 reply)⟩

theorem steady_emitEach (tags : List Tag) : (emitEach tags).Steady := by
  induction tags with
  | nil => trivial
  | cons tag tags ih => exact ⟨rfl, fun _ => ih.bind fun _ => trivial⟩

theorem Steady.withLog {strand : Strand α} (steady : strand.Steady) :
    strand.withLog.Steady := by
  refine ⟨rfl, fun (opened : Bool) => steady.bind fun value => ?_⟩
  cases opened with
  | true => exact ⟨rfl, fun _ => trivial⟩
  | false => trivial

end Strand

namespace Session

variable {δ : Type}

mutual

theorem steady_strandOf (source : Source) (shared : Program) {step : Step δ}
    (steady : step.isSteady = true) : (strandOf source shared step).Steady := by
  cases step with
  | given _ => trivial
  | request _ | emit _ => exact (Strand.steady_emitEach _).bind fun _ => trivial
  | setVariable _ _ | reset => cases steady
  | readFlag _ | programPath => exact ⟨rfl, fun _ => trivial⟩
  | withLog escape steps =>
    exact (steady_strandOfSteps source shared escape steady).withLog.bind fun _ => trivial
  | parallel branches =>
    exact (steady_strandOfBranches source shared steady).bind fun _ => trivial

theorem steady_strandOfSteps (source : Source) (shared : Program) (escape : Bool)
    {steps : List (Step δ)} (steady : areSteady steps = true) :
    (strandOfSteps source shared escape steps).Steady := by
  cases steps with
  | nil => trivial
  | cons step steps =>
    rw [areSteady, Bool.and_eq_true] at steady
    refine (steady_strandOf source shared steady.1).bind fun ran => ?_
    split
    · trivial
    · exact (steady_strandOfSteps source shared escape steady.2).bind fun _ => trivial

theorem steady_strandOfBranches (source : Source) (shared : Program)
    {branches : List (List (Step δ))} (steady : areSteadyBranches branches = true) :
    (strandOfBranches source shared branches).Steady := by
  cases branches with
  | nil => trivial
  | cons steps branches =>
    rw [areSteadyBranches, Bool.and_eq_true] at steady
    exact (steady_strandOfSteps source shared false steady.1).withLog.bind fun _ =>
      (steady_strandOfBranches source shared steady.2).bind fun _ => trivial

end

end Session

/-! ## The settled recorder -/

namespace Recorder

variable (r : Recorder)

/-- The recorder with other logs. -/
def withLogs (logs : List (List Tag)) : Recorder :=
  { r with logs := logs }

/-- The recorder after reads of flags, in order. -/
def latchEach (flags : List Flag) : Recorder :=
  flags.foldl latch r

/-- The recorder with both flags read. -/
def settled : Recorder :=
  (r.latch .trace).latch .stderr

@[simp] theorem logs_withLogs (logs : List (List Tag)) : (r.withLogs logs).logs = logs := rfl

@[simp] theorem withLogs_logs : r.withLogs r.logs = r := rfl

@[simp] theorem withLogs_withLogs (logs logs' : List (List Tag)) :
    (r.withLogs logs).withLogs logs' = r.withLogs logs' := rfl

@[simp] theorem isOn_withLogs (logs : List (List Tag)) (flag : Flag) :
    (r.withLogs logs).isOn flag = r.isOn flag := by
  cases flag <;> rfl

theorem latch_withLogs (logs : List (List Tag)) (flag : Flag) :
    (r.withLogs logs).latch flag = (r.latch flag).withLogs logs := by
  cases flag <;> rfl

theorem latch_comm (flag other : Flag) :
    (r.latch flag).latch other = (r.latch other).latch flag := by
  cases flag <;> cases other <;> rfl

@[simp] theorem settled_latch (flag : Flag) : (r.latch flag).settled = r.settled := by
  cases flag <;> rfl

@[simp] theorem latch_settled (flag : Flag) : r.settled.latch flag = r.settled := by
  cases flag <;> rfl

@[simp] theorem settled_settled : r.settled.settled = r.settled := rfl

@[simp] theorem logs_settled : r.settled.logs = r.logs := rfl

@[simp] theorem isOn_settled (flag : Flag) : r.settled.isOn flag = r.isOn flag := by
  cases flag <;> rfl

@[simp] theorem settled_withLogs (logs : List (List Tag)) :
    (r.withLogs logs).settled = r.settled.withLogs logs := rfl

theorem latchEach_append (flags more : List Flag) :
    r.latchEach (flags ++ more) = (r.latchEach flags).latchEach more :=
  List.foldl_append

theorem latchEach_perm {flags flags' : List Flag} (same : flags.Perm flags') :
    r.latchEach flags = r.latchEach flags' :=
  same.foldl_eq' (fun flag _ other _ r => r.latch_comm flag other) r

theorem latchEach_withLogs (logs : List (List Tag)) (flags : List Flag) :
    (r.withLogs logs).latchEach flags = (r.latchEach flags).withLogs logs := by
  induction flags generalizing r with
  | nil => rfl
  | cons flag flags ih =>
    show ((r.withLogs logs).latch flag).latchEach flags = _
    rw [latch_withLogs, ih]
    rfl

@[simp] theorem settled_latchEach (flags : List Flag) :
    (r.latchEach flags).settled = r.settled := by
  induction flags generalizing r with
  | nil => rfl
  | cons flag flags ih => exact (ih _).trans (r.settled_latch flag)

@[simp] theorem latchEach_settled (flags : List Flag) :
    r.settled.latchEach flags = r.settled := by
  induction flags with
  | nil => rfl
  | cons flag flags ih =>
    show (r.settled.latch flag).latchEach flags = _
    rw [latch_settled, ih]

@[simp] theorem logs_latchEach (flags : List Flag) : (r.latchEach flags).logs = r.logs := by
  rw [← r.logs_settled, ← r.settled_latchEach flags, logs_settled]

@[simp] theorem isOn_latchEach (flags : List Flag) (flag : Flag) :
    (r.latchEach flags).isOn flag = r.isOn flag := by
  rw [← isOn_settled, settled_latchEach, isOn_settled]

/-- A steady action is replied to as by the settled recorder, does to the logs what it
does there, and leaves behind nothing but the flags it read. -/
theorem perform_eq {action : Action} (steady : action.isSteady = true) :
    r.perform action =
      ((r.settled.perform action).1,
        (r.latchEach (action.flags (r.isOn .trace))).withLogs
          (r.settled.perform action).2.logs) := by
  cases action with
  | assign _ _ | reset => cases steady
  | read flag =>
    simp only [perform, isOn_settled, latch_settled, logs_settled]
    cases flag <;> rfl
  | leave | programPath => rfl
  | enter =>
    simp only [perform, inside, isOn_settled, latch_settled]
    cases r.isOn .trace <;> rfl
  | emit tag =>
    simp only [perform, echoes, emit, isOn_settled, latch_settled, append_eq]
    cases r.isOn .trace <;> rfl

/-- The settled recorder is changed by steady actions in its logs only. -/
theorem perform_settled {action : Action} (steady : action.isSteady = true) :
    (r.settled.perform action).2 =
      r.settled.withLogs (r.settled.perform action).2.logs := by
  have performed := congrArg Prod.snd (r.settled.perform_eq steady)
  rwa [latchEach_settled, settled_settled] at performed

theorem settled_perform {action : Action} (steady : action.isSteady = true) :
    (r.perform action).2.settled = (r.settled.perform action).2 := by
  rw [r.perform_eq steady, perform_settled r steady]
  simp

/-- What a steady action does to the recorder that branches share, and what it would do
to the settled one. -/
theorem perform_withLogs {action : Action} (steady : action.isSteady = true)
    (logs : List (List Tag)) :
    ((r.withLogs logs).perform action).2.withLogs r.logs =
      r.latchEach (action.flags (r.isOn .trace)) ∧
    (r.settled.withLogs logs).perform action =
      (((r.withLogs logs).perform action).1,
        r.settled.withLogs ((r.withLogs logs).perform action).2.logs) := by
  have performed := (r.withLogs logs).perform_eq steady
  constructor
  · rw [performed, isOn_withLogs, withLogs_withLogs, latchEach_withLogs, withLogs_withLogs,
      ← r.logs_latchEach (action.flags (r.isOn .trace)), withLogs_logs]
  · have settled := (r.withLogs logs).perform_settled steady
    rw [performed, logs_withLogs]
    exact Prod.ext rfl settled

end Recorder

/-- A steady strand runs as it does under the settled recorder, and leaves behind, besides
its logs, the flags it read. -/
theorem Strand.Steady.run_eq {α : Type} {strand : Strand α} (steady : strand.Steady)
    (r : Recorder) :
    strand.run r =
      ((strand.run r.settled).1,
        (r.latchEach (strand.flags r.settled)).withLogs (strand.run r.settled).2.logs) := by
  induction strand generalizing r with
  | done value => rfl
  | act action next ih =>
    obtain ⟨first, later⟩ := steady
    have reply := congrArg Prod.fst (r.perform_eq first)
    have after := congrArg Prod.snd (r.perform_eq first)
    have rest := ih (r.settled.perform action).1 (later _) (r.perform action).2
    -- The recorder after the action settles to what the action does to the settled one, so
    -- the rest of the strand is compared with the same run as before.
    rw [r.settled_perform first] at rest
    rw [run_act, run_act, flags, reply, rest, after, Recorder.isOn_settled,
      Recorder.latchEach_withLogs, Recorder.withLogs_withLogs, Recorder.latchEach_append]

theorem Strand.Steady.isOn_run {α : Type} {strand : Strand α} (steady : strand.Steady)
    (r : Recorder) (flag : Flag) : (strand.run r).2.isOn flag = r.isOn flag := by
  rw [steady.run_eq r, Recorder.isOn_withLogs, Recorder.isOn_latchEach]

/-! ## Interleavings -/

/-- A branch on its way: what it has still to do, and the logs in force for it. -/
structure Thread (α : Type) where
  rest : Strand α
  logs : List (List Tag)

/-- Branches on their way, and the recorder they share. The logs of the recorder are
those around all of the branches. -/
structure Pool (α : Type) where
  shared : Recorder
  threads : List (Thread α)

/-- How a branch ends if nobody else acts. -/
def Thread.ending {α : Type} (r : Recorder) (thread : Thread α) : Thread α :=
  ⟨.done (thread.rest.run (r.withLogs thread.logs)).1,
    (thread.rest.run (r.withLogs thread.logs)).2.logs⟩

/-- The flags that a branch has still to read. -/
def Thread.flags {α : Type} (r : Recorder) (thread : Thread α) : List Flag :=
  thread.rest.flags (r.withLogs thread.logs)

namespace Pool

variable {α : Type} {p q : Pool α}

/-- `p.Acts q`: one branch does its next action, under the shared recorder with the logs
of that branch. -/
inductive Acts : Pool α → Pool α → Prop
  | act (shared : Recorder) (before after : List (Thread α)) (action : Action)
      (next : action.Reply → Strand α) (logs : List (List Tag)) :
      Acts ⟨shared, before ++ ⟨.act action next, logs⟩ :: after⟩
        ⟨((shared.withLogs logs).perform action).2.withLogs shared.logs,
          before ++ ⟨next ((shared.withLogs logs).perform action).1,
            ((shared.withLogs logs).perform action).2.logs⟩ :: after⟩

/-- `p.Interleaves q`: the branches act in some order, any number of times. -/
def Interleaves (p q : Pool α) : Prop :=
  Relation.ReflTransGen Acts p q

/-- Every branch has come to its end. -/
def Finished (p : Pool α) : Prop :=
  ∀ thread ∈ p.threads, ∃ value, thread.rest = .done value

/-- No branch will change the environment or reset the flags. -/
def Steady (p : Pool α) : Prop :=
  ∀ thread ∈ p.threads, thread.rest.Steady

/-- The pool in which every branch has ended as it would alone, and the flags that any
of them had still to read have been read. -/
def finish (p : Pool α) : Pool α :=
  ⟨p.shared.latchEach (p.threads.flatMap (Thread.flags p.shared.settled)),
    p.threads.map (Thread.ending p.shared.settled)⟩

theorem Acts.steady (acts : p.Acts q) (steady : p.Steady) : q.Steady := by
  obtain ⟨shared, before, after, action, next, logs⟩ := acts
  intro thread member
  rcases List.mem_append.mp member with member | member
  · exact steady thread (List.mem_append_left _ member)
  · rcases List.mem_cons.mp member with rfl | member
    · exact (steady _ (List.mem_append_right _ List.mem_cons_self)).2 _
    · exact steady thread (List.mem_append_right _ (List.mem_cons_of_mem _ member))

/-- An action of one branch changes neither how that branch will end nor how any other
will. -/
theorem Acts.finish_eq (acts : p.Acts q) (steady : p.Steady) : q.finish = p.finish := by
  obtain ⟨shared, before, after, action, next, logs⟩ := acts
  have first : action.isSteady = true :=
    (steady _ (List.mem_append_right _ List.mem_cons_self)).1
  obtain ⟨moved, settled⟩ := shared.perform_withLogs first logs
  simp only [finish, moved, Recorder.settled_latchEach, List.map_append, List.map_cons,
    List.flatMap_append, List.flatMap_cons, mk.injEq]
  refine ⟨?_, ?_⟩
  · -- What the branch has read is no longer ahead of it: the same flags in another order.
    rw [← Recorder.latchEach_append]
    apply Recorder.latchEach_perm
    simp only [Thread.flags, Strand.flags, settled, Recorder.isOn_withLogs,
      Recorder.isOn_settled, List.append_assoc]
    exact List.perm_append_comm_assoc _ _ _
  · simp only [Thread.ending, Strand.run_act, settled]

theorem Interleaves.finish_eq (interleaves : p.Interleaves q) (steady : p.Steady) :
    q.finish = p.finish ∧ q.Steady := by
  induction interleaves with
  | refl => exact ⟨rfl, steady⟩
  | tail _ acts ih =>
    obtain ⟨same, steady⟩ := ih
    exact ⟨(acts.finish_eq steady).trans same, acts.steady steady⟩

/-- Branches that have come to their ends have nothing left to do. -/
theorem Finished.finish_eq (finished : p.Finished) : p.finish = p := by
  obtain ⟨shared, threads⟩ := p
  have flags : threads.flatMap (Thread.flags shared.settled) = [] := by
    apply List.flatMap_eq_nil_iff.mpr
    intro thread member
    obtain ⟨value, ended⟩ := finished thread member
    rw [Thread.flags, ended, Strand.flags]
  have endings : threads.map (Thread.ending shared.settled) = threads := by
    rw [List.map_congr_left (g := id), List.map_id]
    intro thread member
    obtain ⟨value, ended⟩ := finished thread member
    obtain ⟨rest, logs⟩ := thread
    cases ended
    rfl
  rw [finish, flags, endings]
  rfl

/-- A branch can be let run to its end while the others wait. -/
theorem interleaves_run (strand : Strand α) (shared : Recorder) (before after : List (Thread α))
    (logs : List (List Tag)) :
    ∃ shared' value logs', Interleaves ⟨shared, before ++ ⟨strand, logs⟩ :: after⟩
      ⟨shared', before ++ ⟨.done value, logs'⟩ :: after⟩ := by
  induction strand generalizing shared logs with
  | done value => exact ⟨shared, value, logs, .refl⟩
  | act action next ih =>
    obtain ⟨shared', value, logs', rest⟩ := ih _ _ _
    exact ⟨shared', value, logs', .head (.act shared before after action next logs) rest⟩

/-- All branches can be let run to their ends, one after another. -/
theorem exists_interleaves_finished (shared : Recorder) (before after : List (Thread α))
    (finished : Finished ⟨shared, before⟩) :
    ∃ q : Pool α, Interleaves ⟨shared, before ++ after⟩ q ∧ q.Finished := by
  -- The branches in `before` have ended; the next one joins them in each step.
  induction after generalizing shared before with
  | nil => exact ⟨_, .refl, by rwa [List.append_nil]⟩
  | cons thread after ih =>
    obtain ⟨strand, logs⟩ := thread
    obtain ⟨shared', value, logs', ran⟩ := interleaves_run strand shared before after logs
    have more : Finished ⟨shared', before ++ [⟨.done value, logs'⟩]⟩ := by
      intro thread member
      rcases List.mem_append.mp member with member | member
      · exact finished thread member
      · exact ⟨value, by rw [List.mem_singleton.mp member]⟩
    obtain ⟨q, rest, ended⟩ := ih shared' _ more
    rw [List.append_assoc] at rest
    exact ⟨q, ran.trans rest, ended⟩

/-- Whatever steady branches have done so far, they can come to their ends, and the only
way to end is that of each of them alone. -/
theorem Steady.interleaves_finish (steady : p.Steady) : p.Interleaves p.finish := by
  obtain ⟨q, ran, ended⟩ := exists_interleaves_finished p.shared [] p.threads (by simp [Finished])
  have same : q.finish = p.finish := (Interleaves.finish_eq ran steady).1
  rw [← same, ended.finish_eq]
  exact ran

end Pool

/-! ## Branches of sessions -/

theorem Recorder.admitted_of_off {r : Recorder} (off : r.isOn .trace = false) (tags : List Tag) :
    r.admitted tags = [] := by
  induction tags generalizing r with
  | nil => rfl
  | cons tag tags ih =>
    rw [admitted, off]
    exact ih (by rw [isOn_emit, off])

namespace Session

variable {δ : Type} {source : Source} {shared : Program}

mutual

/-- With tracing off, steady steps put nothing into the logs around them. -/
theorem ownTags_happenings_of_off {step : Step δ} {r : Recorder}
    (steady : step.isSteady = true) (off : r.isOn .trace = false) :
    ownTags (happenings source shared step r) = [] := by
  cases step with
  | given _ | readFlag _ | programPath => rfl
  | setVariable _ _ | reset => cases steady
  | request _ | emit _ => rw [happenings, ownTags_map_tag, Recorder.admitted_of_off off]
  | withLog escape steps =>
    have inside : r.inside.isOn .trace = false := by rw [r.isOn_inside, off]
    rw [happenings, Recorder.ownTags_nest, off]
    exact ownTags_happeningsOf_of_off steady inside
  | parallel branches => exact ownTags_happeningsInBranches_of_off steady off

theorem ownTags_happeningsOf_of_off {escape : Bool} {steps : List (Step δ)} {r : Recorder}
    (steady : areSteady steps = true) (off : r.isOn .trace = false) :
    ownTags (happeningsOf source shared escape steps r) = [] := by
  cases steps with
  | nil => rfl
  | cons step steps =>
    rw [areSteady, Bool.and_eq_true] at steady
    have later : (runStep source shared step r).2.isOn .trace = false := by
      rw [← run_strandOf, (steady_strandOf source shared steady.1).isOn_run, off]
    rw [happeningsOf, ownTags_append, ownTags_happenings_of_off steady.1 off]
    split
    · rfl
    · exact ownTags_happeningsOf_of_off steady.2 later

theorem ownTags_happeningsInBranches_of_off {branches : List (List (Step δ))} {r : Recorder}
    (steady : areSteadyBranches branches = true) (off : r.isOn .trace = false) :
    ownTags (happeningsInBranches source shared branches r) = [] := by
  cases branches with
  | nil => rfl
  | cons steps branches =>
    rw [areSteadyBranches, Bool.and_eq_true] at steady
    have inside : r.inside.isOn .trace = false := by rw [r.isOn_inside, off]
    have later :
        (r.withLog fun r => runSteps source shared false steps r).2.isOn .trace = false := by
      rw [← run_withLog_strandOfSteps,
        (steady_strandOfSteps source shared false steady.1).withLog.isOn_run, off]
    rw [happeningsInBranches, ownTags_append, Recorder.ownTags_nest, off,
      ownTags_happeningsInBranches_of_off steady.2 later]
    rw [ownTags_happeningsOf_of_off steady.1 inside]
    rfl

end

/-- What a branch comes to if it is run in a log of its own and nobody else acts: the
answers of its steps, and the tags of the log. -/
def alone (source : Source) (shared : Program) (r : Recorder) (steps : List (Step δ)) :
    List (Answer δ × List Tag) × List Tag :=
  let ran := r.withLog fun r => runSteps source shared false steps r
  (ran.1.1.entries, ran.1.2)

/-- The strand of a branch. -/
def strandOfBranch (source : Source) (shared : Program) (steps : List (Step δ)) :
    Strand (List (Answer δ × List Tag) × List Tag) :=
  (strandOfSteps source shared false steps).withLog.bind fun ran => .done (ran.1.entries, ran.2)

/-- Branches that are started together. -/
def startPool (source : Source) (shared : Program) (r : Recorder)
    (branches : List (List (Step δ))) : Pool (List (Answer δ × List Tag) × List Tag) :=
  ⟨r, branches.map fun steps => ⟨strandOfBranch source shared steps, r.logs⟩⟩

variable (source : Source) (shared : Program) {steps : List (Step δ)}
  {branches : List (List (Step δ))}

theorem run_strandOfBranch (steps : List (Step δ)) (r : Recorder) :
    (strandOfBranch source shared steps).run r =
      (alone source shared r steps,
        (r.withLog fun r => runSteps source shared false steps r).2) := by
  rw [strandOfBranch, Strand.run_bind, run_withLog_strandOfSteps]
  rfl

theorem steady_strandOfBranch (steady : areSteady steps = true) :
    (strandOfBranch source shared steps).Steady :=
  (steady_strandOfSteps source shared false steady).withLog.bind fun _ => trivial

/-- A steady branch leaves the logs around it as they are. -/
theorem logs_strandOfBranch (steady : areSteady steps = true) (r : Recorder) :
    ((strandOfBranch source shared steps).run r).2.logs = r.logs := by
  have log := r.withLog_of_deliver (logs_runSteps source shared false steps r.inside)
  rw [run_strandOfBranch, log.2]
  cases on : r.isOn .trace with
  | true => rfl
  | false =>
    -- No log was opened here, so the branch could reach those around it; but it is silent.
    have inside : r.inside.isOn .trace = false := by rw [r.isOn_inside, on]
    rw [ownTags_happeningsOf_of_off steady inside, deliver_nil]
    rfl

/-- A steady branch ends as it does under the settled recorder, and leaves behind the
flags it read. -/
theorem run_strandOfBranch_of_steady (steady : areSteady steps = true) (r : Recorder) :
    (strandOfBranch source shared steps).run r =
      (alone source shared r.settled steps,
        r.latchEach ((strandOfBranch source shared steps).flags r.settled)) := by
  have ran := (steady_strandOfBranch source shared steady).run_eq r
  rw [logs_strandOfBranch source shared steady, run_strandOfBranch source shared steps r.settled,
    Recorder.logs_settled] at ran
  rw [ran, ← r.logs_latchEach, Recorder.withLogs_logs]

theorem alone_settled (steady : areSteady steps = true) (r : Recorder) :
    alone source shared r.settled steps = alone source shared r steps := by
  have ran := run_strandOfBranch_of_steady source shared steady r
  rw [run_strandOfBranch] at ran
  exact (congrArg Prod.fst ran).symm

/-- Steady branches run one after another come to what each comes to alone. -/
theorem runBranches_of_steady (steady : ∀ steps ∈ branches, areSteady steps = true)
    (r : Recorder) :
    runBranches source shared branches r =
      (branches.map (alone source shared r.settled),
        r.latchEach (branches.flatMap fun steps =>
          (strandOfBranch source shared steps).flags r.settled)) := by
  induction branches generalizing r with
  | nil => rfl
  | cons steps branches ih =>
    have ran := run_strandOfBranch_of_steady source shared (steady steps List.mem_cons_self) r
    rw [run_strandOfBranch, Prod.mk.injEq] at ran
    have rest := ih (fun steps member => steady steps (List.mem_cons_of_mem _ member))
      (r.latchEach ((strandOfBranch source shared steps).flags r.settled))
    rw [Recorder.settled_latchEach, ← Recorder.latchEach_append] at rest
    rw [runBranches, ran.2, rest]
    exact Prod.ext (congrArg (· :: _) ran.1) rfl

theorem finish_startPool (steady : ∀ steps ∈ branches, areSteady steps = true) (r : Recorder) :
    (startPool source shared r branches).finish =
      ⟨(runBranches source shared branches r).2,
        branches.map fun steps => ⟨.done (alone source shared r steps), r.logs⟩⟩ := by
  have own : r.settled.withLogs r.logs = r.settled := rfl
  rw [runBranches_of_steady source shared steady, startPool, Pool.finish, List.flatMap_map,
    List.map_map]
  simp only [Thread.flags, own, Pool.mk.injEq, true_and]
  apply List.map_congr_left
  intro steps member
  have branch := steady steps member
  show Thread.ending r.settled ⟨strandOfBranch source shared steps, r.logs⟩ = _
  rw [Thread.ending, own, logs_strandOfBranch source shared branch, run_strandOfBranch,
    alone_settled source shared branch, Recorder.logs_settled]

/-- Branches that are started together, each in a log of its own, do not disturb each
other, if none of them changes the environment or resets the flags. However far they
have come and in whatever order, they can come to their ends; and when all have, every
branch has the answers, the echoed tags and the tags of its log that it has alone, from
the recorder at the start. The parallel step gives the same answers and leaves the same
recorder. So a permutation of the branches permutes the answers and changes nothing
else. -/
theorem parallel_branches_isolated (r : Recorder)
    (steady : ∀ steps ∈ branches, areSteady steps = true) :
    let finish : Pool (List (Answer δ × List Tag) × List Tag) :=
      ⟨(runStep source shared (.parallel branches) r).2,
        branches.map fun steps => ⟨.done (alone source shared r steps), r.logs⟩⟩
    (∀ pool, (startPool source shared r branches).Interleaves pool →
      pool.Interleaves finish ∧ (pool.Finished → pool = finish)) ∧
    ∀ branches', branches.Perm branches' →
      runStep source shared (.parallel branches') r =
        ((.parallel (branches'.map (alone source shared r)), []), finish.shared) := by
  intro finish
  have finishes : (startPool source shared r branches).finish = finish :=
    finish_startPool source shared steady r
  have start : (startPool source shared r branches).Steady := by
    intro thread member
    obtain ⟨steps, branch, rfl⟩ := List.mem_map.mp member
    exact steady_strandOfBranch source shared (steady steps branch)
  refine ⟨?_, ?_⟩
  · intro pool interleaves
    obtain ⟨same, steadily⟩ := interleaves.finish_eq start
    rw [finishes] at same
    refine ⟨same ▸ steadily.interleaves_finish, fun ended => ?_⟩
    rw [← same, ended.finish_eq]
  · intro branches' permuted
    have steady' : ∀ steps ∈ branches', areSteady steps = true :=
      fun steps member => steady steps (permuted.mem_iff.mpr member)
    have answers : branches'.map (alone source shared r.settled) =
        branches'.map (alone source shared r) :=
      List.map_congr_left fun steps member => alone_settled source shared (steady' steps member) r
    have recorders : (runBranches source shared branches' r).2 = finish.shared := by
      show _ = (runBranches source shared branches r).2
      rw [runBranches_of_steady source shared steady, runBranches_of_steady source shared steady']
      exact (r.latchEach_perm (permuted.flatMap_right _)).symm
    rw [runStep, recorders, runBranches_of_steady source shared steady', answers]

/-- A branch with a log inside its log, and one that reads a doubtful listing. -/
def exBranches : List (List (Step Empty)) :=
  [[.withLog false [.emit (.halt 1 none)], .emit (.halt 2 none)],
    [.request (.parse "oops"), .emit (.halt 3 none), .readFlag .stderr]]

/-- Each of `exBranches` has the tags it emitted in its log, and no other. They end in the
same way if the second one acts first, and so is the one to read the trace flag; and in
the other order. -/
theorem exBranches_isolated :
    let source : Source := fun _ => .error .missing
    let r := Recorder.ofEnvironment ⟨some "1", some "TRUE", none⟩
    let start := startPool source [] r exBranches
    (∀ steps ∈ exBranches, areSteady steps = true) ∧
    exBranches.map (fun steps => (alone source [] r steps).2) =
      [[.halt 2 none], [.warning "W_LINE_SKIPPED" 1, .halt 3 none]] ∧
    (∃ pool last, start.Acts pool ∧ pool.threads.head? = start.threads.head? ∧
      pool.Interleaves last ∧ last.Finished ∧ last.threads =
        exBranches.map fun steps => ⟨.done (alone source [] r steps), r.logs⟩) ∧
    runStep source [] (.parallel exBranches.reverse) r =
      ((.parallel (exBranches.reverse.map (alone source [] r)), []),
        (runStep source [] (.parallel exBranches) r).2) := by
  intro source r start
  have steady : ∀ steps ∈ exBranches, areSteady steps = true := by decide
  obtain ⟨interleavings, permutations⟩ := parallel_branches_isolated source [] r steady
  refine ⟨steady, by decide +kernel, ?_, ?_⟩
  · have acts : start.Acts _ := .act r [_] [] .enter _ r.logs
    refine ⟨_, _, acts, rfl, (interleavings _ (.single acts)).1, ?_, rfl⟩
    intro thread member
    obtain ⟨steps, _, rfl⟩ := List.mem_map.mp member
    exact ⟨_, rfl⟩
  · exact permutations _ (List.reverse_perm _).symm

end Session

end LoopRepair
