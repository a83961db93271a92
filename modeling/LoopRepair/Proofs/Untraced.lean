import LoopRepair.Proofs.Traces

/-!
# What tracing leaves alone

Tags are emitted all over the reading, running and repairing of programs, and every
emission touches the flags, the open logs and the error stream. This module compares
two runs that differ in nothing but these. What they compute is the same, and so is what
they show: each is the replay of one log under a recorder of its own (`Live.ofLogged`).

`Answer.plain` takes from an answer what it owes to tracing: the tags of logs, the
records echoed on the error stream, and the values of the flags. What remains of two
answers is then compared for equality.

Results:
1. `Live.indifferent_perform`, `Live.indifferent_work`: requests and orders come to the
   same under any two recorders.
2. `plain_runStep`, `plain_runSteps`, `plain_runBranches`: the plain answers of a
   session, and the fault that ends it, do not depend on the recorder it starts with,
   but for the one variable that has nothing to do with tracing.
3. `tracing_changes_no_result`: both, for every request, session and call.
-/

namespace LoopRepair

/-! ## Plain answers -/

mutual

/-- An answer without what it owes to tracing. -/
def Answer.plain {δ : Type} : Answer δ → Answer δ
  | .flag _ => .done
  | .logged entries _ => .logged (plainEntries entries) []
  | .parallel branches => .parallel (plainBranches branches)
  | .given answer => .given answer
  | .fault fault => .fault fault
  | .reply reply => .reply reply
  | .done => .done
  | .variable value => .variable value
  | .path path => .path path

/-- The answers of a list of steps, each without what it owes to tracing. -/
def plainEntries {δ : Type} : List (Answer δ × List Tag) → List (Answer δ × List Tag)
  | [] => []
  | (answer, _) :: entries => (answer.plain, []) :: plainEntries entries

/-- The answers of branches, each without what it owes to tracing. -/
def plainBranches {δ : Type} :
    List (List (Answer δ × List Tag) × List Tag) → List (List (Answer δ × List Tag) × List Tag)
  | [] => []
  | (entries, _) :: branches => (plainEntries entries, []) :: plainBranches branches

end

@[simp] theorem Answer.fault?_plain {δ : Type} (answer : Answer δ) :
    answer.plain.fault? = answer.fault? := by
  cases answer <;> simp [plain, fault?]

/-- What a list of steps comes to, without what it owes to tracing. -/
def Session.Entries.plain {δ : Type} (ran : Entries δ) : Entries δ :=
  ⟨plainEntries ran.entries, ran.escaped⟩

/-- The answer of a log is as plain as the entries it is made from. -/
theorem Session.plain_logAnswer {δ : Type} (ran : Entries δ) (tags : List Tag) :
    (logAnswer (ran, tags)).plain = logAnswer (ran.plain, []) := by
  unfold logAnswer Entries.plain
  cases ran.escaped <;> simp [Answer.plain]

/-! ## Computations under two recorders -/

namespace Live

variable {α : Type}

/-- `x.Indifferent`: under any two recorders, whatever their flags and logs, the computation
comes to the same result or fault, and shows the same lines in the same order. -/
def Indifferent (x : Live α) : Prop :=
  ∀ r r' : Recorder, (x r).1.result = (x r').1.result ∧
    (x r).1.log.filter Event.isLine = (x r').1.log.filter Event.isLine

theorem indifferent_replay (x : Logged Event α) : Indifferent (replay x) := by
  intro r r'
  refine ⟨rfl, ?_⟩
  show (r.seen x.log).filter Event.isLine = (r'.seen x.log).filter Event.isLine
  rw [r.filter_isLine_seen, r'.filter_isLine_seen]

theorem indifferent_perform (source : Source) (shared : Program) (request : Request) :
    Indifferent (Showing.perform source shared request) := by
  rw [request.replay_perform]
  exact indifferent_replay _

theorem indifferent_work (order : CommandLine.Order) (env : Environment) (source : Source) :
    Indifferent (order.work env source) := by
  rw [order.replay_run]
  exact indifferent_replay _

end Live

/-- A request is answered in the same way under any two recorders. -/
theorem Session.answer_performRequest {δ : Type} (source : Source) (shared : Program)
    (request : Request) (r r' : Recorder) :
    (performRequest (δ := δ) source shared request r).1.1 =
      (performRequest source shared request r').1.1 := by
  have same := (Live.indifferent_perform source shared request r r').1
  unfold performRequest
  dsimp only
  rw [same]

/-! ## Recorders that differ in their trace state -/

namespace Recorder

variable (r : Recorder)

@[simp] theorem env_latch (flag : Flag) : (r.latch flag).env = r.env := by
  cases flag <;> rfl

@[simp] theorem env_emit (tag : Tag) : (r.emit tag).env = r.env := by
  unfold emit append
  split
  · split <;> rfl
  · rfl

@[simp] theorem env_emitAll (tags : List Tag) : (r.emitAll tags).env = r.env := by
  induction tags generalizing r with
  | nil => rfl
  | cons tag tags ih =>
    show ((r.emit tag).emitAll tags).env = r.env
    rw [ih, env_emit]

@[simp] theorem env_inside : r.inside.env = r.env := by
  unfold inside
  split <;> rfl

/-- Whether there is a log or not, its body runs once, from the recorder inside. -/
theorem withLog_eq {β : Type} (body : Recorder → β × Recorder) :
    r.withLog body =
      if r.isOn .trace then
        (((body r.inside).1, (body r.inside).2.innermost), (body r.inside).2.closeLog)
      else (((body r.inside).1, []), (body r.inside).2) := by
  unfold withLog inside
  split <;> rfl

theorem value_withLog {β : Type} (body : Recorder → β × Recorder) :
    (r.withLog body).1.1 = (body r.inside).1 := by
  rw [withLog_eq]
  split <;> rfl

theorem env_withLog {β : Type} (body : Recorder → β × Recorder) :
    (r.withLog body).2.env = (body r.inside).2.env := by
  rw [withLog_eq]
  split <;> rfl

end Recorder

namespace Session

variable {δ : Type}

/-! ## Sessions -/

mutual

theorem plain_runStep (source : Source) (shared : Program) (step : Step δ) {r r' : Recorder}
    (same : r.env.program = r'.env.program) :
    (runStep source shared step r).1.1.plain = (runStep source shared step r').1.1.plain ∧
    (runStep source shared step r).2.env.program =
      (runStep source shared step r').2.env.program := by
  cases step with
  | given _ => exact ⟨rfl, same⟩
  | request request =>
    refine ⟨congrArg Answer.plain (answer_performRequest source shared request r r'), ?_⟩
    simp only [runStep, performRequest_eq, Recorder.env_emitAll, same]
  | emit tag =>
    refine ⟨rfl, ?_⟩
    simp only [runStep, Recorder.env_emit, same]
  | setVariable name value =>
    refine ⟨rfl, ?_⟩
    cases name with
    | trace | traceStderr => exact same
    | program => rfl
  | reset => exact ⟨rfl, same⟩
  | readFlag flag =>
    refine ⟨by simp only [runStep, Answer.plain], ?_⟩
    simp only [runStep, Recorder.env_latch, same]
  | programPath =>
    refine ⟨?_, same⟩
    simp only [runStep, Environment.programPath, same]
  | withLog escape steps =>
    have inside : r.inside.env.program = r'.inside.env.program := by
      rw [Recorder.env_inside, Recorder.env_inside, same]
    obtain ⟨entries, program⟩ := plain_runSteps source shared escape steps inside
    simp only [runStep, Recorder.env_withLog]
    refine ⟨?_, program⟩
    rw [plain_logAnswer, plain_logAnswer, Recorder.value_withLog, Recorder.value_withLog, entries]
  | parallel branches =>
    obtain ⟨answers, program⟩ := plain_runBranches source shared branches same
    simp only [runStep, Answer.plain]
    exact ⟨by rw [answers], program⟩

theorem plain_runSteps (source : Source) (shared : Program) (escape : Bool)
    (steps : List (Step δ)) {r r' : Recorder} (same : r.env.program = r'.env.program) :
    (runSteps source shared escape steps r).1.plain =
      (runSteps source shared escape steps r').1.plain ∧
    (runSteps source shared escape steps r).2.env.program =
      (runSteps source shared escape steps r').2.env.program := by
  cases steps with
  | nil => exact ⟨rfl, same⟩
  | cons step steps =>
    obtain ⟨answer, program⟩ := plain_runStep source shared step same
    obtain ⟨rest, later⟩ := plain_runSteps source shared escape steps program
    -- The answers are equally plain, so a fault cuts short both lists or none.
    have fault := congrArg Answer.fault? answer
    rw [Answer.fault?_plain, Answer.fault?_plain] at fault
    rw [runSteps, runSteps, fault]
    cases (if escape then (runStep source shared step r').1.1.fault? else none) with
    | some _ => exact ⟨rfl, program⟩
    | none =>
      refine ⟨?_, later⟩
      simp only [Entries.plain, Entries.mk.injEq, plainEntries] at rest ⊢
      rw [answer, rest.1, rest.2]
      exact ⟨rfl, rfl⟩

theorem plain_runBranches (source : Source) (shared : Program)
    (branches : List (List (Step δ))) {r r' : Recorder} (same : r.env.program = r'.env.program) :
    plainBranches (runBranches source shared branches r).1 =
      plainBranches (runBranches source shared branches r').1 ∧
    (runBranches source shared branches r).2.env.program =
      (runBranches source shared branches r').2.env.program := by
  cases branches with
  | nil => exact ⟨rfl, same⟩
  | cons steps branches =>
    have inside : r.inside.env.program = r'.inside.env.program := by
      rw [Recorder.env_inside, Recorder.env_inside, same]
    obtain ⟨entries, program⟩ := plain_runSteps source shared false steps inside
    rw [← Recorder.env_withLog r, ← Recorder.env_withLog r'] at program
    obtain ⟨rest, later⟩ := plain_runBranches source shared branches program
    rw [runBranches, runBranches]
    refine ⟨?_, later⟩
    simp only [Entries.plain, Entries.mk.injEq] at entries
    simp only [plainBranches, Recorder.value_withLog, entries.1, rest]

end

end Session

/-! ## Calls -/

namespace CommandLine

/-- The end of a call with the records of the trace taken out of what was written. -/
def Exit.withoutTrace (exit : Exit) : Exit :=
  { exit with events := exit.events.filter Event.isLine }

/-- No record of a trace is written on the output stream. -/
theorem Exit.stdout_withoutTrace (exit : Exit) : exit.withoutTrace.stdout = exit.stdout := by
  obtain ⟨code, events⟩ := exit
  unfold withoutTrace stdout
  induction events with
  | nil => rfl
  | cons event events ih =>
    cases event with
    | out line | err line =>
      rw [List.filter_cons_of_pos rfl, List.map_cons, List.map_cons, String.join_cons,
        String.join_cons, ih]
    | tag tag =>
      rw [List.filter_cons_of_neg Bool.false_ne_true, List.map_cons, String.join_cons, ih]
      exact String.empty_append.symm

/-- An order that is carried out under another trace state writes the same lines. -/
theorem Order.withoutTrace_exit (order : Order) (source : Source) {env env' : Environment}
    (same : env.program = env'.program) :
    (order.exit env source).withoutTrace = (order.exit env' source).withoutTrace := by
  have path : order.path env = order.path env' := by
    unfold Order.path Environment.programPath
    rw [same]
  have ran : order.run env source = order.run env' source := by
    unfold Order.run Order.work
    rw [path]
  rw [order.exit_eq, order.exit_eq, ran]
  cases ended : (order.run env' source).result with
  | ok code => simp only [ended, Exit.withoutTrace, Recorder.filter_isLine_seen]
  | error fault =>
    simp only [ended, Exit.withoutTrace, List.filter_append, Recorder.filter_isLine_seen]

theorem withoutTrace_run (args : List String) (source : Source) {env env' : Environment}
    (same : env.program = env'.program) :
    (run args env source).withoutTrace = (run args env' source).withoutTrace := by
  unfold run
  cases Call.ofArguments args with
  | order order => exact order.withoutTrace_exit source same
  | help _ | usage | unknownCommand _ | unknownOption _ _ => rfl

end CommandLine

/-- Tracing changes no result. A request comes to the same result or fault under any two
recorders, whatever their flags and logs, and shows the same lines; so does the command of
an order. A request is thus answered in the same way as a step. So are the steps of a
session, nested in any way, once the tags and the values of the flags are taken out of their
answers; the variable that names a program file is no part of a trace state. And a call ends
with the same code and the same output under any two environments that agree on that
variable, and writes the same lines in the same order, once the records of the trace are
taken out. -/
theorem tracing_changes_no_result {δ : Type} (source : Source) (shared : Program) :
    (∀ request : Request, Live.Indifferent (Showing.perform source shared request)) ∧
    (∀ (order : CommandLine.Order) (env : Environment),
      Live.Indifferent (order.work env source)) ∧
    (∀ (request : Request) (r r' : Recorder),
      (Session.runStep (δ := δ) source shared (.request request) r).1.1 =
        (Session.runStep source shared (.request request) r').1.1) ∧
    (∀ (escape : Bool) (steps : List (Step δ)) (r r' : Recorder),
      r.env.program = r'.env.program →
      (Session.runSteps source shared escape steps r).1.plain =
        (Session.runSteps source shared escape steps r').1.plain) ∧
    ∀ (args : List String) (env env' : Environment), env.program = env'.program →
      let exit := CommandLine.run args env source
      let exit' := CommandLine.run args env' source
      exit.code = exit'.code ∧ exit.stdout = exit'.stdout ∧
        exit.withoutTrace = exit'.withoutTrace := by
  refine ⟨Live.indifferent_perform source shared,
    fun order env => Live.indifferent_work order env source,
    Session.answer_performRequest source shared, ?_, ?_⟩
  · intro escape steps r r' same
    exact (Session.plain_runSteps source shared escape steps same).1
  · intro args env env' same exit exit'
    have lines : exit.withoutTrace = exit'.withoutTrace :=
      CommandLine.withoutTrace_run args source same
    refine ⟨?_, ?_, lines⟩
    · show exit.withoutTrace.code = exit'.withoutTrace.code
      rw [lines]
    · rw [← exit.stdout_withoutTrace, ← exit'.stdout_withoutTrace, lines]

/-- With both flags on, the loop command leaves five writes for `exFile`, three of them
records; with none, the other two. It makes no difference whether it is a request under a
recorder with a log open, or a call. A session around the same command has tags in its
log in one case only. -/
theorem exFile_untraced :
    let env : Environment := ⟨some "1", some "TRUE", none⟩
    let steps : List (Step Empty) :=
      [.withLog false [.request (.loopFile "boot" false), .readFlag .trace], .programPath]
    let traced := CommandLine.run ["loop", "boot"] env Session.exFile
    let untraced := CommandLine.run ["loop", "boot"] .empty Session.exFile
    let perform : Live Reply := Showing.perform Session.exFile [] (.loopFile "boot" false)
    let tracing : Recorder := ⟨.empty, some true, some true, [[]]⟩
    let silent : Recorder := .ofEnvironment .empty
    (perform tracing).1.log.length = 5 ∧ (perform silent).1.log.length = 2 ∧
    (perform tracing).1.result = (perform silent).1.result ∧
    (perform tracing).1.log.filter Event.isLine = (perform silent).1.log.filter Event.isLine ∧
    env.program = Environment.empty.program ∧
    traced.events.length = 5 ∧ untraced.events.length = 2 ∧
    traced.code = untraced.code ∧ traced.stdout = untraced.stdout ∧
    traced.withoutTrace = untraced.withoutTrace ∧
    (Session.runSteps Session.exFile [] false steps (.ofEnvironment env)).1.plain =
      (Session.runSteps Session.exFile [] false steps (.ofEnvironment .empty)).1.plain := by
  intro env steps traced untraced perform tracing silent
  obtain ⟨requests, _, _, sessions, calls⟩ :=
    tracing_changes_no_result (δ := Empty) Session.exFile []
  have same : Live.Indifferent perform := requests (.loopFile "boot" false)
  obtain ⟨result, shown⟩ := same tracing silent
  obtain ⟨code, stdout, lines⟩ := calls ["loop", "boot"] env .empty rfl
  exact ⟨by decide +kernel, by decide +kernel, result, shown, rfl, by decide +kernel,
    by decide +kernel, code, stdout, lines,
    sessions false steps (.ofEnvironment env) (.ofEnvironment .empty) rfl⟩

end LoopRepair
