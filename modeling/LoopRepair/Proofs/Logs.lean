import LoopRepair.Proofs.Replays

/-!
# What a log holds

A session may open logs inside logs, switch tracing on and off in between, and
break off in the middle of a log because of a fault. Where a tag goes is decided by
a stack of open logs. This module compares the stack with the nesting of the steps.

`happenings` is the record of a run that pays no attention to the stack: the tags
emitted with tracing on, in order, with those emitted inside a log set apart. A log
opened while tracing is off is not set apart: what happens in it happens around it.

Results:
1. `logs_runSteps`: steps leave the open logs as they were, but for the tags that
   happened outside any inner log. These are at the end of the innermost one.
2. `log_answers_own_tags`: so a log answers with the tags that happened in it and in
   no log inside it, and the logs around it are again in force when it ends, by
   whatever way it ends.
-/

namespace LoopRepair

/-! ## Histories of emission -/

/-- Something that happened in a run: a tag was emitted with tracing on, or a log
was opened, and this happened inside. -/
inductive Happening where
  | tag (tag : Tag)
  | log (inside : List Happening)

/-- The tags that were emitted outside any log. -/
def ownTags (happened : List Happening) : List Tag :=
  happened.filterMap fun
    | .tag tag => some tag
    | .log _ => none

namespace Recorder

/-- The tags among those emitted in order that find tracing on. -/
def admitted (r : Recorder) : List Tag → List Tag
  | [] => []
  | tag :: tags =>
    if r.isOn .trace then tag :: (r.emit tag).admitted tags else (r.emit tag).admitted tags

/-- The recorder at the first step inside a log that is opened now. -/
def inside (r : Recorder) : Recorder :=
  if r.isOn .trace then (r.latch .trace).openLog else r.latch .trace

/-- What happens if a log is opened now and these things happen inside. -/
def nest (r : Recorder) (happened : List Happening) : List Happening :=
  if r.isOn .trace then [.log happened] else happened

end Recorder

namespace Session

variable {δ : Type}

mutual

/-- What happens in a step. -/
def happenings (source : Source) (shared : Program) : Step δ → Recorder → List Happening
  | .request request, r =>
    (r.admitted ((request.perform source shared).log.filterMap Event.tag?)).map .tag
  | .emit tag, r => (r.admitted [tag]).map .tag
  | .withLog escape steps, r => r.nest (happeningsOf source shared escape steps r.inside)
  | .parallel branches, r => happeningsInBranches source shared branches r
  | .given _, _ | .setVariable _ _, _ | .reset, _ | .readFlag _, _ | .programPath, _ => []

/-- What happens in steps, up to the first fault if faults escape. -/
def happeningsOf (source : Source) (shared : Program) (escape : Bool) :
    List (Step δ) → Recorder → List Happening
  | [], _ => []
  | step :: steps, r =>
    let ran := runStep source shared step r
    happenings source shared step r ++
      if escape && ran.1.1.fault?.isSome then []
      else happeningsOf source shared escape steps ran.2

/-- What happens in branches, each of which has a log of its own. -/
def happeningsInBranches (source : Source) (shared : Program) :
    List (List (Step δ)) → Recorder → List Happening
  | [], _ => []
  | steps :: branches, r =>
    r.nest (happeningsOf source shared false steps r.inside) ++
      happeningsInBranches source shared branches
        (r.withLog fun r => runSteps source shared false steps r).2

end

end Session

@[simp] theorem ownTags_append (before after : List Happening) :
    ownTags (before ++ after) = ownTags before ++ ownTags after :=
  List.filterMap_append

@[simp] theorem ownTags_map_tag (tags : List Tag) : ownTags (tags.map .tag) = tags := by
  rw [ownTags, List.filterMap_map]
  exact List.filterMap_some

/-! ## Delivery -/

/-- The open logs after tags were added to the innermost one, if there is one. -/
def deliver (logs : List (List Tag)) (tags : List Tag) : List (List Tag) :=
  logs.modifyHead (· ++ tags)

@[simp] theorem deliver_nil (logs : List (List Tag)) : deliver logs [] = logs := by
  cases logs <;> simp [deliver]

@[simp] theorem deliver_deliver (logs : List (List Tag)) (tags more : List Tag) :
    deliver (deliver logs tags) more = deliver logs (tags ++ more) := by
  cases logs <;> simp [deliver]

namespace Recorder

variable (r : Recorder)

@[simp] theorem logs_latch (flag : Flag) : (r.latch flag).logs = r.logs := by
  cases flag <;> rfl

theorem logs_append (tag : Tag) : (r.append tag).logs = deliver r.logs [tag] := by
  unfold append
  split
  · next none => rw [none]; rfl
  · next log outer open_ => rw [open_]; rfl

theorem logs_emit (tag : Tag) :
    (r.emit tag).logs = if r.isOn .trace then deliver r.logs [tag] else r.logs := by
  unfold emit
  split
  · rw [logs_append, logs_latch, logs_latch]
  · rw [logs_latch]

theorem logs_emitAll (tags : List Tag) :
    (r.emitAll tags).logs = deliver r.logs (r.admitted tags) := by
  induction tags generalizing r with
  | nil => rw [admitted, deliver_nil]; rfl
  | cons tag tags ih =>
    show ((r.emit tag).emitAll tags).logs = _
    rw [ih, logs_emit, admitted]
    split
    · rw [deliver_deliver]; rfl
    · rfl

theorem isOn_inside (flag : Flag) : r.inside.isOn flag = r.isOn flag := by
  unfold inside
  split
  · cases flag <;> rfl
  · exact r.isOn_latch .trace flag

theorem admitted_of_on (on : r.isOn .trace = true) (tags : List Tag) : r.admitted tags = tags := by
  induction tags generalizing r with
  | nil => rfl
  | cons tag tags ih => rw [admitted, if_pos on, ih _ (by rw [isOn_emit, on])]

/-- A log takes what its body delivers and leaves the logs around it alone; without
a log, the delivery goes to the one around. -/
theorem withLog_of_deliver {β : Type} {body : Recorder → β × Recorder} {tags : List Tag}
    (delivers : (body r.inside).2.logs = deliver r.inside.logs tags) :
    (r.withLog body).1 = ((body r.inside).1, if r.isOn .trace then tags else []) ∧
    (r.withLog body).2.logs = if r.isOn .trace then r.logs else deliver r.logs tags := by
  cases on : r.isOn .trace with
  | true =>
    have opened : r.inside = (r.latch .trace).openLog := by rw [inside, on]; rfl
    have innermost : (body r.inside).2.logs = tags :: r.logs := by
      rw [delivers, opened, openLog, logs_latch]; rfl
    rw [withLog, on, ← opened]
    simp [Recorder.innermost, closeLog, innermost]
  | false =>
    have opened : r.inside = r.latch .trace := by rw [inside, on]; rfl
    have around : (body r.inside).2.logs = deliver r.logs tags := by
      rw [delivers, opened, logs_latch]
    rw [withLog, on, ← opened]
    simp [around]

theorem ownTags_nest (happened : List Happening) :
    ownTags (r.nest happened) = if r.isOn .trace then [] else ownTags happened := by
  unfold nest
  split <;> rfl

end Recorder

namespace Session

variable {δ : Type}

/-! ## Steps and logs -/

mutual

theorem logs_runStep (source : Source) (shared : Program) (step : Step δ) (r : Recorder) :
    (runStep source shared step r).2.logs =
      deliver r.logs (ownTags (happenings source shared step r)) := by
  cases step with
  | given _ | setVariable _ _ | reset | programPath => exact (deliver_nil _).symm
  | readFlag flag => rw [runStep, Recorder.logs_latch]; exact (deliver_nil _).symm
  | request request =>
    rw [happenings, ownTags_map_tag, runStep, performRequest_eq]
    exact r.logs_emitAll _
  | emit tag =>
    rw [happenings, ownTags_map_tag]
    exact r.logs_emitAll [tag]
  | withLog escape steps =>
    have inside := logs_runSteps source shared escape steps r.inside
    rw [happenings, Recorder.ownTags_nest]
    refine (r.withLog_of_deliver inside).2.trans ?_
    split <;> simp
  | parallel branches => exact logs_runBranches source shared branches r

theorem logs_runSteps (source : Source) (shared : Program) (escape : Bool)
    (steps : List (Step δ)) (r : Recorder) :
    (runSteps source shared escape steps r).2.logs =
      deliver r.logs (ownTags (happeningsOf source shared escape steps r)) := by
  cases steps with
  | nil => exact (deliver_nil _).symm
  | cons step steps =>
    have first := logs_runStep source shared step r
    have rest := logs_runSteps source shared escape steps (runStep source shared step r).2
    rw [first, deliver_deliver] at rest
    rw [runSteps, happeningsOf, ownTags_append]
    cases escape with
    | false => exact rest
    | true =>
      cases fault : (runStep source shared step r).1.1.fault? with
      | none => simpa [fault] using rest
      | some _ => simpa [fault, ownTags] using first

theorem logs_runBranches (source : Source) (shared : Program)
    (branches : List (List (Step δ))) (r : Recorder) :
    (runBranches source shared branches r).2.logs =
      deliver r.logs (ownTags (happeningsInBranches source shared branches r)) := by
  cases branches with
  | nil => exact (deliver_nil _).symm
  | cons steps branches =>
    have inside := logs_runSteps source shared false steps r.inside
    have log := (r.withLog_of_deliver inside).2
    rw [runBranches, happeningsInBranches, ownTags_append, Recorder.ownTags_nest]
    rw [logs_runBranches, log]
    split <;> simp

end

/-- A log answers with the tags that were emitted in it with tracing on and in no
log inside it, unless tracing was off when it was opened: then it has no tags, and
those tags are in the log around it. Apart from these, the open logs after it are
the ones before it, whether it returns or a fault escapes. A branch of a parallel
step is such a log too. -/
theorem log_answers_own_tags (source : Source) (shared : Program) (escape : Bool)
    (steps : List (Step δ)) (branches : List (List (Step δ))) (r : Recorder) :
    (let own := ownTags (happeningsOf source shared escape steps r.inside)
      let ran := runStep source shared (.withLog escape steps) r
      ran.1.1 = logAnswer ((runSteps source shared escape steps r.inside).1,
        if r.isOn .trace then own else []) ∧
      ran.2.logs = if r.isOn .trace then r.logs else deliver r.logs own) ∧
    let own := ownTags (happeningsOf source shared false steps r.inside)
    ∃ next, runBranches source shared (steps :: branches) r =
        (((runSteps source shared false steps r.inside).1.entries,
            if r.isOn .trace then own else []) :: (runBranches source shared branches next).1,
          (runBranches source shared branches next).2) ∧
      next.logs = if r.isOn .trace then r.logs else deliver r.logs own := by
  constructor
  · have log := r.withLog_of_deliver (logs_runSteps source shared escape steps r.inside)
    exact ⟨congrArg logAnswer log.1, log.2⟩
  · have log := r.withLog_of_deliver (logs_runSteps source shared false steps r.inside)
    refine ⟨(r.withLog fun r => runSteps source shared false steps r).2, ?_, log.2⟩
    rw [runBranches, log.1]

/-- Two logs among emissions. The second one is opened with tracing off, and ends at a fault
after tracing is on again. -/
def exNested : List (Step Empty) :=
  [.emit (.halt 1 none), .withLog false [.emit (.halt 2 none)],
    .setVariable .trace none, .reset,
    .withLog true
      [.emit (.halt 3 none), .setVariable .trace (some "TRUE"), .reset,
        .emit (.halt 4 none), .request (.extractLoop [] 0), .emit (.halt 5 none)],
    .emit (.halt 6 none)]

/-- With tracing on, a log around these steps, or a branch of them, has the tags that are not
in the first log inside. With tracing off it has none, and what is emitted later is in the log
around it. -/
theorem exNested_logged :
    let source : Source := fun _ => .error .missing
    let tracing := Recorder.ofEnvironment ⟨some "1", none, none⟩
    let silent : Recorder := ⟨.empty, none, none, [[.halt 0 none]]⟩
    let traced := runStep source [] (.withLog false exNested) tracing
    let untraced := runStep source [] (.withLog false exNested) silent
    (∃ entries, traced.1.1 = .logged entries [.halt 1 none, .halt 4 none, .halt 6 none]) ∧
    traced.2.logs = [] ∧
    (∃ entries, untraced.1.1 = .logged entries []) ∧
    untraced.2.logs = [[.halt 0 none, .halt 4 none, .halt 6 none]] ∧
    ∃ entries, (runBranches source [] [exNested] tracing).1 =
      [(entries, [.halt 1 none, .halt 4 none, .halt 6 none])] := by
  intro source tracing silent traced untraced
  obtain ⟨⟨answer, logs⟩, _, branch, _⟩ :=
    log_answers_own_tags source [] false exNested [] tracing
  obtain ⟨⟨answer', logs'⟩, _⟩ := log_answers_own_tags source [] false exNested [] silent
  have on : tracing.isOn .trace = true := by decide +kernel
  have off : silent.isOn .trace = false := by decide +kernel
  have own : ownTags (happeningsOf source [] false exNested tracing.inside) =
      [.halt 1 none, .halt 4 none, .halt 6 none] := by decide +kernel
  have own' : ownTags (happeningsOf source [] false exNested silent.inside) =
      [.halt 4 none, .halt 6 none] := by decide +kernel
  rw [on, own] at answer logs branch
  rw [off, own'] at answer' logs'
  exact ⟨⟨_, answer⟩, logs, ⟨_, answer'⟩, logs', _, congrArg Prod.fst branch⟩

end Session

end LoopRepair
