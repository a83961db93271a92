import LoopRepair.Proofs.Translations

/-!
# Under a recorder

What runs is `Live`: every tag goes to the recorder at the moment it is emitted, and what runs
after it runs under the recorder that this leaves. A log that holds all events can be replayed
under a recorder afterwards. The tags go to it in their order, and all else is left as it is.
This module shows that it comes to the same, for everything that the library does
(`Live.ofLogged`). For a live computation has no way to ask the recorder anything.

So the result of a request or a call is settled before there is a recorder, and so are its
lines. What a recorder adds is told by `Recorder.seen`, and what becomes of the recorder by
`Recorder.emitAll`.

Results:
1. `Live.ofLogged`: to replay is to translate.
2. `Session.performRequest_eq`, `CommandLine.Order.exit_eq`: a request and a call, by their
   logs and the recorder.
-/

namespace LoopRepair

/-! ## What is seen of a log -/

namespace Recorder

/-- The events that are seen: all lines, and the tags that are echoed. -/
def seen (r : Recorder) : List Event → List Event
  | [] => []
  | .tag tag :: events =>
    if r.echoes then .tag tag :: (r.emit tag).seen events else (r.emit tag).seen events
  | event :: events => event :: r.seen events

variable (r : Recorder)

theorem emitAll_append (tags later : List Tag) :
    r.emitAll (tags ++ later) = (r.emitAll tags).emitAll later :=
  List.foldl_append

/-- What is seen later is seen under the recorder that the earlier tags leave. -/
theorem seen_append (events later : List Event) :
    r.seen (events ++ later) =
      r.seen events ++ (r.emitAll (events.filterMap Event.tag?)).seen later := by
  induction events generalizing r with
  | nil => rfl
  | cons event events ih =>
    cases event with
    | out line | err line => exact congrArg (List.cons _) (ih r)
    | tag tag =>
      rw [List.cons_append, seen, seen, ih]
      split <;> rfl

/-- The tags that are seen are those that are echoed. -/
theorem filterMap_tag?_seen (events : List Event) :
    (r.seen events).filterMap Event.tag? = r.echo (events.filterMap Event.tag?) := by
  induction events generalizing r with
  | nil => rfl
  | cons event events ih =>
    cases event with
    | out line | err line => exact ih r
    | tag tag =>
      show _ = r.echo (tag :: events.filterMap Event.tag?)
      rw [seen, echo, ← ih]
      split <;> rfl

/-- All events are seen or the lines only, as the flags are. -/
theorem seen_eq (events : List Event) :
    r.seen events = if r.echoes then events else events.filter Event.isLine := by
  induction events generalizing r with
  | nil => exact (ite_self _).symm
  | cons event events ih =>
    cases event with
    | out line | err line =>
      show _ :: r.seen events = _
      rw [ih]
      split <;> rfl
    | tag tag =>
      have echoes : (r.emit tag).echoes = r.echoes := by
        rw [Recorder.echoes, isOn_emit, isOn_emit, ← Recorder.echoes]
      rw [seen, ih, echoes]
      split <;> rfl

/-- Tracing adds records between the lines and does nothing else to them. -/
theorem filter_isLine_seen (events : List Event) :
    (r.seen events).filter Event.isLine = events.filter Event.isLine := by
  rw [seen_eq]
  split
  · rfl
  · simp only [List.filter_filter, Bool.and_self]

end Recorder

/-! ## Replaying a log -/

namespace Live

/-- A computation with its log, replayed under a recorder. -/
def replay {α : Type} (x : Logged Event α) : Live α := fun r =>
  (⟨x.result, r.seen x.log⟩, r.emitAll (x.log.filterMap Event.tag?))

/-- What goes on in two steps is replayed step by step. -/
theorem replay_andThen {α β : Type} (x : Logged Event α) (f : α → Logged Event β) :
    replay (x.andThen f) = (replay x).andThen fun a => replay (f a) := by
  funext r
  obtain ⟨result, log⟩ := x
  cases result with
  | error fault => rfl
  | ok a =>
    show ((⟨(f a).result, r.seen (log ++ (f a).log)⟩ : Logged Event β),
      r.emitAll ((log ++ (f a).log).filterMap Event.tag?)) = _
    rw [r.seen_append, List.filterMap_append, r.emitAll_append]
    rfl

/-- To replay is to translate: nothing that runs under a recorder can tell that it does. -/
def ofLogged : Showing.Translation (Logged Event) Live where
  map := replay
  map_pure _ := rfl
  map_bind := replay_andThen
  map_emit tag := by
    funext r
    show ((⟨.ok (), r.seen [.tag tag]⟩ : Logged Event Unit), r.emit tag) = _
    rw [Recorder.seen, Recorder.seen]
    rfl
  map_ofExcept _ := rfl
  map_out _ := rfl
  map_err _ := rfl
  map_withLines x := by
    funext r
    show ((⟨x.result.map fun a => (a, x.log.filter Event.isLine), r.seen x.log⟩ :
      Logged Event _), _) = _
    rw [← r.filter_isLine_seen]
    rfl

end Live

/-! ## Requests and calls -/

theorem Request.replay_perform (request : Request) (source : Source) (shared : Program) :
    Showing.perform source shared request = Live.replay (request.perform source shared) :=
  (Live.ofLogged.map_perform source shared request).symm

/-- A request under a recorder: its tags are emitted in order. -/
theorem Session.performRequest_eq {δ : Type} (source : Source) (shared : Program)
    (request : Request) (r : Recorder) :
    performRequest (δ := δ) source shared request r =
      let performed := request.perform source shared
      let tags := performed.log.filterMap Event.tag?
      ((.ofResult performed.result, r.echo tags), r.emitAll tags) := by
  unfold performRequest
  rw [request.replay_perform]
  dsimp only [Live.replay]
  rw [r.filterMap_tag?_seen]

theorem CommandLine.Order.replay_run (order : Order) (env : Environment) (source : Source) :
    order.work env source = Live.replay (order.run env source) :=
  (Live.ofLogged.map_work source order env).symm

/-- An order under the flags of an environment: its events are those that are seen. -/
theorem CommandLine.Order.exit_eq (order : Order) (env : Environment) (source : Source) :
    order.exit env source =
      let ran := order.run env source
      let seen := (Recorder.ofEnvironment env).seen ran.log
      match ran.result with
      | .ok code => ⟨code, seen⟩
      | .error fault => ⟨1, seen ++ [.err fault.message]⟩ := by
  unfold exit
  rw [order.replay_run]
  rfl

end LoopRepair
