import LoopRepair.CommandLine
import LoopRepair.Session
import LoopRepair.Proofs.Listings

/-!
# From one kind of computation to another

Reading, running and repairing are written once for all kinds of traced computation. So a
map between two kinds that keeps the four things such a computation can do, to return, to go
on, to emit a tag and to fault, takes what a function does in the one kind to what it does in
the other. `Tracing.Translation` is such a map, and here it is followed through one function
after the other, in the shape in which each is written.

One translation is given at once: `Logged.toEvents` takes a log of tags to a log of events.
The other one, into computations under a recorder, is the subject of `Proofs.Replays`.

Results:
1. `map_readLines`, `map_tryEach` and the like: what a function does is translated into what
   it does.
2. `Logged.read_eq`: a listing that is read line by line is the one that is read at once, with
   the tags of its warnings in the log.
3. `loadFile_def`, `repairFile_def`, `loopFile_def`: the commands on files, put together from
   logged computations.
-/

namespace LoopRepair

/-! ## Translations -/

/-- A map between two kinds of computation that keeps what traced computations do. -/
structure Tracing.Translation (m n : Type → Type) [Tracing m] [Tracing n] where
  map {α : Type} : m α → n α
  map_pure {α : Type} (a : α) : map (pure a) = pure a
  map_bind {α β : Type} (x : m α) (f : α → m β) : map (x >>= f) = map x >>= fun a => map (f a)
  map_emit (tag : Tag) : map (emit tag) = emit tag
  map_ofExcept {α : Type} (result : Except Fault α) : map (ofExcept result) = ofExcept result

/-- A map that keeps the lines that are shown, as well. -/
structure Showing.Translation (m n : Type → Type) [Showing m] [Showing n] extends
    Tracing.Translation m n where
  map_out (line : String) : map (out line) = out line
  map_err (line : String) : map (err line) = err line
  map_withLines {α : Type} (x : m α) : map (withLines x) = withLines (map x)

namespace Tracing.Translation

variable {m n : Type → Type} [Tracing m] [Tracing n] (φ : Translation m n)

/-- What goes on in two steps is translated step by step. -/
theorem map_bind_eq {α β : Type} {x : m α} {y : n α} {f : α → m β} {g : α → n β}
    (first : φ.map x = y) (second : ∀ a, φ.map (f a) = g a) : φ.map (x >>= f) = y >>= g := by
  rw [φ.map_bind, first, funext second]

theorem map_emitAll (tags : List Tag) : φ.map (emitAll tags) = emitAll tags := by
  induction tags with
  | nil => exact φ.map_pure ()
  | cons tag tags ih => exact φ.map_bind_eq (φ.map_emit tag) fun _ => ih

theorem map_readLines (lines : List (List Char)) (number : Nat) :
    φ.map (readLines lines number) = readLines lines number := by
  induction lines generalizing number with
  | nil => exact φ.map_pure _
  | cons line lines ih =>
    refine φ.map_bind_eq (φ.map_emitAll _) fun _ => ?_
    exact φ.map_bind_eq (ih (number + 1)) fun rest => φ.map_pure _

theorem map_read (text : String) : φ.map (read text) = read text :=
  φ.map_readLines _ 1

variable (prog : Program)

theorem map_execute (swap : Swap) : φ.map (execute prog swap) = execute prog swap := by
  unfold execute
  cases prog.run swap with
  | ok out => exact φ.map_bind_eq (φ.map_emit _) fun _ => φ.map_pure out
  | error ins => exact φ.map_ofExcept _

theorem map_firstLoop : φ.map (firstLoop prog) = firstLoop prog := by
  refine φ.map_bind_eq (φ.map_execute prog none) fun out => ?_
  cases out.ending with
  | halted => exact φ.map_pure none
  | looped entry => exact φ.map_bind_eq (φ.map_ofExcept _) fun loop => φ.map_pure (some loop)

theorem map_tryEach (positions : List Nat) :
    φ.map (tryEach prog positions) = tryEach prog positions := by
  induction positions with
  | nil => exact φ.map_pure _
  | cons pos rest ih =>
    refine φ.map_bind_eq (φ.map_execute prog (some pos)) fun out => ?_
    refine φ.map_bind_eq (φ.map_emit _) fun _ => ?_
    by_cases halted : out.isHalted = true
    · rw [if_pos halted, if_pos halted]
      exact φ.map_pure _
    · rw [if_neg halted, if_neg halted]
      exact φ.map_bind_eq ih fun (tried, found) => φ.map_pure (pos :: tried, found)

theorem map_repair : φ.map (repair prog) = repair prog := by
  refine φ.map_bind_eq (φ.map_execute prog none) fun out => ?_
  cases out.ending with
  | halted => exact φ.map_bind_eq (φ.map_emit _) fun _ => φ.map_pure _
  | looped entry =>
    refine φ.map_bind_eq (φ.map_ofExcept _) fun loop => ?_
    refine φ.map_bind_eq (φ.map_tryEach prog _) fun (tried, found) => ?_
    cases found with
    | none => exact φ.map_pure _
    | some last => exact φ.map_bind_eq (φ.map_emit _) fun _ => φ.map_pure _

theorem map_get (shared : Program) (source : ProgramSource) :
    φ.map (source.get shared) = source.get shared := by
  cases source with
  | text listing => exact φ.map_bind_eq (φ.map_read listing) fun listing => φ.map_pure _
  | listed _ | shared => exact φ.map_pure _

end Tracing.Translation

namespace Showing.Translation

variable {m n : Type → Type} [Showing m] [Showing n] (φ : Translation m n) (source : Source)

theorem map_errAll (lines : List String) : φ.map (errAll lines) = errAll lines := by
  induction lines with
  | nil => exact φ.map_pure ()
  | cons line lines ih => exact φ.map_bind_eq (φ.map_err line) fun _ => ih

theorem map_loadFile (path : String) (strict : Bool) :
    φ.map (loadFile source path strict) = loadFile source path strict := by
  unfold loadFile
  cases readText source path with
  | error failure => exact φ.map_pure _
  | ok text =>
    refine φ.map_bind_eq (φ.map_read text) fun listing => ?_
    by_cases doubtful : (strict && !listing.warnings.isEmpty) = true
    · rw [if_pos doubtful, if_pos doubtful]
      exact φ.map_pure _
    · rw [if_neg doubtful, if_neg doubtful]
      exact φ.map_bind_eq (φ.map_errAll _) fun _ => φ.map_pure _

theorem map_fail (failure : Failure) : φ.map (fail failure) = fail failure :=
  φ.map_bind_eq (φ.map_err _) fun _ => φ.map_pure 1

theorem map_repairFile (path : String) (options : RepairOptions) :
    φ.map (repairFile source path options) = repairFile source path options := by
  refine φ.map_bind_eq (φ.map_loadFile source path options.strict) fun loaded => ?_
  cases loaded with
  | error failure => exact φ.map_fail failure
  | ok prog =>
    refine φ.map_bind_eq (φ.map_repair prog) fun answer => ?_
    cases answer with
    | error trouble => exact φ.map_fail _
    | ok report => exact φ.map_bind_eq (φ.map_out _) fun _ => φ.map_pure 0

theorem map_loopFile (path : String) (strict : Bool) :
    φ.map (loopFile source path strict) = loopFile source path strict := by
  refine φ.map_bind_eq (φ.map_loadFile source path strict) fun loaded => ?_
  cases loaded with
  | error failure => exact φ.map_fail failure
  | ok prog =>
    refine φ.map_bind_eq (φ.map_firstLoop prog) fun loop => ?_
    cases loop with
    | none =>
      refine φ.map_bind_eq (φ.map_execute prog none) fun out => ?_
      exact φ.map_bind_eq (φ.map_out _) fun _ => φ.map_pure 0
    | some loop => exact φ.map_bind_eq (φ.map_out _) fun _ => φ.map_pure 0

theorem map_perform (shared : Program) (request : Request) :
    φ.map (perform source shared request) = perform source shared request := by
  cases request with
  | parse text => exact φ.map_bind_eq (φ.map_read text) fun listing => φ.map_pure _
  | execute program swap =>
    refine φ.map_bind_eq (φ.map_get shared program) fun prog => ?_
    exact φ.map_bind_eq (φ.map_execute prog swap) fun out => φ.map_pure _
  | firstLoop program =>
    refine φ.map_bind_eq (φ.map_get shared program) fun prog => ?_
    exact φ.map_bind_eq (φ.map_firstLoop prog) fun loop => φ.map_pure _
  | repair program =>
    refine φ.map_bind_eq (φ.map_get shared program) fun prog => ?_
    exact φ.map_bind_eq (φ.map_repair prog) fun answer => φ.map_pure _
  | extractLoop moves start =>
    unfold perform
    dsimp only
    cases Cycle.walk moves start with
    | ok positions => exact φ.map_pure _
    | error error => exact φ.map_ofExcept _
  | readText path => exact φ.map_pure _
  | loadFile path strict =>
    have loads := φ.map_withLines (loadFile source path strict)
    rw [φ.map_loadFile] at loads
    exact φ.map_bind_eq loads fun (loaded, lines) => φ.map_pure _
  | repairFile path options =>
    have runs := φ.map_withLines (repairFile source path options)
    rw [φ.map_repairFile] at runs
    exact φ.map_bind_eq runs fun (code, lines) => φ.map_pure _
  | loopFile path strict =>
    have runs := φ.map_withLines (loopFile source path strict)
    rw [φ.map_loopFile] at runs
    exact φ.map_bind_eq runs fun (code, lines) => φ.map_pure _

theorem map_work (order : CommandLine.Order) (env : Environment) :
    φ.map (order.work env source) = order.work env source := by
  unfold CommandLine.Order.work
  cases order.verb with
  | repair => exact φ.map_repairFile source _ _
  | loop => exact φ.map_loopFile source _ _

end Showing.Translation

/-! ## Logged computations -/

namespace Logged

/-- The trace of a computation as events. -/
def events {α : Type} (x : Logged Tag α) : Logged Event α :=
  x.mapLog .tag

/-- Tags as events. -/
def toEvents : Tracing.Translation (Logged Tag) (Logged Event) where
  map := events
  map_pure _ := rfl
  map_bind x f := by
    obtain ⟨result, log⟩ := x
    cases result with
    | error fault => rfl
    | ok a => exact congrArg (Logged.mk (f a).result) List.map_append
  map_emit _ := rfl
  map_ofExcept _ := rfl

theorem emitAll_eq (tags : List Tag) :
    (Tracing.emitAll tags : Logged Event Unit) = tell (tags.map .tag) := by
  induction tags with
  | nil => rfl
  | cons tag tags ih =>
    show (tell [Event.tag tag]).andThen (fun _ => Tracing.emitAll tags) = _
    rw [ih]
    rfl

theorem errAll_eq (lines : List String) :
    (Showing.errAll lines : Logged Event Unit) = tell (lines.map .err) := by
  induction lines with
  | nil => rfl
  | cons line lines ih =>
    show (tell [Event.err line]).andThen (fun _ => Showing.errAll lines) = _
    rw [ih]
    rfl

theorem readLines_eq (lines : List (List Char)) (number : Nat) :
    (Tracing.readLines lines number : Logged Event Listing) =
      ⟨.ok (.ofLines lines number), (Listing.ofLines lines number).tags.map .tag⟩ := by
  induction lines generalizing number with
  | nil => rfl
  | cons line lines ih =>
    have both : Listing.ofLines (line :: lines) number =
        ⟨(Listing.ofLines [line] number).program ++ (Listing.ofLines lines (number + 1)).program,
          (Listing.ofLines [line] number).warnings ++
            (Listing.ofLines lines (number + 1)).warnings⟩ := by
      rw [Listing.ofLines_cons, Listing.ofLines_cons line []]
      simp [Listing.ofLines]
    show (Tracing.emitAll _ : Logged Event Unit).andThen (fun _ =>
      (Tracing.readLines lines (number + 1) : Logged Event Listing).andThen _) = _
    rw [emitAll_eq, ih, both]
    simp [Logged.andThen_of_ok, Listing.tags]

theorem read_eq (text : String) :
    (Tracing.read text : Logged Event Listing) =
      ⟨.ok (.read text), (Listing.read text).tags.map .tag⟩ :=
  readLines_eq _ 1

end Logged

/-! ## Commands with a log of events -/

variable {source : Source} {path : String}

theorem loadFile_def (source : Source) (path : String) (strict : Bool) :
    loadFile source path strict = match readText source path with
      | .error failure => ⟨.ok (.error failure), []⟩
      | .ok text =>
        let listing := Listing.read text
        if strict && !listing.warnings.isEmpty then
          ⟨.ok (.error (.doubtful path listing.warnings)), listing.tags.map .tag⟩
        else
          ⟨.ok (.ok listing.program),
            listing.tags.map .tag ++ listing.warnings.map fun w => .err w.message⟩ := by
  unfold loadFile Showing.loadFile
  cases readText source path with
  | error failure => rfl
  | ok text =>
    show (Tracing.read text : Logged Event Listing).andThen _ = _
    rw [Logged.read_eq, Logged.andThen_of_ok rfl]
    dsimp only
    split
    · exact congrArg (Logged.mk _) (List.append_nil _)
    · rw [Logged.errAll_eq]
      simp [Logged.andThen_of_ok]

theorem repairFile_def (source : Source) (path : String) (options : RepairOptions) :
    repairFile source path options =
      (loadFile source path options.strict).andThen fun
        | .error failure => fail failure
        | .ok prog => prog.repair.events.andThen fun
          | .error trouble => fail (.noRepair trouble)
          | .ok report => ⟨.ok 0, [.out (repairLine prog options.json report)]⟩ := by
  refine congrArg (Logged.andThen _) (funext fun loaded => ?_)
  cases loaded with
  | error failure => rfl
  | ok prog =>
    refine (congrArg (Logged.andThen · _) (Logged.toEvents.map_repair prog).symm).trans ?_
    refine congrArg (Logged.andThen _) (funext fun answer => ?_)
    cases answer <;> rfl

theorem loopFile_def (source : Source) (path : String) (strict : Bool) :
    loopFile source path strict =
      (loadFile source path strict).andThen fun
        | .error failure => fail failure
        | .ok prog => prog.firstLoop.events.andThen fun
          | none => (prog.execute none).events.andThen fun out =>
              ⟨.ok 0, [.out ("terminated with accumulator " ++ Decimal.write out.acc)]⟩
          | some loop => ⟨.ok 0, [.out (loopLine loop)]⟩ := by
  refine congrArg (Logged.andThen _) (funext fun loaded => ?_)
  cases loaded with
  | error failure => rfl
  | ok prog =>
    refine (congrArg (Logged.andThen · _) (Logged.toEvents.map_firstLoop prog).symm).trans ?_
    refine congrArg (Logged.andThen _) (funext fun found => ?_)
    cases found with
    | none => exact congrArg (Logged.andThen · _) (Logged.toEvents.map_execute prog none).symm
    | some loop => rfl

/-! ## Requests with a log of events -/

namespace Request

variable (source : Source) (shared : Program)

theorem perform_repair_listed (prog : Program) :
    perform source shared (.repair (.listed prog)) =
      prog.repair.events.andThen fun answer => pure (.repair answer) := by
  show (Tracing.repair prog : Logged Event _).andThen _ = _
  rw [← Logged.toEvents.map_repair prog]
  rfl

theorem perform_repairFile (path : String) (options : RepairOptions) :
    perform source shared (.repairFile path options) =
      (LoopRepair.repairFile source path options).withLines.andThen fun ran =>
        pure (.exited ran.1 ran.2) := rfl

theorem perform_loopFile (path : String) (strict : Bool) :
    perform source shared (.loopFile path strict) =
      (LoopRepair.loopFile source path strict).withLines.andThen fun ran =>
        pure (.exited ran.1 ran.2) := rfl

end Request

end LoopRepair
