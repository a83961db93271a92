import LoopRepair.Fault
import LoopRepair.Trace.Event
import LoopRepair.Trace.Recorder

/-!
# Traced computations

Reading, running and repairing emit tags on the way and may end in a fault;
commands show lines besides. Each of them is written once, for all kinds of
computation that can do so (`Tracing`, `Showing`). No kind gives an account of
what became of a tag, so nothing can be made to depend on it.

Two kinds are used. A `Live` computation runs under a recorder, which has every
tag at the moment it is emitted: this is how requests and calls are carried out.
A `Logged` one knows no recorder and keeps all of its tags, or all of its events,
in its log.
-/

namespace LoopRepair

/-- Computations that emit tags and may end in a fault. -/
class Tracing (m : Type → Type) extends Monad m where
  /-- Emits a tag. -/
  emit : Tag → m Unit
  /-- A result that is at hand, or the fault in its place. -/
  ofExcept {α : Type} : Except Fault α → m α

/-- Computations that show lines to the user as well. -/
class Showing (m : Type → Type) extends Tracing m where
  /-- Shows a line on the output stream. -/
  out : String → m Unit
  /-- Shows a line on the error stream. -/
  err : String → m Unit
  /-- A computation that also returns the lines it has shown. -/
  withLines {α : Type} : m α → m (α × List Event)

/-- Emits tags in order. -/
def Tracing.emitAll {m : Type → Type} [Tracing m] : List Tag → m Unit
  | [] => pure ()
  | tag :: tags => do
    emit tag
    emitAll tags

/-- Shows lines on the error stream in order. -/
def Showing.errAll {m : Type → Type} [Showing m] : List String → m Unit
  | [] => pure ()
  | line :: lines => do
    err line
    errAll lines

/-! ## Logged computations -/

namespace Logged

/-- A computation that also returns the lines it has shown. -/
def withLines {α : Type} (x : Logged Event α) : Logged Event (α × List Event) :=
  ⟨x.result.map fun a => (a, x.log.filter Event.isLine), x.log⟩

instance : Tracing (Logged Tag) where
  emit tag := tell [tag]
  ofExcept := ofExcept

instance : Showing (Logged Event) where
  emit tag := tell [.tag tag]
  ofExcept := ofExcept
  out line := tell [.out line]
  err line := tell [.err line]
  withLines := withLines

end Logged

/-! ## Computations under a recorder -/

/-- A computation under a recorder: what it comes to, and the recorder after it.
The log holds what is seen of it from outside: its lines, and those of its tags
that are echoed on the error stream. -/
def Live (α : Type) : Type :=
  Recorder → Logged Event α × Recorder

namespace Live

variable {α β : Type}

/-- One computation after another, under the recorder that the first one leaves. -/
def andThen (first : Live α) (second : α → Live β) : Live β := fun r =>
  let ran := first r
  match ran.1.result with
  | .ok a =>
    let rest := second a ran.2
    (⟨rest.1.result, ran.1.log ++ rest.1.log⟩, rest.2)
  | .error fault => (⟨.error fault, ran.1.log⟩, ran.2)

instance : Showing Live where
  pure a := fun r => (pure a, r)
  bind := andThen
  emit tag := fun r => (.tell (if r.echoes then [.tag tag] else []), r.emit tag)
  ofExcept result := fun r => (.ofExcept result, r)
  out line := fun r => (.tell [.out line], r)
  err line := fun r => (.tell [.err line], r)
  withLines x := fun r => ((x r).1.withLines, (x r).2)

end Live

end LoopRepair
