import LoopRepair.Environment
import LoopRepair.Trace.Tag

/-!
# The trace recorder

The recorder decides what becomes of a tag. Two flags rule it, both taken from
the environment at the first read and kept until a reset, whatever happens to
the environment in between. A tag emitted while tracing is on goes to the
innermost open log, if any, and is echoed on the error stream if the second flag
is on. The second flag is not even read while tracing is off.

A log opened while tracing is off is no log: what is emitted inside it goes to
the one around it.
-/

namespace LoopRepair

/-! ## Flags -/

/-- The flags of the recorder. -/
inductive Flag where
  /-- Tags are recorded at all. -/
  | trace
  /-- Recorded tags are echoed on the error stream. -/
  | stderr
deriving DecidableEq, Repr

/-- The environment, the flags as far as they have been read, and the open logs,
the innermost one first. -/
structure Recorder where
  env : Environment
  trace : Option Bool
  stderr : Option Bool
  logs : List (List Tag)
deriving DecidableEq, Repr

namespace Recorder

/-- A recorder that has read nothing and has no log open. -/
def ofEnvironment (env : Environment) : Recorder :=
  ⟨env, none, none, []⟩

/-- What a read of a flag gives: its value at the first read, or else the truth
of its variable now. -/
def isOn (r : Recorder) : Flag → Bool
  | .trace => r.trace.getD (isTruth r.env.trace)
  | .stderr => r.stderr.getD (isTruth r.env.traceStderr)

/-- The recorder after a read of a flag. -/
def latch (r : Recorder) (flag : Flag) : Recorder :=
  match flag with
  | .trace => { r with trace := some (r.isOn .trace) }
  | .stderr => { r with stderr := some (r.isOn .stderr) }

@[simp] theorem isOn_latch (r : Recorder) (flag other : Flag) :
    (r.latch flag).isOn other = r.isOn other := by
  cases flag <;> cases other <;> rfl

/-- Forgets what was read of both flags. -/
def reset (r : Recorder) : Recorder :=
  { r with trace := none, stderr := none }

/-- Changes the environment, and no flag that was read. -/
def setVariable (r : Recorder) (name : Variable) (value : Option String) : Recorder :=
  { r with env := r.env.set name value }

/-! ## Emission and logs -/

/-- Adds a tag to the innermost open log. -/
def append (r : Recorder) (tag : Tag) : Recorder :=
  match r.logs with
  | [] => r
  | log :: outer => { r with logs := (log ++ [tag]) :: outer }

/-- The recorder after the emission of a tag. -/
def emit (r : Recorder) (tag : Tag) : Recorder :=
  if r.isOn .trace then ((r.latch .trace).latch .stderr).append tag else r.latch .trace

/-- What was read of a flag, or what a read would give, survives an emission. -/
@[simp] theorem isOn_emit (r : Recorder) (tag : Tag) (flag : Flag) :
    (r.emit tag).isOn flag = r.isOn flag := by
  unfold emit append
  split
  · split <;> cases flag <;> rfl
  · exact r.isOn_latch .trace flag

/-- Whether a tag emitted now is echoed on the error stream. -/
def echoes (r : Recorder) : Bool :=
  r.isOn .trace && r.isOn .stderr

/-- The recorder after the emission of tags in order. -/
def emitAll (r : Recorder) (tags : List Tag) : Recorder :=
  tags.foldl emit r

/-- The tags among those emitted in order that are echoed on the error stream. -/
def echo (r : Recorder) : List Tag → List Tag
  | [] => []
  | tag :: tags =>
    if r.echoes then tag :: (r.emit tag).echo tags else (r.emit tag).echo tags

/-- Opens a log inside the innermost one. -/
def openLog (r : Recorder) : Recorder :=
  { r with logs := [] :: r.logs }

/-- Closes the innermost log. -/
def closeLog (r : Recorder) : Recorder :=
  { r with logs := r.logs.tail }

/-- The tags of the innermost log. -/
def innermost (r : Recorder) : List Tag :=
  r.logs.headD []

/-- Runs something inside a log of its own and returns the tags of that log. If
tracing is off there is no log and there are no tags. -/
def withLog {β : Type} (r : Recorder) (body : Recorder → β × Recorder) :
    (β × List Tag) × Recorder :=
  if r.isOn .trace then
    let ran := body (r.latch .trace).openLog
    ((ran.1, ran.2.innermost), ran.2.closeLog)
  else
    let ran := body (r.latch .trace)
    ((ran.1, []), ran.2)

end Recorder

end LoopRepair
