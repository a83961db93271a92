import LoopRepair.Request
import LoopRepair.Trace.Recorder

/-!
# Sessions

A session is a list of steps under one recorder. A step performs a request,
emits a tag, touches the environment or the flags, or runs further steps inside
a log. Every step has an answer and a list of the tags it echoed on the error
stream; a step that contains steps echoes nothing itself, its parts do.

A fault is the answer of the step that caused it, and the session goes on. Only
a log that lets faults escape ends at the first one among its own steps and has
that fault for its answer.

Steps whose answer needs neither the recorder nor the files carry that answer
with them; its type `δ` is the caller's choice.
-/

namespace LoopRepair

/-- One step of a session. -/
inductive Step (δ : Type) where
  | given (answer : δ)
  | request (request : Request)
  | emit (tag : Tag)
  | setVariable (name : Variable) (value : Option String)
  | reset
  | readFlag (flag : Flag)
  | programPath
  /-- Further steps inside a log of their own. -/
  | withLog (escape : Bool) (steps : List (Step δ))
  /-- Several lists of steps, each inside a log of its own. -/
  | parallel (branches : List (List (Step δ)))

/-- The answer of a step. A list of answers pairs each with the tags echoed. -/
inductive Answer (δ : Type) where
  | given (answer : δ)
  | fault (fault : Fault)
  | reply (reply : Reply)
  | done
  | variable (value : Option String)
  | flag (value : Bool)
  | path (path : String)
  | logged (entries : List (Answer δ × List Tag)) (tags : List Tag)
  | parallel (branches : List (List (Answer δ × List Tag) × List Tag))

/-- The fault that an answer reports, if it does. -/
def Answer.fault? {δ : Type} : Answer δ → Option Fault
  | fault f => some f
  | _ => none

/-- The answer to a request, by how it ended. -/
def Answer.ofResult {δ : Type} : Except Fault Reply → Answer δ
  | .ok answer => .reply answer
  | .error error => .fault error

namespace Session

variable {δ : Type}

/-- Performs a request under a recorder. -/
def performRequest (source : Source) (shared : Program) (request : Request) (r : Recorder) :
    (Answer δ × List Tag) × Recorder :=
  let perform : Live Reply := Showing.perform source shared request
  let ran := perform r
  ((.ofResult ran.1.result, ran.1.log.filterMap Event.tag?), ran.2)

/-- What a list of steps comes to: the entries of the steps that ran to their
end, and the fault that escaped and cut the list short, if any. -/
structure Entries (δ : Type) where
  entries : List (Answer δ × List Tag)
  escaped : Option Fault

/-- The answer of a log: its entries and tags, or the fault that escaped it. -/
def logAnswer (ran : Entries δ × List Tag) : Answer δ :=
  match ran.1.escaped with
  | none => .logged ran.1.entries ran.2
  | some fault => .fault fault

mutual

/-- Runs one step. -/
def runStep (source : Source) (shared : Program) :
    Step δ → Recorder → (Answer δ × List Tag) × Recorder
  | .given answer, r => ((.given answer, []), r)
  | .request request, r => performRequest source shared request r
  | .emit tag, r => ((.done, r.echo [tag]), r.emit tag)
  | .setVariable name value, r => ((.variable value, []), r.setVariable name value)
  | .reset, r => ((.done, []), r.reset)
  | .readFlag flag, r => ((.flag (r.isOn flag), []), r.latch flag)
  | .programPath, r => ((.path r.env.programPath, []), r)
  | .withLog escape steps, r =>
    let ran := r.withLog fun r => runSteps source shared escape steps r
    ((logAnswer ran.1, []), ran.2)
  | .parallel branches, r =>
    let ran := runBranches source shared branches r
    ((.parallel ran.1, []), ran.2)

/-- Runs steps in order. If faults escape, the first one ends the list. -/
def runSteps (source : Source) (shared : Program) (escape : Bool) :
    List (Step δ) → Recorder → Entries δ × Recorder
  | [], r => (⟨[], none⟩, r)
  | step :: steps, r =>
    let ran := runStep source shared step r
    match (if escape then ran.1.1.fault? else none) with
    | some fault => (⟨[], some fault⟩, ran.2)
    | none =>
      let rest := runSteps source shared escape steps ran.2
      (⟨ran.1 :: rest.1.entries, rest.1.escaped⟩, rest.2)

/-- Runs branches one after another, each inside a log of its own. No fault
escapes a branch. -/
def runBranches (source : Source) (shared : Program) :
    List (List (Step δ)) → Recorder →
      List (List (Answer δ × List Tag) × List Tag) × Recorder
  | [], r => ([], r)
  | steps :: branches, r =>
    let ran := r.withLog fun r => runSteps source shared false steps r
    let rest := runBranches source shared branches ran.2
    ((ran.1.1.entries, ran.1.2) :: rest.1, rest.2)

end

/-- The recorder at the first step of a session. No variable is set, but the
program at hand has been got under this recorder: if its listing left a warning,
the trace flag has been read. -/
def start (program : ProgramSource) : Recorder :=
  let get : Live Program := program.get []
  (get (.ofEnvironment .empty)).2

/-- Runs a session with a program at hand. -/
def run (source : Source) (program : ProgramSource) (steps : List (Step δ)) :
    List (Answer δ × List Tag) :=
  (runSteps source (program.program []) false steps (start program)).1.entries

end Session

end LoopRepair
