import LoopRepair.Failure

/-!
# Commands on files

Two commands work on the file of a program. `repairFile` repairs it and prints
the accumulator; `loopFile` prints the cycle it runs into, or the accumulator if
it halts. Both first load the file: a doubtful line is a warning, or in strict
mode a failure of the whole.

A command ends with an exit code, 0 for success.
-/

namespace LoopRepair

/-! ## Loading -/

/-- How a program is repaired. -/
structure RepairOptions where
  /-- A doubtful line is a failure. -/
  strict : Bool
  /-- The report is printed as JSON. -/
  json : Bool
deriving DecidableEq, Repr

/-- The text of a file, or a failure. -/
def readText (source : Source) (path : String) : Except Failure String :=
  match source.text path with
  | .ok text => .ok text
  | .error error => .error (.unreadable path error)

/-- Loads the program of a file. In strict mode a doubtful listing is a failure;
otherwise its warnings are shown. -/
def Showing.loadFile {m : Type → Type} [Showing m] (source : Source) (path : String)
    (strict : Bool) : m (Except Failure Program) :=
  match readText source path with
  | .error failure => pure (.error failure)
  | .ok text => do
    let listing ← Tracing.read text
    if strict && !listing.warnings.isEmpty then
      pure (.error (.doubtful path listing.warnings))
    else do
      errAll (listing.warnings.map Warning.message)
      pure (.ok listing.program)

/-! ## The two commands -/

/-- The line that reports a repair. -/
def repairLine (prog : Program) (json : Bool) (report : RepairReport) : String :=
  if json then report.toJson.line
  else
    "accumulator: " ++ Decimal.write report.acc ++
      match report.swappedAt with
      | none => ""
      | some pos =>
        " (swapped " ++ ((prog[pos]?.map Instr.text).getD "") ++ " at " ++ Decimal.write pos ++ ")"

/-- The line that reports a cycle. -/
def loopLine (loop : LoopReport) : String :=
  "loop at " ++ Decimal.write loop.entry ++ " with accumulator " ++ Decimal.write loop.acc
    ++ " (path " ++ " -> ".intercalate (loop.path.map fun pos : Nat => Decimal.write pos) ++ ")"

namespace Showing

variable {m : Type → Type} [Showing m]

/-- Tells the user of a failure. -/
def fail (failure : Failure) : m Nat := do
  err failure.message
  pure 1

/-- Repairs the program of a file. -/
def repairFile (source : Source) (path : String) (options : RepairOptions) : m Nat := do
  match ← loadFile source path options.strict with
  | .error failure => fail failure
  | .ok prog =>
    match ← Tracing.repair prog with
    | .error trouble => fail (.noRepair trouble)
    | .ok report => do
      out (repairLine prog options.json report)
      pure 0

/-- Shows the cycle that the program of a file runs into. A program that halts
is run once more for its accumulator. -/
def loopFile (source : Source) (path : String) (strict : Bool) : m Nat := do
  match ← loadFile source path strict with
  | .error failure => fail failure
  | .ok prog =>
    match ← Tracing.firstLoop prog with
    | none => do
      let again ← Tracing.execute prog none
      out ("terminated with accumulator " ++ Decimal.write again.acc)
      pure 0
    | some loop => do
      out (loopLine loop)
      pure 0

end Showing

/-! ## With a log of events -/

/-- Loads the program of a file, with all events in the log. -/
def loadFile (source : Source) (path : String) (strict : Bool) :
    Logged Event (Except Failure Program) :=
  Showing.loadFile source path strict

/-- Tells the user of a failure, in the log. -/
def fail (failure : Failure) : Logged Event Nat :=
  Showing.fail failure

/-- Repairs the program of a file, with all events in the log. -/
def repairFile (source : Source) (path : String) (options : RepairOptions) : Logged Event Nat :=
  Showing.repairFile source path options

/-- Shows the cycle of the program of a file, with all events in the log. -/
def loopFile (source : Source) (path : String) (strict : Bool) : Logged Event Nat :=
  Showing.loopFile source path strict

end LoopRepair
