import LoopRepair.Listing
import LoopRepair.Repair
import LoopRepair.Source

/-!
# Failures

A command that cannot do its work reports a failure: a code, an explanation, and
details for whoever wants to look further. The code and the explanation are what
the user sees.
-/

namespace LoopRepair

/-- A failure as it is reported, with details of any kind or without any. -/
structure FailureReport (δ : Type) where
  code : String
  explain : String
  details : Option δ

/-- The text of a failure. -/
def FailureReport.text {δ : Type} (report : FailureReport δ) : String :=
  report.code ++ ": " ++ report.explain

/-- The text of a result: the failure, or a plain word of success. -/
def resultText {δ α : Type} : Except (FailureReport δ) α → String
  | .ok _ => "ok"
  | .error report => report.text

/-- Why a command cannot do its work. -/
inductive Failure where
  /-- The file cannot be read. -/
  | unreadable (path : String) (error : ReadError)
  /-- The listing is doubtful, and doubts were to count as errors. -/
  | doubtful (path : String) (warnings : List Warning)
  /-- The program loops, and no swap on its cycle helps. -/
  | noRepair (trouble : NoRepair)

namespace Failure

/-- The code by which a failure is known. -/
def code : Failure → String
  | unreadable .. => "E_INPUT_UNREADABLE"
  | doubtful .. => "E_PARSE_WARNINGS"
  | noRepair _ => "E_NO_REPAIR"

/-- What went wrong, in words. -/
def explain : Failure → String
  | unreadable path _ => "cannot read program from " ++ path
  | doubtful path warnings =>
    Decimal.write warnings.length ++ " line(s) of " ++ path ++ " did not parse cleanly"
  | noRepair trouble =>
    "no single JMP/NOP swap on the loop at position " ++ Decimal.write trouble.loop.entry
      ++ " lets the program terminate"

/-- What else is known. -/
def details : Failure → Json
  | unreadable path error => .obj [("reason", .str (error.reason path))]
  | doubtful _ warnings => .obj [("warnings", .arr (warnings.map Warning.toJson))]
  | noRepair trouble =>
    .obj [("loop", trouble.loop.toJson), ("candidates", .ofPositions trouble.candidates)]

/-- The failure as it is reported. -/
def report (failure : Failure) : FailureReport Json :=
  ⟨failure.code, failure.explain, some failure.details⟩

/-- The line that tells the user of a failure. -/
def message (failure : Failure) : String :=
  "error: " ++ failure.report.text

end Failure

end LoopRepair
