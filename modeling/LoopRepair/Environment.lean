import LoopRepair.Text.Blank

/-!
# The environment

Three variables steer the program: whether tracing is on, whether traces go to
the error stream as well, and which file to use when none is named.
-/

namespace LoopRepair

/-- The variables the program looks at. -/
inductive Variable where
  | trace
  | traceStderr
  | program
deriving DecidableEq, Repr

/-- The name of a variable in the environment. -/
def Variable.name : Variable → String
  | trace => "BOOTFIX_TRACE"
  | traceStderr => "BOOTFIX_TRACE_STDERR"
  | program => "BOOTFIX_PROGRAM"

/-- The values of the variables; a variable may be unset. -/
structure Environment where
  trace : Option String
  traceStderr : Option String
  program : Option String
deriving DecidableEq, Repr

/-- Whether the value of a variable switches something on: it is `1`, or `true`
in upper or lower case. -/
def isTruth : Option String → Bool
  | none => false
  | some value => value.toLower = "1" || value.toLower = "true"

/-- The file that is used if neither the user nor the environment names one. -/
def defaultProgramPath : String := "instructions.txt"

namespace Environment

/-- The environment in which no variable is set. -/
def empty : Environment := ⟨none, none, none⟩

/-- The value of a variable. -/
def get (env : Environment) : Variable → Option String
  | .trace => env.trace
  | .traceStderr => env.traceStderr
  | .program => env.program

/-- The environment with a variable set to a value, or unset. -/
def set (env : Environment) (name : Variable) (value : Option String) : Environment :=
  match name with
  | .trace => { env with trace := value }
  | .traceStderr => { env with traceStderr := value }
  | .program => { env with program := value }

/-- The file to use if the user names none. A blank value counts as unset. -/
def programPath (env : Environment) : String :=
  match env.program with
  | none => defaultProgramPath
  | some value => if Text.trim value.toList = [] then defaultProgramPath else value

end Environment

end LoopRepair
