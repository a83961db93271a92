import LoopRepair.CommandLine
import Std.Time.DateTime.Timestamp

/-!
# The executable

The outer layer of the command line. It looks up the environment, reads the one
file that the call names, if any, and writes the events of the call in order.
What the call does is decided by `LoopRepair.CommandLine`.
-/

namespace LoopRepair.CommandLine

/-- The environment of the process. -/
def processEnvironment : IO Environment := do
  let trace ← IO.getEnv Variable.trace.name
  let traceStderr ← IO.getEnv Variable.traceStderr.name
  let program ← IO.getEnv Variable.program.name
  return ⟨trace, traceStderr, program⟩

/-- The number by which the system reports that a path leads to a directory. -/
def directoryErrno : UInt32 := 21

/-- Why the system could not read a file. -/
def readErrorOf : IO.Error → ReadError
  | .noFileOrDirectory .. => .missing
  | .inappropriateType _ errno _ =>
    if errno = directoryErrno then .isDirectory else .notDirectory
  | error => .other (toString error)

/-- The bytes of a file of the system. -/
def readBytes (path : String) : IO (Except ReadError (List UInt8)) := do
  if path.toList.any (·.toNat = 0) then return .error .zeroCharacter
  try
    let bytes ← IO.FS.readBinFile path
    return .ok bytes.toList
  catch error => return .error (readErrorOf error)

/-- Writes an event on the stream it belongs to. -/
def writeEvent (event : Event) : IO Unit := do
  let now ← Std.Time.Timestamp.now
  IO.print event.outText
  IO.eprint (event.errText now.toMillisecondsSinceUnixEpoch.val)

/-- Carries out a call in the process. -/
def runProcess (args : List String) : IO UInt32 := do
  let env ← processEnvironment
  let call := Call.ofArguments args
  let bytes ←
    match call.path? env with
    | some path => readBytes path
    | none => pure (.error .missing)
  let exit := call.exit env fun _ => bytes
  exit.events.forM writeEvent
  return exit.code.toUInt32

end LoopRepair.CommandLine

def main (args : List String) : IO UInt32 :=
  LoopRepair.CommandLine.runProcess args
