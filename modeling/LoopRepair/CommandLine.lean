import LoopRepair.CommandLine.Help
import LoopRepair.Trace.Recorder

/-!
# The command line

A call of the program: its arguments, the environment, and a source of files go
in; events and an exit code come out. Help and usage errors need nothing but the
arguments. A command that is run reads one file, the first operand or else the
one the environment names.

Trace tags of a call have no log to go to. They are seen only if both trace
flags are on, as records on the error stream.
-/

namespace LoopRepair

namespace CommandLine

/-- The end of a call: its exit code, and the events that were seen. -/
structure Exit where
  code : Nat
  events : List Event
deriving DecidableEq, Repr

namespace Exit

/-- All that was written on the output stream. -/
def stdout (exit : Exit) : String :=
  String.join (exit.events.map Event.outText)

/-- All that was written on the error stream, with every trace record at one
time. -/
def stderr (exit : Exit) (time : Int) : String :=
  String.join (exit.events.map (Event.errText time))

end Exit

namespace Order

/-- The file that an order works on. -/
def path (order : Order) (env : Environment) : String :=
  order.file.getD env.programPath

/-- The command of an order. -/
def work {m : Type → Type} [Showing m] (order : Order) (env : Environment) (source : Source) :
    m Nat :=
  match order.verb with
  | .repair =>
    Showing.repairFile source (order.path env)
      ⟨order.switches.contains .strict, order.switches.contains .json⟩
  | .loop => Showing.loopFile source (order.path env) (order.switches.contains .strict)

/-- Runs the command of an order, with all events in the log. -/
def run (order : Order) (env : Environment) (source : Source) : Logged Event Nat :=
  order.work env source

/-- Runs the command of an order under the trace flags of the environment. A
fault would be shown like an error. -/
def exit (order : Order) (env : Environment) (source : Source) : Exit :=
  let work : Live Nat := order.work env source
  let ran := (work (.ofEnvironment env)).1
  match ran.result with
  | .ok code => ⟨code, ran.log⟩
  | .error fault => ⟨1, ran.log ++ [.err fault.message]⟩

end Order

/-- The path of the file that a call reads, if it reads one. -/
def Call.path? (env : Environment) : Call → Option String
  | order o => some (o.path env)
  | _ => none

/-- Carries out a call. -/
def Call.exit (env : Environment) (source : Source) : Call → Exit
  | order o => o.exit env source
  | help topic => ⟨0, (helpOn topic).map .out⟩
  | usage => ⟨1, programHelp.map .err⟩
  | unknownCommand word =>
    ⟨1, (usageError "command" word (Suggestion.suggest word knownCommands)).map .err⟩
  | unknownOption verb option =>
    ⟨1, (usageError "option" option (optionSuggestions verb option)).map .err⟩

/-- The whole program: carries out the call that the arguments make. -/
def run (args : List String) (env : Environment) (source : Source) : Exit :=
  (Call.ofArguments args).exit env source

end CommandLine

end LoopRepair
