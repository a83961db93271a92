import LoopRepair.Command

/-!
# Arguments

The arguments of a call are sorted in two rounds. The first one knows no option
but only what looks like one: everything before the first such argument is an
operand, and it and all that follows is left for later. The second round belongs
to the command that the first operand names. It takes its own switches wherever
they stand, and other arguments as operands, until an option it does not know;
from there on all that is not its own switch is unknown.

Two dashes end both rounds: what follows are operands, or unknown if an unknown
option came before.
-/

namespace LoopRepair.CommandLine

/-! ## Words -/

/-- The commands. -/
inductive Verb where
  | repair
  | loop
deriving DecidableEq, Repr

/-- The switches. -/
inductive Switch where
  | json
  | strict
deriving DecidableEq, Repr

/-- The word for a command. -/
def Verb.name : Verb → String
  | repair => "repair"
  | loop => "loop"

/-- The command of a word. -/
def Verb.ofName? (word : String) : Option Verb :=
  if word = "repair" then some .repair
  else if word = "loop" then some .loop
  else none

/-- A switch as it is given. -/
def Switch.flag : Switch → String
  | json => "--json"
  | strict => "--strict"

/-- The switches of a command, in the order in which they are shown. -/
def Verb.switches : Verb → List Switch
  | repair => [.json, .strict]
  | loop => [.strict]

/-- The switch of a command that an argument gives. Only the exact spelling
counts. -/
def Verb.switch? (verb : Verb) (arg : String) : Option Switch :=
  verb.switches.find? fun switch => switch.flag = arg

/-- Whether an argument looks like an option: a dash with something after it. -/
def isOption (arg : String) : Bool :=
  match arg.toList with
  | '-' :: _ :: _ => true
  | _ => false

/-- Whether an argument asks for help. -/
def isHelpFlag (arg : String) : Bool :=
  arg = "-h" || arg = "--help"

/-! ## The two rounds -/

/-- The first round: the operands, and what is left. -/
structure Split where
  operands : List String
  rest : List String
deriving DecidableEq, Repr

/-- Sorts the arguments of a call. -/
def split : List String → Split
  | [] => ⟨[], []⟩
  | arg :: args =>
    if arg = "--" then ⟨args, []⟩
    else if isOption arg then ⟨[], arg :: args⟩
    else ⟨arg :: (split args).operands, (split args).rest⟩

/-- The second round: the switches given, the operands, and what is unknown. -/
structure Scan where
  switches : List Switch
  operands : List String
  unknown : List String
deriving DecidableEq, Repr

/-- Sorts what the first round left for a command. `strayed` says that an
unknown option came before. -/
def scan (verb : Verb) (strayed : Bool) : List String → Scan
  | [] => ⟨[], [], []⟩
  | arg :: args =>
    if arg = "--" then
      if strayed then ⟨[], [], arg :: args⟩ else ⟨[], args, []⟩
    else
      match verb.switch? arg with
      | some switch =>
        let rest := scan verb strayed args
        { rest with switches := switch :: rest.switches }
      | none =>
        if strayed || isOption arg then
          let rest := scan verb true args
          { rest with unknown := arg :: rest.unknown }
        else
          let rest := scan verb strayed args
          { rest with operands := arg :: rest.operands }

/-! ## Calls -/

/-- A command that is to be run: the switches given, and the file if named. -/
structure Order where
  verb : Verb
  switches : List Switch
  file : Option String
deriving DecidableEq, Repr

/-- What a call asks for. -/
inductive Call where
  /-- Run a command. -/
  | order (order : Order)
  /-- Show the help of a command, or that of the whole program. -/
  | help (topic : Option Verb)
  /-- Nothing that makes sense: show how the program is used. -/
  | usage
  /-- The first operand names no command. -/
  | unknownCommand (word : String)
  /-- An option that the command, or the program itself, does not have. -/
  | unknownOption (verb : Option Verb) (option : String)
deriving DecidableEq, Repr

/-- What the arguments of a command ask for. -/
def callOfVerb (verb : Verb) (operands rest : List String) : Call :=
  let scanned := scan verb false rest
  if scanned.unknown.any isHelpFlag then .help (some verb)
  else
    match scanned.unknown with
    | option :: _ => .unknownOption (some verb) option
    | [] => .order ⟨verb, scanned.switches, (operands ++ scanned.operands).head?⟩

/-- What a call for help asks for. An empty topic is no topic. -/
def callOfHelp : List String → Call
  | [] => .help none
  | topic :: _ =>
    if topic = "" then .help none
    else
      match Verb.ofName? topic with
      | some verb => .help (some verb)
      | none => .usage

/-- What a call without a command asks for. -/
def callOfOther (operands rest : List String) : Call :=
  if rest.any isHelpFlag then .help none
  else
    match operands, rest with
    | word :: _, _ => .unknownCommand word
    | [], option :: _ => .unknownOption none option
    | [], [] => .usage

/-- What a call asks for. -/
def Call.ofArguments (args : List String) : Call :=
  let parts := split args
  match parts.operands with
  | [] => callOfOther [] parts.rest
  | word :: operands =>
    match Verb.ofName? word with
    | some verb => callOfVerb verb operands parts.rest
    | none =>
      if word = "help" then callOfHelp operands
      else callOfOther (word :: operands) parts.rest

end LoopRepair.CommandLine
