import LoopRepair.CommandLine.Arguments
import LoopRepair.CommandLine.Suggestion

/-!
# Help and usage errors

The texts that the command line shows without running anything, line by line.
-/

namespace LoopRepair.CommandLine

/-- The help of the whole program. -/
def programHelp : List String :=
  ["Usage: bootfix [options] [command]",
    "",
    "Run a three-opcode program and repair its infinite loop",
    "",
    "Options:",
    "  -h, --help               display help for command",
    "",
    "Commands:",
    "  repair [options] [file]",
    "  loop [options] [file]",
    "  help [command]           display help for command"]

/-- The line of a switch in the help of a command. -/
def Switch.help : Switch → String
  | json => "  --json      Print the repair report as JSON"
  | strict => "  --strict    Fail instead of warning on lines that do not parse cleanly"

/-- The help of a command. -/
def Verb.help (verb : Verb) : List String :=
  ["Usage: bootfix " ++ verb.name ++ " [options] [file]",
    "",
    "Arguments:",
    "  file        Program file (defaults to $BOOTFIX_PROGRAM or instructions.txt)",
    "",
    "Options:"]
    ++ verb.switches.map Switch.help
    ++ ["  -h, --help  display help for command"]

/-- The help on a topic. -/
def helpOn : Option Verb → List String
  | none => programHelp
  | some verb => verb.help

/-- The options that may be meant where a command, or the program itself, was
given one that it does not have. -/
def knownOptions : Option Verb → List String
  | none => ["--help"]
  | some verb => verb.switches.map Switch.flag ++ ["--help"]

/-- The words that may be meant where a command was expected. -/
def knownCommands : List String := ["repair", "loop", "help"]

/-- The words to suggest for an unknown option. One that does not start with two
dashes is not compared with anything. -/
def optionSuggestions (verb : Option Verb) (option : String) : List String :=
  match option.toList with
  | '-' :: '-' :: _ => Suggestion.suggest option (knownOptions verb)
  | _ => []

/-- An error in the use of the program, with the suggestions that go with it. -/
def usageError (what word : String) (suggestions : List String) : List String :=
  ("error: unknown " ++ what ++ " '" ++ word ++ "'") :: (Suggestion.line? suggestions).toList

end LoopRepair.CommandLine
