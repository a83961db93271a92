import LoopRepair.Trace.Tag

/-!
# Events

What a command does is the list of its events, in order: lines for the user on
either stream, and trace tags.
-/

namespace LoopRepair

/-- One thing that a command does. -/
inductive Event where
  /-- A line on the output stream. -/
  | out (line : String)
  /-- A line on the error stream. -/
  | err (line : String)
  /-- A trace tag. -/
  | tag (tag : Tag)
deriving DecidableEq, Repr

namespace Event

/-- The trace tag of an event, if it is one. -/
def tag? : Event → Option Tag
  | tag t => some t
  | _ => none

/-- Whether an event is a line for the user. -/
def isLine : Event → Bool
  | tag _ => false
  | _ => true

/-- What an event writes on the output stream. -/
def outText : Event → String
  | out line => line ++ "\n"
  | _ => ""

/-- What an event writes on the error stream at a given time. -/
def errText (time : Int) : Event → String
  | err line => line ++ "\n"
  | tag t => t.record time ++ "\n"
  | _ => ""

end Event

end LoopRepair
