import LoopRepair.Instr
import LoopRepair.Json

/-!
# Trace tags

A tag records one thing that happened: a run that ended, a candidate that was
tried, a repair that was found, a doubtful line that was read. A caller may also
note an entry of its own, a flat record whose fields keep the order in which
they were given. On the error stream a tag is one JSON line with the time at
which it was written.
-/

namespace LoopRepair

/-- How a run ended, as tags and reports name it. -/
inductive Status where
  | terminated
  | looped
deriving DecidableEq, Repr

/-- The word for a status. -/
def Status.name : Status → String
  | terminated => "terminated"
  | looped => "looped"

/-- The value of a field in a noted entry. -/
inductive Scalar where
  | null
  | bool (b : Bool)
  | int (n : Int)
  | big (n : Int)
  | str (s : String)
deriving DecidableEq, Repr

/-- The value of a field as JSON. -/
def Scalar.toJson : Scalar → Json
  | null => .null
  | bool b => .bool b
  | int n => .int n
  | big n => .big n
  | str s => .str s

/-- One entry of a trace. -/
inductive Tag where
  /-- A run was about to visit `entry` again. -/
  | loop (entry acc : Int) (swap : Option Int)
  /-- A run left the program. -/
  | halt (acc : Int) (swap : Option Int)
  /-- The swap at `pos`, which holds `op`, was tried. -/
  | candidate (pos : Int) (op : Opcode) (status : Status)
  /-- The program halts, with the swap at `pos` or without any. -/
  | repair (pos : Option Int) (acc : Int)
  /-- A line of the listing left a warning. -/
  | warning (code : String) (line : Int)
  /-- A caller noted something. -/
  | noted (fields : List (String × Scalar))
deriving DecidableEq, Repr

namespace Tag

/-- A tag as a JSON object. The kind comes first, except in a noted entry, which
has the fields it was given. -/
def toJson : Tag → Json
  | loop entry acc swap =>
    .obj [("kind", .str "Loop"), ("at", .int entry), ("acc", .big acc),
      ("swapAt", .ofPosition? swap)]
  | halt acc swap =>
    .obj [("kind", .str "Halt"), ("acc", .big acc), ("swapAt", .ofPosition? swap)]
  | candidate pos op status =>
    .obj [("kind", .str "Candidate"), ("at", .int pos), ("op", .str op.name),
      ("outcome", .str status.name)]
  | repair pos acc =>
    .obj [("kind", .str "Repair"), ("at", .ofPosition? pos), ("acc", .big acc)]
  | warning code line =>
    .obj [("kind", .str "Warning"), ("code", .str code), ("line", .int line)]
  | noted fields => .obj (fields.map fun field => (field.1, field.2.toJson))

/-- The record of a tag on the error stream, without its line end. -/
def record (time : Int) (tag : Tag) : String :=
  (Json.obj [("ts", .int time), ("tag", tag.toJson)]).line

end Tag

end LoopRepair
