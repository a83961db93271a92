import LoopRepair.Command

/-!
# Requests

Every service of the library as a request and its reply. A request is performed
on a source of files and a program kept at hand.
-/

namespace LoopRepair

/-- Where the program of a request comes from. -/
inductive ProgramSource where
  /-- It is read from a listing. -/
  | text (listing : String)
  /-- It is given as it is. -/
  | listed (program : Program)
  /-- It is the program kept at hand. -/
  | shared
deriving DecidableEq, Repr

/-- What can be asked for. -/
inductive Request where
  | parse (text : String)
  | execute (program : ProgramSource) (swap : Swap)
  | firstLoop (program : ProgramSource)
  | repair (program : ProgramSource)
  | extractLoop (moves : List (Int × Int)) (start : Int)
  | readText (path : String)
  | loadFile (path : String) (strict : Bool)
  | repairFile (path : String) (options : RepairOptions)
  | loopFile (path : String) (strict : Bool)
deriving DecidableEq, Repr

/-- What a request is answered by. Commands on files reply with their lines as
well as with their result. -/
inductive Reply where
  | listing (listing : Listing)
  | outcome (outcome : Outcome)
  | firstLoop (loop : Option LoopReport)
  | repair (result : Except NoRepair RepairReport)
  | path (positions : List Int)
  | text (result : Except Failure String)
  | loaded (result : Except Failure Program) (lines : List Event)
  | exited (code : Nat) (lines : List Event)

namespace ProgramSource

/-- The program that a source gives. -/
def program (shared : Program) : ProgramSource → Program
  | text listing => (Listing.read listing).program
  | listed program => program
  | .shared => shared

/-- The tags that getting the program leaves: those of the warnings, if it is
read from a listing. -/
def tags : ProgramSource → List Tag
  | text listing => (Listing.read listing).tags
  | listed _ => []
  | .shared => []

/-- Gets the program of a request. -/
def get {m : Type → Type} [Tracing m] (shared : Program) : ProgramSource → m Program
  | text listing => do
    let listing ← Tracing.read listing
    pure listing.program
  | listed program => pure program
  | .shared => pure shared

end ProgramSource

/-- Performs a request. -/
def Showing.perform {m : Type → Type} [Showing m] (source : Source) (shared : Program) :
    Request → m Reply
  | .parse text => do
    let listing ← Tracing.read text
    pure (.listing listing)
  | .execute program swap => do
    let prog ← program.get shared
    let out ← Tracing.execute prog swap
    pure (.outcome out)
  | .firstLoop program => do
    let prog ← program.get shared
    let loop ← Tracing.firstLoop prog
    pure (.firstLoop loop)
  | .repair program => do
    let prog ← program.get shared
    let result ← Tracing.repair prog
    pure (.repair result)
  | .extractLoop moves start =>
    match Cycle.walk moves start with
    | .ok positions => pure (.path positions)
    | .error error => Tracing.ofExcept (.error (.walk error))
  | .readText path => pure (.text (readText source path))
  | .loadFile path strict => do
    let (result, lines) ← withLines (loadFile source path strict)
    pure (.loaded result lines)
  | .repairFile path options => do
    let (code, lines) ← withLines (repairFile source path options)
    pure (.exited code lines)
  | .loopFile path strict => do
    let (code, lines) ← withLines (loopFile source path strict)
    pure (.exited code lines)

/-- Performs a request, with all events in the log. -/
def Request.perform (source : Source) (shared : Program) (request : Request) :
    Logged Event Reply :=
  Showing.perform source shared request

end LoopRepair
