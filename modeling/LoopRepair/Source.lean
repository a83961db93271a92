import LoopRepair.Text.Utf8

/-!
# Source files

A source gives the bytes of a file for a path, or a reason why there are none.
The commands of this library take a source as an argument. `Folder` is a source
kept in memory: directories and files by their paths from one place.

Inside a folder, a path is followed component by component. An empty component
and a single dot stay where they are, which only a directory allows.
-/

namespace LoopRepair

/-! ## Sources -/

/-- Why a path cannot be read. -/
inductive ReadError where
  /-- Nothing has this path. -/
  | missing
  /-- The path leads through a file. -/
  | notDirectory
  /-- The path leads to a directory. -/
  | isDirectory
  /-- The path holds a zero character, which no file name does. -/
  | zeroCharacter
  /-- Something else is wrong, told in the words of the system. -/
  | other (reason : String)
deriving DecidableEq, Repr

/-- A path with each zero character spelled out. -/
def showPath (path : String) : String :=
  String.ofList (path.toList.flatMap fun c => if c.toNat = 0 then "\\x00".toList else [c])

/-- The reason for an error, in the words of the file system. -/
def ReadError.reason (path : String) : ReadError → String
  | missing => "ENOENT: no such file or directory, open '" ++ path ++ "'"
  | notDirectory => "ENOTDIR: not a directory, open '" ++ path ++ "'"
  | isDirectory => "EISDIR: illegal operation on a directory, read"
  | zeroCharacter =>
    "The argument 'path' must be a string, Uint8Array, or URL without null bytes. Received '"
      ++ showPath path ++ "'"
  | other reason => reason

/-- A source of files. -/
abbrev Source := String → Except ReadError (List UInt8)

/-- The text of a file. -/
def Source.text (source : Source) (path : String) : Except ReadError String :=
  (source path).map fun bytes => String.ofList (Utf8.decode bytes)

/-! ## Folders -/

/-- The components of a path. There is always at least one. -/
def components (path : String) : List String :=
  path.splitOn "/"

/-- Directories and files, by the names on the way to them. -/
structure Folder where
  directories : List (List String)
  files : List (List String × List UInt8)

namespace Folder

/-- A folder with nothing in it. -/
def empty : Folder := ⟨[], []⟩

/-- The names on the way to a path. -/
def place (path : String) : List String :=
  (components path).filter fun part => part ≠ "" ∧ part ≠ "."

/-- Makes a directory. -/
def makeDirectory (folder : Folder) (path : String) : Folder :=
  { folder with directories := place path :: folder.directories }

/-- Writes a file. A file written again has its last contents. -/
def write (folder : Folder) (path : String) (bytes : List UInt8) : Folder :=
  { folder with files := (place path, bytes) :: folder.files }

/-- What a path may lead to. -/
inductive Item where
  | directory
  | file (bytes : List UInt8)

/-- What has exactly these components. A directory is there if it was made, or
if something lies in it. -/
def item? (folder : Folder) (place : List String) : Option Item :=
  match folder.files.lookup place with
  | some bytes => some (.file bytes)
  | none =>
    if place = [] ∨ folder.directories.any (place.isPrefixOf ·)
        ∨ folder.files.any (place.isPrefixOf ·.1) then
      some .directory
    else none

/-- Follows the components of a path from a place in the folder. -/
def follow (folder : Folder) (place : List String) :
    List String → Except ReadError (List UInt8)
  | [] =>
    match folder.item? place with
    | none => .error .missing
    | some .directory => .error .isDirectory
    | some (.file bytes) => .ok bytes
  | part :: rest =>
    match folder.item? place with
    | none => .error .missing
    | some (.file _) => .error .notDirectory
    | some .directory =>
      if part = "" ∨ part = "." then folder.follow place rest
      else if part = ".." then folder.follow place.dropLast rest
      else folder.follow (place ++ [part]) rest

/-- Reads a path. The empty path leads nowhere. -/
def read (folder : Folder) : Source := fun path =>
  if path.toList.any (·.toNat = 0) then .error .zeroCharacter
  else if path = "" then .error .missing
  else folder.follow [] (components path)

end Folder

end LoopRepair
