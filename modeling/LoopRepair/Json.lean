import LoopRepair.Text.Decimal

/-!
# JSON lines

Reports and trace records are written as JSON on one line: no blanks, fields in
the order given. An `int` is a JSON number. It stands for positions, line numbers
and times, which stay within what readers of JSON numbers keep exact
(`Json.isExact`). Two kinds of value are not JSON's own. A `big` integer may lie
beyond that, so it is written as a decimal string. An `absent` value stands for
nothing at all: as a field it is left out, as an element of an array it holds its
place as `null`.

Only what must be escaped is escaped: the quotation mark, the backslash and the
characters below U+0020. So a line never breaks.
-/

namespace LoopRepair

/-- A value to be written as JSON. -/
inductive Json where
  | null
  | absent
  | bool (b : Bool)
  | int (n : Int)
  | big (n : Int)
  | str (s : String)
  | arr (elements : List Json)
  | obj (fields : List (String × Json))
deriving Repr

namespace Json

/-! ## Strings -/

/-- A hexadecimal digit, in lower case. -/
def hexDigit (n : Nat) : Char :=
  if n < 10 then Char.ofNat (48 + n) else Char.ofNat (87 + n)

/-- A character inside a string: five controls have a short form, the other ones
below U+0020 are written by their code. -/
def escape (c : Char) : List Char :=
  if c = '"' then ['\\', '"']
  else if c = '\\' then ['\\', '\\']
  else if c.toNat = 8 then ['\\', 'b']
  else if c.toNat = 9 then ['\\', 't']
  else if c.toNat = 10 then ['\\', 'n']
  else if c.toNat = 12 then ['\\', 'f']
  else if c.toNat = 13 then ['\\', 'r']
  else if c.toNat < 32 then
    ['\\', 'u', '0', '0', hexDigit (c.toNat / 16), hexDigit (c.toNat % 16)]
  else [c]

/-- A string in quotation marks. -/
def quote (s : String) : List Char :=
  '"' :: s.toList.flatMap escape ++ ['"']

/-! ## Values -/

/-- Parts with commas between them. -/
def commaJoin (parts : List (List Char)) : List Char :=
  List.intercalate [','] parts

mutual

/-- The characters of a value. An absent value is `null` wherever it is written. -/
def chars : Json → List Char
  | null => "null".toList
  | absent => "null".toList
  | bool true => "true".toList
  | bool false => "false".toList
  | int n => (Decimal.write n).toList
  | big n => quote (Decimal.write n)
  | str s => quote s
  | arr elements => '[' :: commaJoin (charsOfElements elements) ++ [']']
  | obj fields => '\x7b' :: commaJoin (charsOfFields fields) ++ ['\x7d']

/-- The elements of an array, each written. -/
def charsOfElements : List Json → List (List Char)
  | [] => []
  | v :: vs => chars v :: charsOfElements vs

/-- The fields of an object, each written; an absent one is left out. -/
def charsOfFields : List (String × Json) → List (List Char)
  | [] => []
  | (_, absent) :: fields => charsOfFields fields
  | (key, v) :: fields => (quote key ++ ':' :: chars v) :: charsOfFields fields

end

theorem charsOfFields_cons (key : String) {v : Json} (present : v ≠ absent)
    (fields : List (String × Json)) :
    charsOfFields ((key, v) :: fields) = (quote key ++ ':' :: chars v) :: charsOfFields fields := by
  rw [charsOfFields]
  exact present

/-- The line of a value. -/
def line (v : Json) : String :=
  String.ofList v.chars

/-- The line of a value, unless it is absent. -/
def line? : Json → Option String
  | absent => none
  | v => some v.line

/-- Whether readers of JSON numbers keep an integer exact: they have 53 bits for it, so its
amount is at most 2 ^ 53 - 1. -/
def isExactInt (n : Int) : Bool :=
  n.natAbs ≤ 9007199254740991

mutual

/-- Whether every JSON number in a value is kept exact by its readers. -/
def isExact : Json → Bool
  | int n => isExactInt n
  | arr elements => areExact elements
  | obj fields => areExactFields fields
  | null | absent | bool _ | big _ | str _ => true

def areExact : List Json → Bool
  | [] => true
  | v :: vs => isExact v && areExact vs

def areExactFields : List (String × Json) → Bool
  | [] => true
  | (_, v) :: fields => isExact v && areExactFields fields

end

/-- A position that may be missing. -/
def ofPosition? : Option Int → Json
  | none => null
  | some n => int n

/-- A list of positions. -/
def ofPositions (positions : List Nat) : Json :=
  arr (positions.map fun pos : Nat => int pos)

end Json

end LoopRepair
