/-!
# Decimal numbers

Integers are written with the fewest digits. In a listing an operand always
carries its sign, so there is a second form that writes `+` before zero and
before positive numbers, and a reader for that form. The reader accepts any
number of leading zeros and either sign for zero.
-/

namespace LoopRepair.Decimal

/-- An integer in decimal: the fewest digits, after a minus sign if negative. -/
def write : Int → String
  | .ofNat n => n.repr
  | .negSucc n => "-" ++ (n + 1).repr

/-- The sign an operand carries; zero counts as positive. -/
def sign (n : Int) : Char :=
  if n < 0 then '-' else '+'

/-- An integer in decimal, always with its sign. -/
def writeSigned (n : Int) : String :=
  String.ofList (sign n :: n.natAbs.repr.toList)

/-- Reads a sign followed by one or more ASCII digits, and nothing else. -/
def readSigned : List Char → Option Int
  | [] => none
  | s :: digits =>
    if digits ≠ [] ∧ digits.all Char.isDigit then
      if s = '+' then some (Nat.ofDigitChars 10 digits 0)
      else if s = '-' then some (-Nat.ofDigitChars 10 digits 0)
      else none
    else none

end LoopRepair.Decimal
