import LoopRepair.Text.LetterCase

/-!
# Lower case

The lower-case form of a text, by the default rules of Unicode. Nearly every
character is mapped for itself. Two are not: capital I with a dot above becomes
two characters, and capital sigma has a form of its own at the end of a word.
-/

namespace LoopRepair.Text

/-- Whether a letter stands next, after characters that do not separate it. -/
def meetsLetter (cs : List Char) : Bool :=
  match cs.dropWhile isCaseIgnorable with
  | c :: _ => isCased c
  | [] => false

/-- The lower-case form of a sigma, given what stands before it, the nearest
character first, and what stands after it. At the end of a word a letter stands
before it and none after it. -/
def lowerSigma (before after : List Char) : Char :=
  if meetsLetter before && !meetsLetter after then 'ς' else 'σ'

/-- The lower-case form of a character in its place. -/
def lowerAt (before : List Char) (c : Char) (after : List Char) : List Char :=
  if c = 'Σ' then [lowerSigma before after]
  else if c = 'İ' then ['i', '\u0307']
  else [lowerChar c]

/-- The lower-case form of the rest of a text. -/
def lowerFrom (before : List Char) : List Char → List Char
  | [] => []
  | c :: after => lowerAt before c after ++ lowerFrom (c :: before) after

/-- The lower-case form of a text. -/
def lower (cs : List Char) : List Char :=
  lowerFrom [] cs

end LoopRepair.Text
