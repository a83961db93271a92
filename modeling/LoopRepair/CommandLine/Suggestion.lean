/-!
# Suggestions for misspelled words

When a word is not known, the known words nearest to it are suggested. Nearness
is the least number of single edits that turn one word into the other: insert,
delete or replace a character, or exchange two neighbours, where no part is
edited twice. Characters are counted in UTF-16 code units.

A known word is near enough if at most three edits are needed and more than two
fifths of the longer word stay as they are. Of those, the nearest are suggested,
in alphabetical order.
-/

namespace LoopRepair.Suggestion

/-- The UTF-16 code units of a character. -/
def unitsOfChar (c : Char) : List Nat :=
  if c.toNat < 0x10000 then [c.toNat]
  else [0xD800 + (c.toNat - 0x10000) / 0x400, 0xDC00 + (c.toNat - 0x10000) % 0x400]

/-- The UTF-16 code units of a text. -/
def units (cs : List Char) : List Nat :=
  cs.flatMap unitsOfChar

/-- The least number of edits that turn one word into the other. -/
def edits : List Nat → List Nat → Nat
  | [], bs => bs.length
  | as, [] => as.length
  | a :: as, b :: bs =>
    let insertOrDelete := min (edits as (b :: bs)) (edits (a :: as) bs) + 1
    let replace := edits as bs + if a = b then 0 else 1
    let plain := min insertOrDelete replace
    match as, bs with
    | a' :: as, b' :: bs => if a = b' ∧ a' = b then min plain (edits as bs + 1) else plain
    | _, _ => plain
termination_by as bs => as.length + bs.length

/-- The most edits by which a suggested word may differ. -/
def maxEdits : Nat := 3

/-- The distance of two words. Words whose lengths alone are too far apart are
not compared: their distance is the length of the longer one. -/
def distance (as bs : List Nat) : Nat :=
  if as.length > bs.length + maxEdits ∨ bs.length > as.length + maxEdits then
    max as.length bs.length
  else edits as bs

/-- The distance of a known word, if it is near enough. No word of a single
character is suggested. -/
def distance? (word known : List Char) : Option Nat :=
  let length := max (units word).length (units known).length
  let d := distance (units word) (units known)
  if 1 < (units known).length ∧ d ≤ maxEdits ∧ 2 * length < 5 * (length - d) then some d
  else none

/-- The known words nearest to a word, in alphabetical order. -/
def nearest (word : List Char) (known : List (List Char)) : List String :=
  let near := known.filterMap fun k => (distance? word k).map fun d => (d, String.ofList k)
  match (near.map Prod.fst).min? with
  | none => []
  | some least => ((near.filter (·.1 = least)).map Prod.snd).mergeSort

/-- The dashes in front of an option. -/
def dashes : String := "--"

/-- The words to suggest for a word. If it has two dashes in front, it is taken
for an option: the first two characters of every known word are taken for its
dashes and not compared, and what is suggested has dashes. -/
def suggest (word : String) (known : List String) : List String :=
  match word.toList with
  | '-' :: '-' :: rest =>
    (nearest rest (known.map fun k => k.toList.drop 2)).map (dashes ++ ·)
  | cs => nearest cs (known.map String.toList)

/-- The line that makes the suggestions, if there are any. -/
def line? : List String → Option String
  | [] => none
  | [word] => some ("(Did you mean " ++ word ++ "?)")
  | words => some ("(Did you mean one of " ++ ", ".intercalate words ++ "?)")

end LoopRepair.Suggestion
