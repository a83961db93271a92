import LoopRepair.Text.Ranges

/-!
# Blank characters and lines

A character is blank if it is white space or a line terminator: the five
controls from tabulation to carriage return, the space, the other Unicode space
separators, the line and paragraph separators, and the byte order mark. Next
line (U+0085), the information separators, the Mongolian vowel separator and the
zero width space are not blank.

A line ends at a line feed. A carriage return right before the line feed belongs
to the line end and not to the line; one anywhere else is a blank like others. A
text cut at its line feeds alone has such a carriage return as one more blank at
the end of the line, so the two cuts give the same lines once these are trimmed
(`map_trim_lines`).
-/

namespace LoopRepair.Text

/-- The blank characters, as closed ranges of code points in ascending order. -/
def blankRanges : List (Nat × Nat) :=
  [(0x0009, 0x000D), (0x0020, 0x0020), (0x00A0, 0x00A0), (0x1680, 0x1680), (0x2000, 0x200A),
    (0x2028, 0x2029), (0x202F, 0x202F), (0x205F, 0x205F), (0x3000, 0x3000), (0xFEFF, 0xFEFF)]

/-- Whether a character is blank. -/
def isBlank (c : Char) : Bool :=
  inRanges blankRanges c

/-- Whether a character is part of a word. -/
def isInk (c : Char) : Bool :=
  !isBlank c

/-- The text without the blanks at both ends. -/
def trim (cs : List Char) : List Char :=
  ((cs.dropWhile isBlank).reverse.dropWhile isBlank).reverse

/-- The lines of a text, cut at every line feed and at the carriage return right
before it, if there is one. There is always at least one line: a text that ends in
a line feed has an empty last line. -/
def lines : List Char → List (List Char)
  | [] => [[]]
  | '\r' :: '\n' :: cs => [] :: lines cs
  | '\n' :: cs => [] :: lines cs
  | c :: cs => (lines cs).modifyHead (c :: ·)

/-- Reads a line that consists of exactly two words with blanks between them and
none at either end. -/
def twoWords (line : List Char) : Option (List Char × List Char) :=
  let first := line.takeWhile isInk
  let second := (line.dropWhile isInk).dropWhile isBlank
  if first ≠ [] ∧ second ≠ [] ∧ second.all isInk then some (first, second) else none

end LoopRepair.Text
