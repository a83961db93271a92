import LoopRepair.CommandLine.Suggestion
import LoopRepair.Json
import LoopRepair.Proofs.Numerals
import Mathlib.Algebra.Group.Nat.Defs
import Mathlib.Data.List.TakeWhile
import Mathlib.Data.Rat.Defs

/-!
# Texts of JSON

A reader for all of JSON, by the standard and without regard to how this library writes it:
blanks between tokens, numbers with fractions and exponents, every escape, surrogate pairs
included. What a text says is a `Data`. Numbers are exact. An object is the list of its
fields in the order of the text.

The reader is a machine that takes one character at a time. It keeps the containers that
are open, the innermost first, and what it is in the middle of. The characters of a string,
of a number and of a literal are collected, and read when the token has ended. A number or
literal ends only at a character that cannot belong to it, which is then read again as what
follows a value.

Results:
1. `readNumber_write`: an integer in decimal is read as that integer.
2. `unescape_escape`: an escaped string is read as that string.
3. `run_quoted`, `run_bare`: the machine collects the tokens that are written.
-/

namespace LoopRepair.Json

/-- What a text says. -/
inductive Data where
  | null
  | bool (b : Bool)
  | number (q : Rat)
  | str (s : String)
  | arr (elements : List Data)
  | obj (fields : List (String × Data))

/-! ## Numbers -/

/-- The digits after a point, and what follows them. Where there is no point, there are none. -/
def readFraction : List Char → Option (List Char × List Char)
  | '.' :: cs =>
    if cs.takeWhile Char.isDigit = [] then none
    else some (cs.takeWhile Char.isDigit, cs.dropWhile Char.isDigit)
  | cs => some ([], cs)

/-- The exponent at the end of a number. It may have a sign of either kind or none. -/
def readExponent : List Char → Option Int
  | [] => some 0
  | mark :: cs =>
    if mark = 'e' ∨ mark = 'E' then (Decimal.readSigned cs).or (Decimal.readSigned ('+' :: cs))
    else none

/-- A whole number with its point moved by that many places to the right. -/
def shifted (n : Nat) (places : Int) : Rat :=
  if 0 ≤ places then mkRat (n * 10 ^ places.toNat : Nat) 1 else mkRat n (10 ^ (-places).toNat)

/-- A number without its sign. It starts with a digit, and with a zero only if no digit
follows before the point. -/
def readUnsigned (cs : List Char) : Option Rat :=
  let whole := cs.takeWhile Char.isDigit
  if whole = [] ∨ (whole.head? = some '0' ∧ whole ≠ ['0']) then none
  else
    (readFraction (cs.dropWhile Char.isDigit)).bind fun (places, rest) =>
      (readExponent rest).map fun exponent =>
        shifted (Nat.ofDigitChars 10 (whole ++ places) 0) (exponent - places.length)

/-- Reads a number. -/
def readNumber : List Char → Option Rat
  | '-' :: cs => (readUnsigned cs).map fun q => -q
  | cs => readUnsigned cs

example : readNumber "-12.50e-1".toList = some (mkRat (-5) 4) := by decide +kernel

/-- Reads a token without quotation marks: a literal or a number. -/
def readBare (cs : List Char) : Option Data :=
  if cs = "null".toList then some .null
  else if cs = "true".toList then some (.bool true)
  else if cs = "false".toList then some (.bool false)
  else (readNumber cs).map .number

/-! ## Strings -/

/-- The value of a hexadecimal digit, in upper or lower case. -/
def hexValue (c : Char) : Option Nat :=
  if c.isDigit then some (c.toNat - 48)
  else if 97 ≤ c.toNat ∧ c.toNat ≤ 102 then some (c.toNat - 87)
  else if 65 ≤ c.toNat ∧ c.toNat ≤ 70 then some (c.toNat - 55)
  else none

/-- The code unit of an escape of two characters, by the second one. -/
def shortEscape : Char → Option Nat
  | '"' => some 0x22
  | '\\' => some 0x5C
  | '/' => some 0x2F
  | 'b' => some 0x08
  | 'f' => some 0x0C
  | 'n' => some 0x0A
  | 'r' => some 0x0D
  | 't' => some 0x09
  | _ => none

/-- The UTF-16 code units of what stands between two quotation marks. An escape by code is
one unit, so it may be half of a character. Controls must be escaped. -/
def unitsBetweenQuotes : List Char → Option (List Nat)
  | [] => some []
  | '\\' :: 'u' :: a :: b :: c :: d :: cs =>
    match hexValue a, hexValue b, hexValue c, hexValue d with
    | some a, some b, some c, some d =>
      (unitsBetweenQuotes cs).map ((((a * 16 + b) * 16 + c) * 16 + d) :: ·)
    | _, _, _, _ => none
  | '\\' :: c :: cs => (shortEscape c).bind fun unit => (unitsBetweenQuotes cs).map (unit :: ·)
  | c :: cs =>
    if c = '\\' ∨ c.toNat < 0x20 then none
    else (unitsBetweenQuotes cs).map (Suggestion.unitsOfChar c ++ ·)

/-- The characters of UTF-16 code units. Half of a surrogate pair is no character. -/
def charsOfUnits : List Nat → Option (List Char)
  | [] => some []
  | unit :: units =>
    if unit < 0xD800 ∨ 0xDFFF < unit then (charsOfUnits units).map (Char.ofNat unit :: ·)
    else
      match units with
      | [] => none
      | low :: units =>
        if unit < 0xDC00 ∧ 0xDC00 ≤ low ∧ low ≤ 0xDFFF then
          (charsOfUnits units).map
            (Char.ofNat (0x10000 + (unit - 0xD800) * 0x400 + (low - 0xDC00)) :: ·)
        else none

/-- The string between two quotation marks. -/
def unescape (raw : List Char) : Option String :=
  ((unitsBetweenQuotes raw).bind charsOfUnits).map String.ofList

example : unescape "\\u0041\\ud83d\\uDE00\\/\\n".toList = some "A😀/\n" := by decide +kernel

/-! ## The machine -/

/-- A container that is open: what has been read of it, and for a field whose value is
awaited also its key. -/
inductive Frame where
  | arr (before : List Data)
  | obj (before : List (String × Data))
  | field (before : List (String × Data)) (key : String)

/-- What the reader is in the middle of. -/
inductive Mode where
  /-- A value is to come. If it is the first one of an array, the array may also end. -/
  | value (first : Bool)
  /-- A key is to come. If it is the first one of an object, the object may also end. -/
  | key (first : Bool)
  /-- A key has ended. -/
  | colon
  /-- The characters of a string, and whether the next one belongs to an escape. -/
  | quoted (raw : List Char) (escaped : Bool)
  /-- The characters of a literal or number. -/
  | bare (raw : List Char)
  /-- A value has ended. -/
  | done (v : Data)

/-- The state of the reader. -/
structure Reader where
  mode : Mode
  stack : List Frame

/-- The blanks of JSON. -/
def isSpace (c : Char) : Bool :=
  c = ' ' || c = '\t' || c = '\n' || c = '\r'

/-- Whether a character ends a literal or number. -/
def endsBare (c : Char) : Bool :=
  isSpace c || c = ',' || c = ']' || c = '\x7d'

namespace Reader

/-- A string has ended. Where a key is awaited, it is the key. -/
def afterString (stack : List Frame) (s : String) : Reader :=
  match stack with
  | .obj before :: outer => ⟨.colon, .field before s :: outer⟩
  | _ => ⟨.done (.str s), stack⟩

/-- Reads a character after a value. -/
def afterValue (stack : List Frame) (v : Data) (c : Char) : Option Reader :=
  if isSpace c then some ⟨.done v, stack⟩
  else
    match stack with
    | .arr before :: outer =>
      if c = ',' then some ⟨.value false, .arr (before ++ [v]) :: outer⟩
      else if c = ']' then some ⟨.done (.arr (before ++ [v])), outer⟩
      else none
    | .field before key :: outer =>
      if c = ',' then some ⟨.key false, .obj (before ++ [(key, v)]) :: outer⟩
      else if c = '\x7d' then some ⟨.done (.obj (before ++ [(key, v)])), outer⟩
      else none
    | _ => none

/-- Reads a character where a value is to come. -/
def beforeValue (stack : List Frame) (first : Bool) (c : Char) : Option Reader :=
  if isSpace c then some ⟨.value first, stack⟩
  else if c = '"' then some ⟨.quoted [] false, stack⟩
  else if c = '[' then some ⟨.value true, .arr [] :: stack⟩
  else if c = '\x7b' then some ⟨.key true, .obj [] :: stack⟩
  else if c = ']' ∧ first then some ⟨.done (.arr []), stack.tail⟩
  else some ⟨.bare [c], stack⟩

/-- Reads a character where a key is to come. -/
def beforeKey (stack : List Frame) (first : Bool) (c : Char) : Option Reader :=
  if isSpace c then some ⟨.key first, stack⟩
  else if c = '"' then some ⟨.quoted [] false, stack⟩
  else if c = '\x7d' ∧ first then some ⟨.done (.obj []), stack.tail⟩
  else none

/-- Reads a character. -/
def step (r : Reader) (c : Char) : Option Reader :=
  match r.mode with
  | .value first => beforeValue r.stack first c
  | .key first => beforeKey r.stack first c
  | .colon =>
    if isSpace c then some r
    else if c = ':' then some ⟨.value false, r.stack⟩
    else none
  | .quoted raw escaped =>
    if escaped then some ⟨.quoted (raw ++ [c]) false, r.stack⟩
    else if c = '"' then (unescape raw).map (afterString r.stack)
    else some ⟨.quoted (raw ++ [c]) (c = '\\'), r.stack⟩
  | .bare raw =>
    if endsBare c then (readBare raw).bind (afterValue r.stack · c)
    else some ⟨.bare (raw ++ [c]), r.stack⟩
  | .done v => afterValue r.stack v c

/-- What has been read when the text ends: a value, if no container is open. -/
def result (r : Reader) : Option Data :=
  match r.mode, r.stack with
  | .done v, [] => some v
  | .bare raw, [] => readBare raw
  | _, _ => none

/-- Reads the rest of a text. -/
def run (r : Reader) : List Char → Option Data
  | [] => r.result
  | c :: cs => (r.step c).bind (run · cs)

end Reader

/-- Reads a text. -/
def read (text : String) : Option Data :=
  Reader.run ⟨.value false, []⟩ text.toList


/-- Blanks may stand between tokens. -/
example : read " [\x7b \"k\" : [ ] \x7d\t,\nnull]\r" =
    some (.arr [.obj [("k", .arr [])], .null]) := by
  cbv

/-- What is nearly a text of JSON is none. -/
example : ["", "[1,]", "01", "1.", "+1", "\"\t\"", "\"\\x\"", "\"\\ud83d\"", "nul", "[1 2]",
    "\x7b1:2\x7d", "[1", "1]", "1 1"].all (fun text => (read text).isNone) = true := by
  decide +kernel

/-! ## Reading what is written -/

theorem shifted_zero (n : Nat) : shifted n 0 = (n : Int) := by
  rw [shifted, if_pos (Int.le_refl 0), Int.toNat_zero, Nat.pow_zero, Nat.mul_one, Rat.mkRat_one]

theorem readUnsigned_toDigits (n : Nat) :
    readUnsigned (Nat.toDigits 10 n) = some ((n : Int) : Rat) := by
  have digits : ∀ c ∈ Nat.toDigits 10 n, c.isDigit = true := fun _ member =>
    Nat.isDigit_of_mem_toDigits (by decide) (by decide) member
  have proper : ¬ (Nat.toDigits 10 n = [] ∨
      ((Nat.toDigits 10 n).head? = some '0' ∧ Nat.toDigits 10 n ≠ ['0'])) := by
    rintro (none | ⟨zero, more⟩)
    · exact Nat.toDigits_ne_nil none
    · exact more (Decimal.toDigits_eq_zero_of_head? zero)
  have value := (Decimal.numeral_toDigits n).value_eq
  simp only [readUnsigned, List.takeWhile_eq_self_iff.mpr digits,
    List.dropWhile_eq_nil_iff.mpr digits, if_neg proper]
  simp [readFraction, readExponent, value, shifted_zero]

/-- A number in decimal starts with a minus sign or with a digit. -/
theorem exists_write_eq_cons (n : Int) :
    ∃ c cs, (Decimal.write n).toList = c :: cs ∧ Decimal.isNumeralChar c = true := by
  obtain ⟨c, cs, written⟩ := List.exists_cons_of_ne_nil (Decimal.write_ne_nil n)
  have first : c ∈ (Decimal.write n).toList := by
    rw [written]
    exact List.mem_cons_self
  exact ⟨c, cs, written, Decimal.isNumeralChar_of_mem_write first⟩

theorem readNumber_write (n : Int) : readNumber (Decimal.write n).toList = some (n : Rat) := by
  rw [Decimal.toList_write]
  by_cases negative : n < 0
  · have value : -(n.natAbs : Int) = n := by omega
    rw [if_pos negative]
    show (readUnsigned (Nat.toDigits 10 n.natAbs)).map (fun q => -q) = _
    rw [readUnsigned_toDigits, Option.map_some, ← Rat.intCast_neg, value]
  · have value : (n.natAbs : Int) = n := by omega
    have unsigned : '-' ∉ Nat.toDigits 10 n.natAbs := by
      intro minus
      exact absurd (Nat.isDigit_of_mem_toDigits (by decide) (by decide) minus) (by decide)
    rw [if_neg negative, List.nil_append]
    unfold readNumber
    split
    · next digits => exact absurd (by rw [digits]; exact List.mem_cons_self) unsigned
    · rw [readUnsigned_toDigits, value]

theorem readBare_write (n : Int) : readBare (Decimal.write n).toList = some (.number n) := by
  obtain ⟨c, cs, written, numeral⟩ := exists_write_eq_cons n
  have other {word : List Char}
      (letter : word.head?.map Decimal.isNumeralChar = some false) :
      (Decimal.write n).toList ≠ word := by
    rintro rfl
    rw [written] at letter
    cases numeral.symm.trans (Option.some.inj letter)
  rw [readBare, if_neg (other rfl), if_neg (other rfl), if_neg (other rfl),
    readNumber_write]
  rfl

/-! ### Strings -/

/-- A character is written by a letter after a backslash, by its code, or as it is. -/
theorem escape_cases (c : Char) :
    (∃ letter, escape c = ['\\', letter] ∧ shortEscape letter = some c.toNat) ∨
    (escape c = ['\\', 'u', '0', '0', hexDigit (c.toNat / 16), hexDigit (c.toNat % 16)] ∧
      c.toNat < 0x20) ∨
    (escape c = [c] ∧ c ≠ '"' ∧ c ≠ '\\' ∧ 0x20 ≤ c.toNat) := by
  unfold escape
  split
  · next quote => exact .inl ⟨_, rfl, by rw [quote]; rfl⟩
  split
  · next slash => exact .inl ⟨_, rfl, by rw [slash]; rfl⟩
  split
  · next control => exact .inl ⟨_, rfl, by rw [control]; rfl⟩
  split
  · next control => exact .inl ⟨_, rfl, by rw [control]; rfl⟩
  split
  · next control => exact .inl ⟨_, rfl, by rw [control]; rfl⟩
  split
  · next control => exact .inl ⟨_, rfl, by rw [control]; rfl⟩
  split
  · next control => exact .inl ⟨_, rfl, by rw [control]; rfl⟩
  split
  · next control => exact .inr (.inl ⟨rfl, control⟩)
  · next quote slash _ _ _ _ _ large =>
    exact .inr (.inr ⟨rfl, quote, slash, Nat.le_of_not_lt large⟩)

theorem shortEscape_bounds {c : Char} {unit : Nat} (short : shortEscape c = some unit) :
    0x20 ≤ c.toNat ∧ unit < 0x80 := by
  revert short
  unfold shortEscape
  split <;> rintro ⟨⟩ <;> decide

theorem hexValue_hexDigit {n : Nat} (small : n < 16) : hexValue (hexDigit n) = some n := by
  revert small n
  decide

theorem hexDigit_plain {n : Nat} (small : n < 16) :
    hexDigit n ≠ '"' ∧ hexDigit n ≠ '\\' ∧ 0x20 ≤ (hexDigit n).toNat := by
  revert small n
  decide

theorem unitsOfChar_of_lt {c : Char} (small : c.toNat < 0x10000) :
    Suggestion.unitsOfChar c = [c.toNat] :=
  if_pos small

/-- Each character is read back from the way it is written. -/
theorem unitsBetweenQuotes_escape (c : Char) (rest : List Char) :
    unitsBetweenQuotes (escape c ++ rest) =
      (unitsBetweenQuotes rest).map (Suggestion.unitsOfChar c ++ ·) := by
  rcases escape_cases c with ⟨letter, written, short⟩ | ⟨written, control⟩ |
    ⟨written, _, slash, large⟩
  · have small := (shortEscape_bounds short).2
    have notCode : letter ≠ 'u' := by
      rintro rfl
      cases short
    rw [written, unitsOfChar_of_lt (by omega), List.cons_append, List.singleton_append,
      unitsBetweenQuotes.eq_def]
    simp [notCode, short]
  · have zero : hexValue '0' = some 0 := by decide
    have value : ((0 * 16 + 0) * 16 + c.toNat / 16) * 16 + c.toNat % 16 = c.toNat := by omega
    rw [written, unitsOfChar_of_lt (by omega)]
    show unitsBetweenQuotes ('\\' :: 'u' :: '0' :: '0' :: _ :: _ :: rest) = _
    rw [unitsBetweenQuotes, zero, hexValue_hexDigit (by omega), hexValue_hexDigit (by omega)]
    simp only [value, List.singleton_append]
  · rw [written, List.singleton_append, unitsBetweenQuotes.eq_def]
    simp [slash, Nat.not_lt.mpr large]

theorem charsOfUnits_unitsOfChar (c : Char) (units : List Nat) :
    charsOfUnits (Suggestion.unitsOfChar c ++ units) = (charsOfUnits units).map (c :: ·) := by
  have valid : c.toNat < 0xD800 ∨ (0xDFFF < c.toNat ∧ c.toNat < 0x110000) := c.valid
  have same : Char.ofNat c.toNat = c := c.ofNat_toNat
  unfold Suggestion.unitsOfChar
  generalize c.toNat = v at valid same ⊢
  subst same
  split
  · next one =>
    have whole : v < 0xD800 ∨ 0xDFFF < v := by omega
    rw [List.singleton_append, charsOfUnits.eq_def]
    simp only [if_pos whole]
  · next two =>
    have half : ¬ (0xD800 + (v - 0x10000) / 0x400 < 0xD800 ∨
        0xDFFF < 0xD800 + (v - 0x10000) / 0x400) := by omega
    have pair : 0xD800 + (v - 0x10000) / 0x400 < 0xDC00 ∧
        0xDC00 ≤ 0xDC00 + (v - 0x10000) % 0x400 ∧
        0xDC00 + (v - 0x10000) % 0x400 ≤ 0xDFFF := by omega
    have value : 0x10000 + (0xD800 + (v - 0x10000) / 0x400 - 0xD800) * 0x400 +
        (0xDC00 + (v - 0x10000) % 0x400 - 0xDC00) = v := by omega
    rw [List.cons_append, List.singleton_append, charsOfUnits, if_neg half]
    simp only [if_pos pair, value]

/-- An escaped string is read as that string. -/
theorem unescape_escape (s : String) : unescape (s.toList.flatMap escape) = some s := by
  have units (cs : List Char) :
      (unitsBetweenQuotes (cs.flatMap escape)).bind charsOfUnits = some cs := by
    induction cs with
    | nil => rfl
    | cons c cs ih =>
      obtain ⟨units, between, read⟩ := Option.bind_eq_some_iff.mp ih
      rw [List.flatMap_cons, unitsBetweenQuotes_escape, between, Option.map_some,
        Option.bind_some, charsOfUnits_unitsOfChar, read]
      rfl
  rw [unescape, units, Option.map_some, String.ofList_toList]

/-! ### Tokens -/

/-- Whether a character may belong to a literal or number. -/
def isBareChar (c : Char) : Bool :=
  !endsBare c && c ≠ '"' && c ≠ '[' && c ≠ '\x7b'

/-- What follows a literal or number: a character that ends it, or the end of the text. -/
def Ends (rest : List Char) : Prop :=
  ∀ c ∈ rest.head?, endsBare c = true

namespace Reader

variable {stack : List Frame} {raw rest : List Char} {first : Bool}

theorem run_cons {r r' : Reader} {c : Char} (reads : r.step c = some r') (cs : List Char) :
    r.run (c :: cs) = r'.run cs := by
  rw [run, reads, Option.bind_some]

theorem step_quoted_plain {c : Char} (quote : c ≠ '"') (slash : c ≠ '\\') :
    step ⟨.quoted raw false, stack⟩ c = some ⟨.quoted (raw ++ [c]) false, stack⟩ := by
  simp [step, quote, slash]

/-- The characters of an escape are collected, and the string goes on after them. -/
theorem run_escape (c : Char) (rest : List Char) :
    run ⟨.quoted raw false, stack⟩ (escape c ++ rest) =
      run ⟨.quoted (raw ++ escape c) false, stack⟩ rest := by
  have slash : step ⟨.quoted raw false, stack⟩ '\\' =
      some ⟨.quoted (raw ++ ['\\']) true, stack⟩ := rfl
  have escaped (raw : List Char) (c : Char) : step ⟨.quoted raw true, stack⟩ c =
      some ⟨.quoted (raw ++ [c]) false, stack⟩ := rfl
  rcases escape_cases c with ⟨letter, written, _⟩ | ⟨written, control⟩ | ⟨written, quote, slash, _⟩
  · rw [written, List.cons_append, List.singleton_append, run_cons slash, run_cons (escaped _ _)]
    simp
  · obtain ⟨quote, slash', _⟩ := hexDigit_plain (show c.toNat / 16 < 16 by omega)
    obtain ⟨quote', slash'', _⟩ := hexDigit_plain (show c.toNat % 16 < 16 by omega)
    rw [written]
    show run _ ('\\' :: 'u' :: '0' :: '0' :: _ :: _ :: rest) = _
    rw [run_cons slash, run_cons (escaped _ _),
      run_cons (step_quoted_plain (by decide) (by decide)),
      run_cons (step_quoted_plain (by decide) (by decide)),
      run_cons (step_quoted_plain quote slash'), run_cons (step_quoted_plain quote' slash'')]
    simp
  · rw [written, List.singleton_append, run_cons (step_quoted_plain quote slash)]

/-- After its first quotation mark, a string is read up to its last one. -/
theorem run_quoted (s : String) (rest : List Char) :
    run ⟨.quoted [] false, stack⟩ (s.toList.flatMap escape ++ '"' :: rest) =
      run (afterString stack s) rest := by
  have collected (cs : List Char) : ∀ raw, run ⟨.quoted raw false, stack⟩
      (cs.flatMap escape ++ '"' :: rest) =
        run ⟨.quoted (raw ++ cs.flatMap escape) false, stack⟩ ('"' :: rest) := by
    induction cs with
    | nil => simp
    | cons c cs ih =>
      intro raw
      rw [List.flatMap_cons, List.append_assoc, run_escape, ih, List.append_assoc]
  have closes : step ⟨.quoted (s.toList.flatMap escape) false, stack⟩ '"' =
      some (afterString stack s) := by
    simp [step, unescape_escape]
  rw [collected, List.nil_append, run_cons closes]

/-- Where a quotation mark opens a string, the whole string is read. -/
theorem run_quote {r : Reader} (opens : r.step '"' = some ⟨.quoted [] false, stack⟩) (s : String)
    (rest : List Char) : run r (quote s ++ rest) = run (afterString stack s) rest := by
  rw [quote, List.cons_append, List.cons_append, run_cons opens, List.append_assoc,
    List.singleton_append, run_quoted]

theorem run_value_quote (s : String) (rest : List Char) :
    run ⟨.value first, stack⟩ (quote s ++ rest) = run (afterString stack s) rest :=
  run_quote rfl s rest

theorem run_key_quote (s : String) (rest : List Char) :
    run ⟨.key first, stack⟩ (quote s ++ rest) = run (afterString stack s) rest :=
  run_quote rfl s rest

/-- A literal or number has ended where what follows cannot belong to it. -/
theorem run_bare_ends {v : Data} (reads : readBare raw = some v) (ends : Ends rest) :
    run ⟨.bare raw, stack⟩ rest = run ⟨.done v, stack⟩ rest := by
  cases rest with
  | nil =>
    cases stack with
    | nil => exact reads
    | cons frame outer => rfl
  | cons c cs =>
    have same : step ⟨.bare raw, stack⟩ c = step ⟨.done v, stack⟩ c := by
      simp [step, ends c rfl, reads]
    rw [run, run, same]

/-- A literal or number is read up to its end. -/
theorem run_bare {token : List Char} {v : Data} (reads : readBare token = some v)
    (nonempty : token ≠ []) (bare : ∀ c ∈ token, isBareChar c = true) (ends : Ends rest) :
    run ⟨.value first, stack⟩ (token ++ rest) = run ⟨.done v, stack⟩ rest := by
  have collected (cs : List Char) (bare : ∀ c ∈ cs, isBareChar c = true) :
      ∀ raw, run ⟨.bare raw, stack⟩ (cs ++ rest) = run ⟨.bare (raw ++ cs), stack⟩ rest := by
    induction cs with
    | nil => simp
    | cons c cs ih =>
      intro raw
      have goesOn : step ⟨.bare raw, stack⟩ c = some ⟨.bare (raw ++ [c]), stack⟩ := by
        have belongs := bare c List.mem_cons_self
        simp only [isBareChar, Bool.and_eq_true, Bool.not_eq_true'] at belongs
        simp [step, belongs]
      rw [List.cons_append, run_cons goesOn,
        ih fun c later => bare c (List.mem_cons_of_mem _ later), List.append_assoc,
        List.singleton_append]
  obtain ⟨c, cs, rfl⟩ := List.exists_cons_of_ne_nil nonempty
  have begins : step ⟨.value first, stack⟩ c = some ⟨.bare [c], stack⟩ := by
    have belongs := bare c List.mem_cons_self
    simp only [isBareChar, endsBare, Bool.and_eq_true, Bool.not_eq_true', Bool.or_eq_false_iff,
      decide_eq_true_eq, decide_eq_false_iff_not] at belongs
    simp [step, beforeValue, belongs]
  rw [List.cons_append, run_cons begins,
    collected cs fun c later => bare c (List.mem_cons_of_mem _ later), List.singleton_append,
    run_bare_ends reads ends]

end Reader

end LoopRepair.Json
