/-!
# Text from bytes

Bytes become text by the decoding rule for UTF-8 in which nothing is refused.
Every maximal run of bytes that starts a character and breaks off before its end
becomes one replacement character, and so does every byte that starts no
character. The byte that breaks a run off is read again, as the start of what
follows. A byte order mark is kept.

The decoder is a machine with one register: the character it is in the middle
of, if any.
-/

namespace LoopRepair.Utf8

/-- A character that has begun: the continuation bytes it still needs after the
next one, the range in which the next one must lie, and the bits read so far. -/
structure Pending where
  more : Nat
  least : Nat
  greatest : Nat
  bits : Nat
deriving DecidableEq, Repr

/-- What stands for bytes that are no character. -/
def replacement : Char := '\uFFFD'

/-- Reads a byte at which a character begins. The first continuation byte of
some characters is restricted, so that each has only one encoding and none is a
surrogate or beyond the last code point. -/
def begin (byte : Nat) : List Char × Option Pending :=
  if byte < 0x80 then ([Char.ofNat byte], none)
  else if 0xC2 ≤ byte ∧ byte ≤ 0xDF then ([], some ⟨0, 0x80, 0xBF, byte - 0xC0⟩)
  else if byte = 0xE0 then ([], some ⟨1, 0xA0, 0xBF, 0⟩)
  else if byte = 0xED then ([], some ⟨1, 0x80, 0x9F, 0xD⟩)
  else if 0xE1 ≤ byte ∧ byte ≤ 0xEF then ([], some ⟨1, 0x80, 0xBF, byte - 0xE0⟩)
  else if byte = 0xF0 then ([], some ⟨2, 0x90, 0xBF, 0⟩)
  else if 0xF1 ≤ byte ∧ byte ≤ 0xF3 then ([], some ⟨2, 0x80, 0xBF, byte - 0xF0⟩)
  else if byte = 0xF4 then ([], some ⟨2, 0x80, 0x8F, 4⟩)
  else ([replacement], none)

/-- Reads a byte in the middle of a character. -/
def proceed (p : Pending) (byte : Nat) : List Char × Option Pending :=
  if p.least ≤ byte ∧ byte ≤ p.greatest then
    match p.more with
    | 0 => ([Char.ofNat (p.bits * 64 + (byte - 0x80))], none)
    | more + 1 => ([], some ⟨more, 0x80, 0xBF, p.bits * 64 + (byte - 0x80)⟩)
  else
    (replacement :: (begin byte).1, (begin byte).2)

/-- One step of the decoder: the characters that a byte completes, and the
character it leaves unfinished. -/
def step (pending : Option Pending) (byte : Nat) : List Char × Option Pending :=
  match pending with
  | none => begin byte
  | some p => proceed p byte

/-- Decodes bytes after an unfinished character. -/
def decodeFrom (pending : Option Pending) : List UInt8 → List Char
  | [] => if pending.isSome then [replacement] else []
  | byte :: bytes =>
    (step pending byte.toNat).1 ++ decodeFrom (step pending byte.toNat).2 bytes

/-- Decodes bytes. -/
def decode (bytes : List UInt8) : List Char :=
  decodeFrom none bytes

end LoopRepair.Utf8
