import LoopRepair.Source

/-!
# Text in bytes and back

The decoder refuses nothing, so most byte sequences are not the encoding of the text
that they decode to. For the encoding of a text there is nothing to replace:
`decode_encode` says that a file written in UTF-8 is read as it was written.

The encoder is the core library's. The proof follows the decoder through the bytes of
one character, by the number of its bytes; what stands after them is left open. Of the
lead bytes, three restrict the byte after them. There the encoder keeps within the
limits, since it writes no character longer than necessary, no surrogate, and none beyond
the last code point.
-/

namespace LoopRepair.Utf8

/-- The bytes of a text in UTF-8. -/
def encode (text : String) : List UInt8 :=
  text.toUTF8.data.toList

theorem encode_eq (text : String) : encode text = text.toList.flatMap String.utf8EncodeChar := by
  have bytes : text.toUTF8 = text.toList.utf8Encode := by
    rw [← String.toByteArray_ofList, String.ofList_toList]
    rfl
  rw [encode, bytes, List.utf8Encode, List.data_toByteArray]

/-! ## Bytes -/

theorem decodeFrom_cons {pending : Option Pending} {b : Nat} (small : b < 256)
    (bytes : List UInt8) :
    decodeFrom pending (UInt8.ofNat b :: bytes) =
      (step pending b).1 ++ decodeFrom (step pending b).2 bytes := by
  rw [decodeFrom, UInt8.toNat_ofNat', Nat.mod_eq_of_lt small]

variable {b least greatest bits more : Nat} {bytes : List UInt8}

/-- The last byte of a character. -/
theorem decodeFrom_last (above : least ≤ b) (below : b ≤ greatest) (small : b < 256) :
    decodeFrom (some ⟨0, least, greatest, bits⟩) (UInt8.ofNat b :: bytes) =
      Char.ofNat (bits * 64 + (b - 0x80)) :: decodeFrom none bytes := by
  rw [decodeFrom_cons small, step, proceed, if_pos ⟨above, below⟩]
  rfl

/-- A byte of a character that needs more. -/
theorem decodeFrom_more (above : least ≤ b) (below : b ≤ greatest) (small : b < 256) :
    decodeFrom (some ⟨more + 1, least, greatest, bits⟩) (UInt8.ofNat b :: bytes) =
      decodeFrom (some ⟨more, 0x80, 0xBF, bits * 64 + (b - 0x80)⟩) bytes := by
  rw [decodeFrom_cons small, step, proceed, if_pos ⟨above, below⟩]
  rfl

theorem decodeFrom_lead {p : Pending} (begins : begin b = ([], some p)) (small : b < 256) :
    decodeFrom none (UInt8.ofNat b :: bytes) = decodeFrom (some p) bytes := by
  rw [decodeFrom_cons small, step, begins]
  rfl

/-- The lead byte of two. -/
theorem begin_two {a : Nat} (shortest : 2 ≤ a) (small : a < 32) :
    begin (a + 192) = ([], some ⟨0, 0x80, 0xBF, a⟩) := by
  have large : ¬ a + 192 < 0x80 := by omega
  have range : 0xC2 ≤ a + 192 ∧ a + 192 ≤ 0xDF := by omega
  rw [begin, if_neg large, if_pos range, Nat.add_sub_cancel]

/-- The lead byte of three, before a byte that leaves no shorter encoding and no surrogate. -/
theorem begin_three {a : Nat} (small : a < 16) (above : 0x80 ≤ b) (below : b ≤ 0xBF)
    (shortest : a = 0 → 0xA0 ≤ b) (scalar : a = 13 → b ≤ 0x9F) :
    ∃ least greatest, begin (a + 224) = ([], some ⟨1, least, greatest, a⟩) ∧
      least ≤ b ∧ b ≤ greatest := by
  have large : ¬ a + 224 < 0x80 := by omega
  have notTwo : ¬ (0xC2 ≤ a + 224 ∧ a + 224 ≤ 0xDF) := by omega
  rw [begin, if_neg large, if_neg notTwo]
  rcases Nat.eq_zero_or_pos a with rfl | positive
  · exact ⟨_, _, rfl, shortest rfl, below⟩
  · rcases Decidable.em (a = 13) with rfl | other
    · exact ⟨_, _, rfl, above, scalar rfl⟩
    · have range : 0xE1 ≤ a + 224 ∧ a + 224 ≤ 0xEF := by omega
      rw [if_neg (by omega), if_neg (by omega), if_pos range, Nat.add_sub_cancel]
      exact ⟨_, _, rfl, above, below⟩

/-- The lead byte of four, before a byte that leaves no shorter encoding and stays below the
last code point. -/
theorem begin_four {a : Nat} (small : a ≤ 4) (above : 0x80 ≤ b) (below : b ≤ 0xBF)
    (shortest : a = 0 → 0x90 ≤ b) (scalar : a = 4 → b ≤ 0x8F) :
    ∃ least greatest, begin (a + 240) = ([], some ⟨2, least, greatest, a⟩) ∧
      least ≤ b ∧ b ≤ greatest := by
  have large : ¬ a + 240 < 0x80 := by omega
  have notTwo : ¬ (0xC2 ≤ a + 240 ∧ a + 240 ≤ 0xDF) := by omega
  have notThree : ¬ (0xE1 ≤ a + 240 ∧ a + 240 ≤ 0xEF) := by omega
  rw [begin, if_neg large, if_neg notTwo, if_neg (by omega), if_neg (by omega), if_neg notThree]
  rcases Nat.eq_zero_or_pos a with rfl | positive
  · exact ⟨_, _, rfl, shortest rfl, below⟩
  · rcases Nat.lt_or_ge a 4 with less | last
    · have range : 0xF1 ≤ a + 240 ∧ a + 240 ≤ 0xF3 := by omega
      rw [if_neg (by omega), if_pos range, Nat.add_sub_cancel]
      exact ⟨_, _, rfl, above, below⟩
    · obtain rfl : a = 4 := Nat.le_antisymm small last
      exact ⟨_, _, rfl, above, scalar rfl⟩

/-! ## Characters -/

variable {v : Nat}

theorem decodeFrom_one (most : v ≤ 127) :
    decodeFrom none (UInt8.ofNat v :: bytes) = Char.ofNat v :: decodeFrom none bytes := by
  rw [decodeFrom_cons (by omega), step, begin, if_pos (by omega)]
  rfl

theorem decodeFrom_two (shortest : 127 < v) (most : v ≤ 2047) :
    decodeFrom none (UInt8.ofNat (v / 64 % 32 + 192) :: UInt8.ofNat (v % 64 + 128) :: bytes) =
      Char.ofNat v :: decodeFrom none bytes := by
  have lead := begin_two (a := v / 64 % 32) (by omega) (by omega)
  have value : v / 64 % 32 * 64 + (v % 64 + 128 - 0x80) = v := by omega
  rw [decodeFrom_lead lead (by omega), decodeFrom_last (by omega) (by omega) (by omega), value]

theorem decodeFrom_three (shortest : 2047 < v) (most : v ≤ 65535)
    (scalar : v < 0xD800 ∨ 0xDFFF < v) :
    decodeFrom none (UInt8.ofNat (v / 4096 % 16 + 224) :: UInt8.ofNat (v / 64 % 64 + 128) ::
        UInt8.ofNat (v % 64 + 128) :: bytes) =
      Char.ofNat v :: decodeFrom none bytes := by
  obtain ⟨_, _, lead, above, below⟩ := begin_three (a := v / 4096 % 16) (b := v / 64 % 64 + 128)
    (by omega) (by omega) (by omega) (by omega) (by omega)
  have value : (v / 4096 % 16 * 64 + (v / 64 % 64 + 128 - 0x80)) * 64 + (v % 64 + 128 - 0x80) =
      v := by omega
  rw [decodeFrom_lead lead (by omega), decodeFrom_more above below (by omega),
    decodeFrom_last (by omega) (by omega) (by omega), value]

theorem decodeFrom_four (shortest : 65535 < v) (most : v < 0x110000) :
    decodeFrom none (UInt8.ofNat (v / 262144 % 8 + 240) :: UInt8.ofNat (v / 4096 % 64 + 128) ::
        UInt8.ofNat (v / 64 % 64 + 128) :: UInt8.ofNat (v % 64 + 128) :: bytes) =
      Char.ofNat v :: decodeFrom none bytes := by
  obtain ⟨_, _, lead, above, below⟩ := begin_four (a := v / 262144 % 8)
    (b := v / 4096 % 64 + 128) (by omega) (by omega) (by omega) (by omega) (by omega)
  have value : ((v / 262144 % 8 * 64 + (v / 4096 % 64 + 128 - 0x80)) * 64 +
      (v / 64 % 64 + 128 - 0x80)) * 64 + (v % 64 + 128 - 0x80) = v := by omega
  rw [decodeFrom_lead lead (by omega), decodeFrom_more above below (by omega),
    decodeFrom_more (by omega) (by omega) (by omega),
    decodeFrom_last (by omega) (by omega) (by omega), value]

/-- The bytes of a character are decoded to it, whatever follows. -/
theorem decodeFrom_encodeChar (c : Char) (bytes : List UInt8) :
    decodeFrom none (String.utf8EncodeChar c ++ bytes) = c :: decodeFrom none bytes := by
  have valid : c.val.toNat < 0xD800 ∨ (0xDFFF < c.val.toNat ∧ c.val.toNat < 0x110000) := c.valid
  have same : Char.ofNat c.val.toNat = c := c.ofNat_toNat
  unfold String.utf8EncodeChar
  generalize c.val.toNat = v at valid same ⊢
  subst same
  simp only
  split
  · next one => exact decodeFrom_one one
  · split
    · next two => exact decodeFrom_two (by omega) two
    · split
      · next three => exact decodeFrom_three (by omega) three (by omega)
      · exact decodeFrom_four (by omega) (by omega)

/-- A text in UTF-8 is decoded to itself. -/
theorem decode_encode (text : String) : decode (encode text) = text.toList := by
  rw [decode, encode_eq]
  induction text.toList with
  | nil => rfl
  | cons c cs ih => rw [List.flatMap_cons, decodeFrom_encodeChar, ih]

end LoopRepair.Utf8
