import LoopRepair.Text.Decimal
import Mathlib.Data.List.Induction

/-!
# Numerals

What it means that a text writes a number, said digit by digit and without
reference to the reader: a digit writes its value, and one more digit at the end
makes ten times as much and that digit's value. A signed numeral is a sign before
such digits. Leading zeros are numerals like any other, and so is minus zero.

The reader of operands accepts the signed numerals and nothing else
(`readSigned_eq_some_iff`), and every integer is written as one of its numerals
(`signedNumeral_writeSigned`). Reports write integers without a plus sign and go on
with other text; `write_append_inj` says that such a number can be told from its
surroundings.
-/

namespace LoopRepair.Decimal

/-- `Numeral digits n`: the ASCII digits, one or more of them, write `n`. -/
inductive Numeral : List Char → Nat → Prop
  | digit {d : Nat} : d < 10 → Numeral [d.digitChar] d
  | append {digits : List Char} {n d : Nat} :
      Numeral digits n → d < 10 → Numeral (digits ++ [d.digitChar]) (10 * n + d)

/-- `SignedNumeral cs n`: a sign and digits write `n`. -/
inductive SignedNumeral : List Char → Int → Prop
  | plus {digits : List Char} {n : Nat} : Numeral digits n → SignedNumeral ('+' :: digits) n
  | minus {digits : List Char} {n : Nat} : Numeral digits n → SignedNumeral ('-' :: digits) (-n)

variable {digits cs : List Char} {n : Nat}

/-! ## Digits -/

theorem exists_digitChar_of_isDigit {c : Char} (digit : c.isDigit = true) :
    ∃ d < 10, c = d.digitChar := by
  obtain ⟨least, greatest⟩ := Char.isDigit_iff_toNat.mp digit
  simp only [Char.reduceToNat] at least greatest
  refine ⟨c.toNat - 48, by omega, ?_⟩
  rw [← Char.toNat_inj, Nat.toNat_digitChar_of_lt_ten (by omega)]
  omega

theorem Numeral.digits_ne_nil (numeral : Numeral digits n) : digits ≠ [] := by
  cases numeral with
  | digit _ => exact List.cons_ne_nil _ _
  | append _ _ => exact List.append_ne_nil_of_right_ne_nil _ (List.cons_ne_nil _ _)

theorem Numeral.all_isDigit (numeral : Numeral digits n) : digits.all Char.isDigit = true := by
  induction numeral with
  | digit lt => simp [lt]
  | append _ lt ih => simp [ih, lt]

theorem Numeral.value_eq (numeral : Numeral digits n) : Nat.ofDigitChars 10 digits 0 = n := by
  induction numeral with
  | digit lt =>
    rw [Nat.ofDigitChars_cons_digitChar_of_lt_ten lt, Nat.ofDigitChars_nil]
    omega
  | append _ lt ih =>
    rw [Nat.ofDigitChars_append, ih, Nat.ofDigitChars_cons_digitChar_of_lt_ten lt,
      Nat.ofDigitChars_nil]

/-- Digits always write a number, the one their sum of powers gives. -/
theorem numeral_of_isDigit (nonempty : digits ≠ []) (all : ∀ c ∈ digits, c.isDigit = true) :
    Numeral digits (Nat.ofDigitChars 10 digits 0) := by
  -- Numerals grow at the end, so the induction takes off the last digit.
  induction digits using List.reverseRec with
  | nil => exact absurd rfl nonempty
  | append_singleton digits c ih =>
    obtain ⟨d, lt, rfl⟩ := exists_digitChar_of_isDigit (all c (by simp))
    rw [Nat.ofDigitChars_append, Nat.ofDigitChars_cons_digitChar_of_lt_ten lt, Nat.ofDigitChars_nil]
    by_cases first : digits = []
    · subst first
      simpa using Numeral.digit lt
    · exact (ih first fun c member => all c (List.mem_append_left _ member)).append lt

theorem numeral_toDigits (n : Nat) : Numeral (Nat.toDigits 10 n) n := by
  have all : ∀ c ∈ Nat.toDigits 10 n, c.isDigit = true := by
    intro c member
    exact Nat.isDigit_of_mem_toDigits (by decide) (by decide) member
  have written := numeral_of_isDigit Nat.toDigits_ne_nil all
  rwa [Nat.ofDigitChars_ten_toDigits] at written

/-- No digit is wasted: only zero is written with a zero in front. -/
theorem head?_toDigits_ne {n : Nat} (positive : 0 < n) : (Nat.toDigits 10 n).head? ≠ some '0' := by
  induction n using Nat.strongRecOn with
  | ind n ih =>
    rcases Nat.lt_or_ge n 10 with small | large
    · rw [Nat.toDigits_of_lt_base small, List.head?_cons]
      intro zero
      have values : n.digitChar.toNat = '0'.toNat := congrArg Char.toNat (Option.some.inj zero)
      rw [Nat.toNat_digitChar_of_lt_ten small] at values
      simp only [Char.reduceToNat] at values
      omega
    · -- The first digit is that of a tenth.
      have front := ih (n / 10) (by omega) (by omega)
      rw [Nat.toDigits_of_base_le (by decide) large, List.head?_append]
      cases first : (Nat.toDigits 10 (n / 10)).head? with
      | none => exact absurd (List.head?_eq_none_iff.mp first) Nat.toDigits_ne_nil
      | some c => rwa [first] at front

theorem toDigits_eq_zero_of_head? {n : Nat} (zero : (Nat.toDigits 10 n).head? = some '0') :
    Nat.toDigits 10 n = ['0'] := by
  rcases Nat.eq_zero_or_pos n with rfl | positive
  · rfl
  · exact absurd zero (head?_toDigits_ne positive)

/-! ## Signs -/

theorem SignedNumeral.readSigned_eq {n : Int} (numeral : SignedNumeral cs n) :
    readSigned cs = some n := by
  cases numeral with
  | plus digits => simp [readSigned, digits.digits_ne_nil, digits.value_eq, digits.all_isDigit]
  | minus digits => simp [readSigned, digits.digits_ne_nil, digits.value_eq, digits.all_isDigit]

theorem SignedNumeral.of_readSigned {n : Int} (read : readSigned cs = some n) :
    SignedNumeral cs n := by
  cases cs with
  | nil => cases read
  | cons s digits =>
    rw [readSigned] at read
    split at read
    · next written =>
      have numeral := numeral_of_isDigit written.1 (List.all_eq_true.mp written.2)
      split at read
      · next plus =>
        cases plus
        cases read
        exact .plus numeral
      · split at read
        · next minus =>
          cases minus
          cases read
          exact .minus numeral
        · cases read
    · cases read

theorem readSigned_eq_some_iff {n : Int} : readSigned cs = some n ↔ SignedNumeral cs n :=
  ⟨.of_readSigned, SignedNumeral.readSigned_eq⟩

theorem readSigned_eq_none_iff : readSigned cs = none ↔ ∀ n, ¬ SignedNumeral cs n := by
  simp only [Option.eq_none_iff_forall_ne_some, ne_eq, readSigned_eq_some_iff]

theorem toList_writeSigned (n : Int) :
    (writeSigned n).toList = sign n :: Nat.toDigits 10 n.natAbs := by
  rw [writeSigned, String.toList_ofList, Nat.toList_repr]

theorem signedNumeral_writeSigned (n : Int) : SignedNumeral (writeSigned n).toList n := by
  have digits := numeral_toDigits n.natAbs
  rw [toList_writeSigned]
  by_cases negative : n < 0
  · have numeral := SignedNumeral.minus digits
    rw [show -(n.natAbs : Int) = n by omega] at numeral
    simpa [sign, negative] using numeral
  · have numeral := SignedNumeral.plus digits
    rw [show (n.natAbs : Int) = n by omega] at numeral
    simpa [sign, negative] using numeral

/-! ## Numbers in running text -/

/-- The characters that numbers are written with, where no plus sign is written. -/
def isNumeralChar (c : Char) : Bool :=
  c = '-' || c.isDigit

theorem toList_write (n : Int) :
    (write n).toList = (if n < 0 then ['-'] else []) ++ Nat.toDigits 10 n.natAbs := by
  cases n with
  | ofNat n => simp [write, Nat.toList_repr]
  | negSucc n => simp [write, Nat.toList_repr, Int.negSucc_lt_zero]

theorem isNumeralChar_of_mem_write {c : Char} {n : Int} (member : c ∈ (write n).toList) :
    isNumeralChar c = true := by
  rw [toList_write, List.mem_append] at member
  rcases member with minus | digit
  · split at minus
    · rw [List.mem_singleton.mp minus]
      rfl
    · cases minus
  · simp [isNumeralChar, List.all_eq_true.mp (numeral_toDigits _).all_isDigit c digit]

theorem write_ne_nil (n : Int) : (write n).toList ≠ [] := by
  rw [toList_write]
  exact List.append_ne_nil_of_right_ne_nil _ Nat.toDigits_ne_nil

theorem write_injective {a b : Int} (same : (write a).toList = (write b).toList) : a = b := by
  have digits {m n : Nat} (same : Nat.toDigits 10 m = Nat.toDigits 10 n) : m = n := by
    have value := (numeral_toDigits m).value_eq
    rwa [same, (numeral_toDigits n).value_eq, eq_comm] at value
  have sign (n : Int) : '-' ∈ (write n).toList ↔ n < 0 := by
    have minus : '-' ∉ Nat.toDigits 10 n.natAbs := by
      intro member
      exact absurd (List.all_eq_true.mp (numeral_toDigits _).all_isDigit _ member) (by decide)
    rw [toList_write]
    split <;> simp [*]
  -- Both carry a minus sign or neither does; what is left are the digits.
  have signs : a < 0 ↔ b < 0 := by rw [← sign a, same, sign b]
  rw [toList_write, toList_write, if_congr signs rfl rfl] at same
  have sizes := digits (List.append_cancel_left same)
  omega

/-- Where something else follows, a number ends where it was written to end. -/
theorem write_append_inj {a b : Int} {rest rest' : List Char}
    (stops : ∀ c ∈ rest.head?, isNumeralChar c = false)
    (stops' : ∀ c ∈ rest'.head?, isNumeralChar c = false)
    (same : (write a).toList ++ rest = (write b).toList ++ rest') : a = b ∧ rest = rest' := by
  have taken {n : Int} {rest : List Char} (stops : ∀ c ∈ rest.head?, isNumeralChar c = false) :
      ((write n).toList ++ rest).takeWhile isNumeralChar = (write n).toList := by
    rw [List.takeWhile_append_of_pos fun _ => isNumeralChar_of_mem_write]
    cases rest with
    | nil => simp
    | cons c rest => simp [stops c rfl]
  have numbers : (write a).toList = (write b).toList := by
    rw [← taken stops, same, taken stops']
  rw [numbers] at same
  exact ⟨write_injective numbers, List.append_cancel_left same⟩

end LoopRepair.Decimal
