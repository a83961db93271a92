import LoopRepair.Listing
import LoopRepair.Proofs.Numerals

/-!
# Operands

An integer has one numeral without needless zeros, and every other numeral of it has
only more zeros in front. `Spells` says in these terms which tokens stand for an
integer: a sign that fits it, any number of zeros, and then its digits. The sign of
zero is free.

Results:
1. `readSigned_eq_some_iff_spells`: these tokens are the ones that are read as the
   integer.
2. `briefest_iff`: of these tokens the written one is the shortest, and no other is as
   short, but that minus zero is as short as plus zero.
3. `operand_tokens_exact`: both together, for every token and every instruction.
-/

namespace LoopRepair.Decimal

/-! ## Tokens of an integer -/

/-- `Unpadded digits n`: the digits write `n`, and a zero is in front only where it is
the only digit. -/
structure Unpadded (digits : List Char) (n : Nat) : Prop where
  numeral : Numeral digits n
  zero_alone : digits.head? = some '0' → digits = ['0']

/-- `Signs s n`: the sign may stand before the digits of `n`. Zero may have either. -/
inductive Signs : Char → Int → Prop
  | plus {n : Int} : 0 ≤ n → Signs '+' n
  | minus {n : Int} : n ≤ 0 → Signs '-' n

/-- `Spells token n`: a sign, any number of zeros, and then the digits of `n`. -/
inductive Spells : List Char → Int → Prop
  | token {s : Char} {digits : List Char} {n : Int} (zeros : Nat) :
      Signs s n → Unpadded digits n.natAbs →
      Spells (s :: (List.replicate zeros '0' ++ digits)) n

/-- `Briefest token n`: no token of `n` is shorter, and that of zero has a plus sign. -/
structure Briefest (token : String) (n : Int) : Prop where
  spells : Spells token.toList n
  least : ∀ other : String, Spells other.toList n → token.length ≤ other.length
  plus : n = 0 → token.toList.head? = some '+'

variable {digits : List Char}

/-! ## Zeros in front -/

theorem numeral_zero : Numeral ['0'] 0 :=
  Numeral.digit (d := 0) (by decide)

theorem Numeral.cons_zero {n : Nat} (numeral : Numeral digits n) : Numeral ('0' :: digits) n := by
  induction numeral with
  | digit lt =>
    have two := numeral_zero.append lt
    rwa [Nat.mul_zero, Nat.zero_add] at two
  | append _ lt ih => exact ih.append lt

theorem Numeral.pad {n : Nat} (numeral : Numeral digits n) (zeros : Nat) :
    Numeral (List.replicate zeros '0' ++ digits) n := by
  induction zeros with
  | zero => exact numeral
  | succ zeros ih => exact ih.cons_zero

/-- After the digits of a number that is not zero, every digit counts. -/
theorem toDigits_append_digitChar {n d : Nat} (positive : 0 < n) (lt : d < 10) :
    Nat.toDigits 10 n ++ [d.digitChar] = Nat.toDigits 10 (10 * n + d) := by
  rw [← Nat.toDigits_of_lt_base lt, Nat.toDigits_append_toDigits (by decide) positive lt]

/-- The digits without needless zeros are the ones that are written. -/
theorem unpadded_iff {n : Nat} : Unpadded digits n ↔ digits = Nat.toDigits 10 n := by
  constructor
  · rintro ⟨numeral, alone⟩
    induction numeral with
    | digit lt => rw [Nat.toDigits_of_lt_base lt]
    | @append digits n d numeral lt ih =>
      -- The digits in front have no zero in front either, and so are not zero.
      have front : digits.head? ≠ some '0' := by
        intro zero
        have two := congrArg List.length (alone (by rw [List.head?_append, zero, Option.some_or]))
        rw [List.length_append] at two
        exact numeral.digits_ne_nil (List.length_eq_zero_iff.mp (Nat.succ.inj two))
      have tenth : digits = Nat.toDigits 10 n := ih fun zero => absurd zero front
      have positive : 0 < n := by
        rcases Nat.eq_zero_or_pos n with rfl | positive
        · exact absurd (congrArg List.head? tenth) front
        · exact positive
      rw [tenth, toDigits_append_digitChar positive lt]
  · rintro rfl
    exact ⟨numeral_toDigits n, toDigits_eq_zero_of_head?⟩

theorem Numeral.exists_unpadded {n : Nat} (numeral : Numeral digits n) :
    ∃ zeros core, digits = List.replicate zeros '0' ++ core ∧ Unpadded core n := by
  induction numeral with
  | digit lt => exact ⟨0, _, rfl, unpadded_iff.mpr (Nat.toDigits_of_lt_base lt).symm⟩
  | @append _ n d _ lt ih =>
    obtain ⟨zeros, core, rfl, unpadded⟩ := ih
    rw [unpadded_iff] at unpadded
    rcases Nat.eq_zero_or_pos n with rfl | positive
    · -- What was the only digit is one more zero in front.
      have digit : Unpadded [d.digitChar] (10 * 0 + d) := by
        rw [unpadded_iff, Nat.mul_zero, Nat.zero_add, Nat.toDigits_of_lt_base lt]
      rw [unpadded, Nat.toDigits_zero, ← List.replicate_succ']
      exact ⟨zeros + 1, _, rfl, digit⟩
    · have longer : Unpadded (core ++ [d.digitChar]) (10 * n + d) := by
        rw [unpadded_iff, unpadded, toDigits_append_digitChar positive lt]
      exact ⟨zeros, _, List.append_assoc _ _ _, longer⟩

/-! ## Reading tokens -/

theorem SignedNumeral.spells {cs : List Char} {n : Int} (numeral : SignedNumeral cs n) :
    Spells cs n := by
  cases numeral with
  | plus digits =>
    obtain ⟨zeros, core, rfl, unpadded⟩ := digits.exists_unpadded
    exact .token zeros (.plus (Int.natCast_nonneg _)) unpadded
  | @minus _ n digits =>
    obtain ⟨zeros, core, rfl, unpadded⟩ := digits.exists_unpadded
    refine .token zeros (.minus (by omega)) ?_
    rwa [Int.natAbs_neg]

theorem Spells.signedNumeral {cs : List Char} {n : Int} (spells : Spells cs n) :
    SignedNumeral cs n := by
  cases spells with
  | token zeros sign unpadded =>
    have padded := unpadded.numeral.pad zeros
    cases sign with
    | plus positive =>
      have numeral := SignedNumeral.plus padded
      rwa [Int.natAbs_of_nonneg positive] at numeral
    | minus negative =>
      have numeral := SignedNumeral.minus padded
      rwa [Int.ofNat_natAbs_of_nonpos negative, Int.neg_neg] at numeral

theorem readSigned_eq_some_iff_spells {cs : List Char} {n : Int} :
    readSigned cs = some n ↔ Spells cs n :=
  readSigned_eq_some_iff.trans ⟨SignedNumeral.spells, Spells.signedNumeral⟩

theorem readSigned_eq_none_iff_spells {cs : List Char} :
    readSigned cs = none ↔ ∀ n, ¬ Spells cs n := by
  simp only [Option.eq_none_iff_forall_ne_some, ne_eq, readSigned_eq_some_iff_spells]

/-- What is nearly an operand is none. -/
example : ["", "+", "12", "+-1", "--1", "- 1", "+1\n", "+1.5", "+0x1", "+\u0661"].all
    (fun token => (readSigned token.toList).isNone) = true := by
  decide

/-! ## The written token -/

theorem signs_sign (n : Int) : Signs (sign n) n := by
  unfold sign
  split
  · exact .minus (by omega)
  · exact .plus (by omega)

theorem spells_writeSigned (n : Int) : Spells (writeSigned n).toList n := by
  rw [toList_writeSigned]
  exact .token 0 (signs_sign n) (unpadded_iff.mpr rfl)

theorem Spells.length_writeSigned_le {cs : List Char} {n : Int} (spells : Spells cs n) :
    (writeSigned n).toList.length ≤ cs.length := by
  cases spells with
  | token zeros _ unpadded =>
    rw [unpadded_iff.mp unpadded, toList_writeSigned, List.length_cons, List.length_cons,
      List.length_append]
    omega

/-- A token that is no longer than the written one has no zeros in front, so it can
differ only in the sign. -/
theorem Spells.eq_writeSigned {cs : List Char} {n : Int} (spells : Spells cs n)
    (short : cs.length ≤ (writeSigned n).toList.length) (plus : n = 0 → cs.head? = some '+') :
    cs = (writeSigned n).toList := by
  cases spells with
  | @token s _ _ zeros signs unpadded =>
    rw [toList_writeSigned, unpadded_iff.mp unpadded, List.length_cons, List.length_cons,
      List.length_append, List.length_replicate] at short
    obtain rfl : zeros = 0 := by omega
    have signed : s = sign n := by
      unfold sign
      cases signs with
      | plus positive => rw [if_neg (by omega)]
      | minus negative =>
        have nonzero : n ≠ 0 := fun zero => absurd (plus zero) (by simp)
        rw [if_pos (by omega)]
    rw [toList_writeSigned, unpadded_iff.mp unpadded, signed]
    rfl

theorem briefest_iff {token : String} {n : Int} : Briefest token n ↔ token = writeSigned n := by
  constructor
  · rintro ⟨spells, least, plus⟩
    have short := least _ (spells_writeSigned n)
    rw [← String.length_toList, ← String.length_toList] at short
    exact String.toList_inj.mp (spells.eq_writeSigned short plus)
  · rintro rfl
    refine ⟨spells_writeSigned n, fun other spells => ?_, fun zero => ?_⟩
    · rw [← String.length_toList, ← String.length_toList]
      exact spells.length_writeSigned_le
    · rw [zero]
      decide

/-- A token is read as an integer exactly if it is a sign of the integer, any number of
zeros and its digits, and is not read if it spells no integer. An instruction has the
briefest of the tokens of its operand behind its opcode. -/
theorem operand_tokens_exact (token : String) (n : Int) (ins : Instr) :
    (readSigned token.toList = some n ↔ Spells token.toList n) ∧
    (readSigned token.toList = none ↔ ∀ n, ¬ Spells token.toList n) ∧
    ∃ operand : String, ins.text = ins.op.mnemonic ++ " " ++ operand ∧
      ∀ other, Briefest other ins.arg ↔ other = operand := by
  refine ⟨readSigned_eq_some_iff_spells, readSigned_eq_none_iff_spells, ?_⟩
  exact ⟨writeSigned ins.arg, rfl, fun _ => briefest_iff⟩

end LoopRepair.Decimal
