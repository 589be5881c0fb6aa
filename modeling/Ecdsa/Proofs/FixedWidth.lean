import Ecdsa.IntegerForm
import Ecdsa.Proofs.BigEndian

/-!
# Numbers in a fixed width

A number is written in a width if it is not negative and has no more bytes. Besides there have to be
byte strings of the width: those of 2⁴⁰ bytes and more are refused, for reasons of the machine.
-/

namespace Ecdsa

variable {width : Numeral} {w : ℕ} {i : ℤ} {bytes : List UInt8}

lemma widthError?_eq_none_iff : widthError? (w : ℤ) = none ↔ w < 2 ^ 40 := by
  rw [widthError?]
  split_ifs <;> simp <;> omega

section Width

variable (hw : width.toInt = w)
include hw

lemma fixedWidth_eq_encode (hi : 0 ≤ i ∧ i < 256 ^ w) (h : widthError? (w : ℤ) = none) :
    fixedWidth width i = .ok (BigEndian.encode w i.toNat) := by
  have hbits := (BigEndian.bitLength_le_mul_iff hi.1 w).2 hi.2
  rw [fixedWidth, hw, if_neg hi.1.not_gt, if_neg hbits.not_gt, h, Int.toNat_natCast]

lemma fixedWidth_eq_widthError (hi : 0 ≤ i ∧ i < 256 ^ w) {e : Error}
    (h : widthError? (w : ℤ) = some e) : fixedWidth width i = .error e := by
  have hbits := (BigEndian.bitLength_le_mul_iff hi.1 w).2 hi.2
  rw [fixedWidth, hw, if_neg hi.1.not_gt, if_neg hbits.not_gt, h]

/-- Numbers that do not fit are blamed, whatever the width. -/
lemma exists_fixedWidth_eq_error (hi : ¬ (0 ≤ i ∧ i < 256 ^ w)) :
    ∃ e, fixedWidth width i = .error e ∧ e.BlamesValue := by
  by_cases hneg : i < 0
  · rw [fixedWidth, if_pos hneg]
    exact exists_reject_eq_error (Or.inl rfl)
  · have hbits : (BigEndian.bitLength i : ℤ) > w * 8 := by
      rw [gt_iff_lt, ← not_le, BigEndian.bitLength_le_mul_iff (not_lt.1 hneg)]
      omega
    rw [fixedWidth, hw, if_neg hneg, if_pos hbits]
    exact exists_reject_eq_error (Or.inl rfl)

/-- The bytes of a number are those that hold it, in a width that there is. -/
lemma fixedWidth_eq_ok_iff_decode :
    fixedWidth width i = .ok bytes ↔
      widthError? (w : ℤ) = none ∧ bytes.length = w ∧ (BigEndian.decode bytes : ℤ) = i := by
  rw [← BigEndian.eq_encode_toNat_iff]
  by_cases hi : 0 ≤ i ∧ i < 256 ^ w
  · cases h : widthError? (w : ℤ) with
    | some e => simp [fixedWidth_eq_widthError hw hi h]
    | none => simp [fixedWidth_eq_encode hw hi h, hi, eq_comm]
  · obtain ⟨e, he, -⟩ := exists_fixedWidth_eq_error hw hi
    simp [he, hi]

end Width

/-- The numbers that fit in a byte string of the width, which no memory is too small for. -/
lemma fixedWidth_eq_ok_iff {width : ℕ} (hwidth : width < 2 ^ 40) {i : ℤ} {bytes : List UInt8} :
    fixedWidth (width : ℤ) i = .ok bytes ↔
      (0 ≤ i ∧ i < 256 ^ width) ∧ bytes = BigEndian.encode width i.toNat := by
  rw [fixedWidth_eq_ok_iff_decode rfl, BigEndian.eq_encode_toNat_iff, widthError?_eq_none_iff,
    and_iff_right hwidth]

end Ecdsa
