import Ecdsa.PointEncoding
import Ecdsa.Proofs.BigEndian
import Ecdsa.Proofs.Curve.Arithmetic

/-!
# Key integers

The key integer of a point is its abscissa followed by its ordinate, each as many bytes as the field
prime has. Different points have different key integers.
-/

namespace Ecdsa.Curve

open Ecdsa.Modular

variable {c : Curve} {P Q : Point}

lemma p_le_pow_fieldSize (c : Curve) : c.p ≤ ((256 ^ c.fieldSize : ℕ) : ℤ) := by
  have := BigEndian.natAbs_lt_pow_byteLength c.p
  rw [fieldSize]
  omega

lemma toNat_lt_pow_fieldSize {i : ℤ} (hi : 0 ≤ i ∧ i < c.p) : i.toNat < 256 ^ c.fieldSize := by
  have := p_le_pow_fieldSize c
  omega

/-- The number that the key integer of a point is. -/
def keyNumber (c : Curve) (P : Point) : ℤ :=
  P.x * 256 ^ c.fieldSize + P.y

lemma decode_encodeUncompressed (hP : c.HasPoint P) :
    (BigEndian.decode ((c.encodeUncompressed P).drop 1) : ℤ) = c.keyNumber P := by
  have hx := hP.abscissa
  have hy := hP.ordinate
  rw [encodeUncompressed, List.cons_append, List.drop_one, List.tail_cons,
    BigEndian.decode_append, BigEndian.length_encode,
    BigEndian.decode_encode_of_lt (toNat_lt_pow_fieldSize hx),
    BigEndian.decode_encode_of_lt (toNat_lt_pow_fieldSize ⟨hy.1.le, hy.2⟩), keyNumber]
  push_cast
  rw [Int.toNat_of_nonneg hx.1, Int.toNat_of_nonneg hy.1.le]

/-- The key integer is the number of the uncompressed octets without the first. -/
lemma encode_keyNumber (hP : c.HasPoint P) :
    BigEndian.encode (c.fieldSize + c.fieldSize) (c.keyNumber P).toNat =
      BigEndian.encode c.fieldSize P.x.toNat ++ BigEndian.encode c.fieldSize P.y.toNat := by
  have hx := hP.abscissa
  have hy := hP.ordinate
  have hnat : c.keyNumber P = (P.x.toNat * 256 ^ c.fieldSize + P.y.toNat : ℕ) := by
    push_cast
    rw [keyNumber, Int.toNat_of_nonneg hx.1, Int.toNat_of_nonneg hy.1.le]
  rw [hnat, Int.toNat_natCast, BigEndian.encode_add (toNat_lt_pow_fieldSize hx)
    (toNat_lt_pow_fieldSize ⟨hy.1.le, hy.2⟩)]

lemma keyNumber_pos_lt (hP : c.HasPoint P) :
    0 < c.keyNumber P ∧ c.keyNumber P < 2 ^ (16 * c.fieldSize) := by
  have hx := hP.abscissa
  have hy := hP.ordinate
  have hp := p_le_pow_fieldSize c
  have hpow : (2 : ℤ) ^ (16 * c.fieldSize) = 256 ^ c.fieldSize * 256 ^ c.fieldSize := by
    rw [← pow_add, ← two_mul, show (256 : ℤ) = 2 ^ 8 by norm_num, ← pow_mul]
    congr 1
    ring
  push_cast at hp
  rw [keyNumber, hpow]
  constructor <;> nlinarith

lemma decodeUncompressed_encode (ha : c.hasArithmetic = true) (hP : c.HasPoint P) :
    c.decodeUncompressed (BigEndian.encode c.fieldSize P.x.toNat ++
      BigEndian.encode c.fieldSize P.y.toNat) = .ok P := by
  have hx := hP.abscissa
  have hy := hP.ordinate
  have hon := (contains_iff ha).2 (Or.inr hP)
  simp [decodeUncompressed, BigEndian.decode_encode_of_lt (toNat_lt_pow_fieldSize hx),
    BigEndian.decode_encode_of_lt (toNat_lt_pow_fieldSize ⟨hy.1.le, hy.2⟩), hx.1, hy.1.le, hon,
    hP.not_isInfinite, two_mul]

/-- The point is read back from its key integer. -/
lemma pointOfKeyInteger_keyNumber (ha : c.hasArithmetic = true) (hP : c.HasPoint P) :
    c.pointOfKeyInteger (c.keyNumber P) = .ok P := by
  rw [pointOfKeyInteger, if_pos (keyNumber_pos_lt hP), two_mul, encode_keyNumber hP]
  simp [decodePoint, Octets.sized, Octets.read, SizeRule.allows, two_mul,
    decodeUncompressed_encode ha hP]

/-- Points with the same key integer are the same. -/
lemma HasPoint.eq_of_keyNumber_eq (hP : c.HasPoint P) (hQ : c.HasPoint Q)
    (h : c.keyNumber P = c.keyNumber Q) : P = Q := by
  have hPy := hP.ordinate
  have hQy := hQ.ordinate
  have hsize := p_le_pow_fieldSize c
  push_cast at hsize
  have hpos : (0 : ℤ) < 256 ^ c.fieldSize := by positivity
  have hy : P.y = Q.y := by
    have hmod := congrArg (· % (256 ^ c.fieldSize : ℤ)) h
    simp only [keyNumber, Int.mul_add_emod_self_right] at hmod
    rwa [Int.emod_eq_of_lt hPy.1.le (by omega), Int.emod_eq_of_lt hQy.1.le (by omega)] at hmod
  have hx : P.x = Q.x := by
    rw [keyNumber, keyNumber, hy, add_left_inj] at h
    exact Int.eq_of_mul_eq_mul_right hpos.ne' h
  exact Point.ext hx hy

lemma keyInteger_eq_ok (ha : c.hasArithmetic = true) {Q : Coordinates} (hQ : Q.point = .ok P)
    (hP : c.HasPoint P) : c.keyInteger Q = .ok (c.keyNumber P) := by
  have hon := requireOnCurve_eq_ok hQ ((contains_iff ha).2 (Or.inr hP))
  simp only [keyInteger, encodePoint, hon, ok_bind, if_neg hP.not_isInfinite, pure_eq_ok]
  exact congrArg _ (decode_encodeUncompressed hP)

end Ecdsa.Curve
