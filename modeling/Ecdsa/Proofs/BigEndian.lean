import Ecdsa.BigEndian
import Mathlib.Tactic

/-!
# Numbers and their bytes

Numbers below `256 ^ width` are those that a byte string of this width can hold.
-/

namespace Ecdsa.BigEndian

lemma decode_append (xs ys : List UInt8) :
    decode (xs ++ ys) = decode xs * 256 ^ ys.length + decode ys := by
  induction ys generalizing xs with
  | nil => simp
  | cons y ys ih =>
    have hxs := ih (xs ++ [y])
    have hy := ih [y]
    rw [List.append_assoc, List.singleton_append, decode_append_singleton] at hxs
    rw [List.singleton_append, ← List.nil_append [y], decode_append_singleton] at hy
    rw [hxs, hy, List.length_cons, decode_nil]
    ring

lemma decode_encode_of_lt {width n : ℕ} (h : n < 256 ^ width) : decode (encode width n) = n := by
  rw [decode_encode, Nat.mod_eq_of_lt h]

/-- Numbers side by side are encoded side by side. -/
lemma encode_add {k m a b : ℕ} (ha : a < 256 ^ k) (hb : b < 256 ^ m) :
    encode (k + m) (a * 256 ^ m + b) = encode k a ++ encode m b := by
  have h := encode_decode (encode k a ++ encode m b)
  rwa [decode_append, List.length_append, length_encode, length_encode, decode_encode_of_lt ha,
    decode_encode_of_lt hb] at h

/-- A byte string is the numbers of its two parts, encoded side by side. -/
lemma encode_take_append_encode_drop {bytes : List UInt8} {k m : ℕ} (h : bytes.length = k + m) :
    encode k (decode (bytes.take k)) ++ encode m (decode (bytes.drop k)) = bytes := by
  have htake : (bytes.take k).length = k := by
    rw [List.length_take, h, Nat.min_eq_left (Nat.le_add_right k m)]
  have hdrop : (bytes.drop k).length = m := by
    rw [List.length_drop, h, Nat.add_sub_cancel_left]
  have hfront := encode_decode (bytes.take k)
  have hback := encode_decode (bytes.drop k)
  rw [htake] at hfront
  rw [hdrop] at hback
  rw [hfront, hback, List.take_append_drop]

lemma bitLength_le_iff {i : ℤ} {k : ℕ} : bitLength i ≤ k ↔ i.natAbs < 2 ^ k := by
  constructor
  · intro h
    exact (natAbs_lt_two_pow_bitLength i).trans_le (Nat.pow_le_pow_right two_pos h)
  · intro h
    rw [bitLength]
    split_ifs with hi
    · exact Nat.zero_le k
    · exact Nat.log2_lt (Int.natAbs_ne_zero.2 hi) |>.2 h

/-- Comparing the binary digits decides whether a number has bytes of the width. -/
lemma bitLength_le_mul_iff {i : ℤ} (hi : 0 ≤ i) (w : ℕ) :
    (bitLength i : ℤ) ≤ w * 8 ↔ i < 256 ^ w := by
  have hpow : (256 : ℤ) ^ w = ((2 ^ (w * 8) : ℕ) : ℤ) := by
    rw [mul_comm, pow_mul]
    norm_num
  have hbits : (bitLength i : ℤ) ≤ w * 8 ↔ bitLength i ≤ w * 8 := by
    rw [← Int.ofNat_le, Nat.cast_mul, Nat.cast_ofNat]
  rw [hbits, bitLength_le_iff, hpow]
  omega

/-- The bytes of the width that hold a number. -/
lemma eq_encode_toNat_iff {bytes : List UInt8} {w : ℕ} {i : ℤ} :
    ((0 ≤ i ∧ i < 256 ^ w) ∧ bytes = encode w i.toNat) ↔
      bytes.length = w ∧ (decode bytes : ℤ) = i := by
  have hcast : ((256 ^ w : ℕ) : ℤ) = 256 ^ w := by
    push_cast
    rfl
  constructor
  · rintro ⟨hi, rfl⟩
    refine ⟨length_encode w _, ?_⟩
    rw [decode_encode_of_lt (by omega), Int.toNat_of_nonneg hi.1]
  · rintro ⟨rfl, rfl⟩
    have hlt := decode_lt bytes
    refine ⟨by omega, ?_⟩
    rw [Int.toNat_natCast, encode_decode]

end Ecdsa.BigEndian
