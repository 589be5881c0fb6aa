import Ecdsa.Proofs.Modular.Inverse
import Mathlib.Data.ZMod.Basic

/-!
# Residues modulo a prime

Integers modulo a prime `p`, as elements of the field and as their reduced representatives.
-/

namespace Ecdsa.Modular

variable {p : ℤ} [hp : Fact p.toNat.Prime]

lemma p_pos : 0 < p := by
  have := hp.out.pos
  omega

@[simp] lemma natCast_toNat_p : (p.toNat : ℤ) = p :=
  Int.toNat_of_nonneg p_pos.le

@[simp, push_cast] lemma intCast_emod_p (i : ℤ) : ((i % p : ℤ) : ZMod p.toNat) = i := by
  have h := ZMod.intCast_mod i p.toNat
  rwa [natCast_toNat_p] at h

lemma intCast_eq_zero_iff {i : ℤ} : (i : ZMod p.toNat) = 0 ↔ i % p = 0 := by
  rw [ZMod.intCast_zmod_eq_zero_iff_dvd, natCast_toNat_p, Int.dvd_iff_emod_eq_zero]

lemma intCast_eq_of_modEq {i j : ℤ} (h : i ≡ j [ZMOD p]) : (i : ZMod p.toNat) = j := by
  rwa [ZMod.intCast_eq_intCast_iff, natCast_toNat_p]

/-- A reduced integer is the representative of its residue. -/
lemma val_intCast {i : ℤ} (h : 0 ≤ i ∧ i < p) : ((i : ZMod p.toNat).val : ℤ) = i := by
  rw [ZMod.val_intCast, natCast_toNat_p, Int.emod_eq_of_lt h.1 h.2]

lemma emod_p_eq_val (i : ℤ) : i % p = ((i : ZMod p.toNat).val : ℤ) := by
  rw [ZMod.val_intCast, natCast_toNat_p]

lemma val_nonneg_lt (x : ZMod p.toNat) : 0 ≤ (x.val : ℤ) ∧ (x.val : ℤ) < p := by
  have := ZMod.val_lt x
  have := natCast_toNat_p (p := p)
  omega

/-- Reduced integers of the same residue are the same. -/
lemma eq_of_intCast_eq {i j : ℤ} (hi : 0 ≤ i ∧ i < p) (hj : 0 ≤ j ∧ j < p)
    (h : (i : ZMod p.toNat) = j) : i = j := by
  rw [← val_intCast hi, h, val_intCast hj]

lemma emod_two_of_odd (odd : p ≠ 2) : p % 2 = 1 := by
  have := hp.out.eq_two_or_odd
  omega

lemma two_ne_zero_of_odd (odd : p ≠ 2) : (2 : ZMod p.toNat) ≠ 0 := by
  intro h
  have hdvd : p.toNat ∣ 2 := (ZMod.natCast_eq_zero_iff 2 _).1 (by exact_mod_cast h)
  have := (Nat.prime_dvd_prime_iff_eq hp.out Nat.prime_two).1 hdvd
  omega

end Ecdsa.Modular
