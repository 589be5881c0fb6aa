import Ecdsa.Modular.Inverse
import Mathlib.Data.Int.ModEq
import Mathlib.Tactic

/-!
# Inverses

The Euclidean algorithm keeps both remainders congruent to their factors times `a`, so that the
factor of the divisor one is an inverse of `a`.
-/

namespace Ecdsa.Modular

lemma emod_nonneg_lt {m : ℤ} (hm : 0 < m) (i : ℤ) : 0 ≤ i % m ∧ i % m < m :=
  ⟨Int.emod_nonneg i hm.ne', Int.emod_lt_of_pos i hm⟩

lemma emod_pos_lt {m i : ℤ} (hm : 0 < m) (hi : i % m ≠ 0) : 0 < i % m ∧ i % m < m :=
  ⟨lt_of_le_of_ne (emod_nonneg_lt hm i).1 (Ne.symm hi), (emod_nonneg_lt hm i).2⟩

lemma sub_pos_lt {m i : ℤ} (hi : 0 < i ∧ i < m) : 0 < m - i ∧ m - i < m :=
  ⟨sub_pos.2 hi.2, sub_lt_self m hi.1⟩

lemma not_dvd_of_pos_lt {m i : ℤ} (hi : 0 < i ∧ i < m) : ¬ m ∣ i := by
  intro h
  exact hi.2.not_ge (Int.le_of_dvd hi.1 h)

/-- Reduced numbers that are congruent are the same. -/
lemma eq_of_modEq {m i j : ℤ} (hi : 0 ≤ i ∧ i < m) (hj : 0 ≤ j ∧ j < m) (h : i ≡ j [ZMOD m]) :
    i = j := by
  rwa [Int.ModEq, Int.emod_eq_of_lt hi.1 hi.2, Int.emod_eq_of_lt hj.1 hj.2] at h

/-- The remainder of the negated number, unless both are zero. -/
lemma neg_emod_of_ne_zero {m i : ℤ} (hm : 0 < m) (hi : i % m ≠ 0) : -i % m = m - i % m := by
  have hrange := sub_pos_lt (emod_pos_lt hm hi)
  refine eq_of_modEq (emod_nonneg_lt hm _) ⟨hrange.1.le, hrange.2⟩ ?_
  calc -i % m
    _ ≡ -i [ZMOD m] := Int.mod_modEq _ _
    _ ≡ -(i % m) [ZMOD m] := (Int.mod_modEq i m).symm.neg
    _ ≡ m - i % m [ZMOD m] := by
      rw [Int.modEq_iff_dvd]
      exact ⟨1, by ring⟩

lemma fst_euclid (r₀ r₁ : ℕ) (t₀ t₁ : ℤ) : (euclid r₀ r₁ t₀ t₁).1 = Nat.gcd r₀ r₁ := by
  fun_induction euclid r₀ r₁ t₀ t₁ with
  | case1 r₀ t₀ t₁ => simp
  | case2 r₀ r₁ t₀ t₁ _ ih => rw [ih, Nat.gcd_comm r₁, ← Nat.gcd_rec, Nat.gcd_comm]

/-- The divisor is congruent to its factor times `a` if the remainders are. -/
lemma snd_euclid {m a : ℤ} (r₀ r₁ : ℕ) (t₀ t₁ : ℤ) (h₀ : r₀ ≡ t₀ * a [ZMOD m])
    (h₁ : r₁ ≡ t₁ * a [ZMOD m]) :
    (euclid r₀ r₁ t₀ t₁).1 ≡ (euclid r₀ r₁ t₀ t₁).2 * a [ZMOD m] := by
  fun_induction euclid r₀ r₁ t₀ t₁ with
  | case1 r₀ t₀ t₁ => exact h₀
  | case2 r₀ r₁ t₀ t₁ _ ih =>
    refine ih h₁ ?_
    have hmod : ((r₀ % r₁ : ℕ) : ℤ) = r₀ - (r₀ / r₁ : ℕ) * r₁ := by
      rw [Int.natCast_mod, Int.natCast_div, Int.emod_def, mul_comm]
    rw [hmod, sub_mul, mul_assoc]
    exact h₀.sub (h₁.mul_left _)

lemma natCast_toNat_emod {m : ℤ} (hm : 0 < m) (a : ℤ) : ((a % m).toNat : ℤ) = a % m :=
  Int.toNat_of_nonneg (emod_nonneg_lt hm a).1

/-- Of the modulus and the reduced number the algorithm finds the common divisor. -/
lemma fst_euclid_eq_gcd {m : ℤ} (hm : 0 < m) (a : ℤ) :
    (euclid m.natAbs (a % m).toNat 0 1).1 = Int.gcd a m := by
  rw [fst_euclid, Nat.gcd_comm, ← Int.natAbs_natCast (a % m).toNat, natCast_toNat_emod hm]
  exact Int.gcd_emod a m

/-- A number without common divisor with the modulus has an inverse, which is reduced. -/
lemma inverse?_eq_some {m a : ℤ} (hm : 0 < m) (h : Int.gcd a m = 1) :
    ∃ i, inverse? m a = some i ∧ (0 ≤ i ∧ i < m) ∧ i * a ≡ 1 [ZMOD m] := by
  have hdivisor := (fst_euclid_eq_gcd hm a).trans h
  have hfactor := snd_euclid (m := m) (a := a) m.natAbs (a % m).toNat 0 1
    (by rw [Int.natAbs_of_nonneg hm.le, zero_mul]; exact Int.modEq_zero_iff_dvd.2 dvd_rfl)
    (by rw [natCast_toNat_emod hm, one_mul]; exact Int.mod_modEq a m)
  rw [hdivisor] at hfactor
  refine ⟨_, if_pos hdivisor, ⟨Int.fmod_nonneg_of_pos _ hm, Int.fmod_lt_of_pos _ hm⟩, ?_⟩
  rw [Int.fmod_eq_emod_of_nonneg _ hm.le]
  exact ((Int.mod_modEq _ m).mul_right a).trans hfactor.symm

lemma inverse?_eq_none {m a : ℤ} (hm : 0 < m) (h : Int.gcd a m ≠ 1) : inverse? m a = none := by
  rw [← fst_euclid_eq_gcd hm] at h
  exact if_neg h

lemma gcd_eq_one_of_prime {m a : ℤ} (hm : m.toNat.Prime) (h : ¬ m ∣ a) : Int.gcd a m = 1 := by
  have hpos := hm.pos
  rw [Int.gcd_comm, Int.gcd, ← Nat.coprime_iff_gcd_eq_one,
    show m.natAbs = m.toNat by omega, hm.coprime_iff_not_dvd, ← Int.natCast_dvd,
    Int.toNat_of_nonneg (by omega)]
  exact h

/-- A modulus above one divides no number that it has no common divisor with. -/
lemma not_dvd_of_gcd_eq_one {m a : ℤ} (hm : 1 < m) (h : Int.gcd a m = 1) : ¬ m ∣ a := by
  intro hdvd
  have hself := (Int.gcd_eq_right_iff_dvd (by omega)).2 hdvd
  omega

lemma inverse_of_not_dvd {m : Numeral} {a : ℤ} (hm : 1 ≤ m.toInt) (h : ¬ m.toInt ∣ a) :
    inverse a m = (match inverse? m.toInt a with
      | some x => .ok x
      | none => .error .notInvertible) := by
  have hmod : ¬ a % m.toInt = 0 := mt Int.dvd_of_emod_eq_zero h
  rw [inverse, if_neg (by omega), if_neg hmod]
  rfl

lemma inverse_eq_ok {m a : ℤ} (hm : 1 < m) (h : Int.gcd a m = 1) :
    ∃ i, inverse a m = .ok i ∧ (0 ≤ i ∧ i < m) ∧ i * a ≡ 1 [ZMOD m] := by
  obtain ⟨i, hi, hspec⟩ := inverse?_eq_some (by omega) h
  refine ⟨i, ?_, hspec⟩
  have hdvd : ¬ (m : Numeral).toInt ∣ a := not_dvd_of_gcd_eq_one hm h
  rw [inverse_of_not_dvd (m := .int m) hm.le hdvd, Numeral.toInt_int, hi]

/-- The inverse of the negated number is the negated inverse. -/
lemma modEq_neg_of_inverse_sub {m a i j : ℤ} (hi : i * a ≡ 1 [ZMOD m])
    (hj : j * (m - a) ≡ 1 [ZMOD m]) : j ≡ -i [ZMOD m] := by
  obtain ⟨x, hx⟩ := hi.dvd
  obtain ⟨y, hy⟩ := hj.dvd
  rw [Int.modEq_iff_dvd]
  refine ⟨-(j * x + i * y + i * j), ?_⟩
  linear_combination -j * hx - i * hy

end Ecdsa.Modular
