import Ecdsa.Modular.SquareRoot
import Ecdsa.Proofs.Modular.Residue
import Mathlib.NumberTheory.LegendreSymbol.Basic

/-!
# Square roots modulo an odd prime

The candidate is a square root of every number that has one: with `w` of order `2 ^ (k + 1)`, the
correction keeps `r² = a t` and the order of `t` a divisor of `2 ^ k`, until `t` is one.
-/

namespace Ecdsa.Modular

/-! ### The odd part -/

lemma splitTwos_spec (n : ℕ) : n = 2 ^ (splitTwos n).1 * (splitTwos n).2 := by
  fun_induction splitTwos n with
  | case1 n h => simp
  | case2 n h e q heq ih =>
    rw [heq] at ih
    rw [pow_succ, mul_assoc, mul_left_comm, ← ih]
    omega

lemma odd_splitTwos {n : ℕ} (hn : n ≠ 0) : (splitTwos n).2 % 2 = 1 := by
  fun_induction splitTwos n with
  | case1 n h => exact h.resolve_left hn
  | case2 n h e q heq ih =>
    rw [heq] at ih
    exact ih (by omega)

variable {p : ℤ}

/-- The root zero stays zero. -/
lemma correct_zero (k : ℕ) (w t : ℤ) : correct p k w t 0 = 0 := by
  induction k generalizing w t with
  | zero => rfl
  | succ k ih =>
    rw [correct, zero_mul, Int.zero_emod]
    split_ifs <;> exact ih _ _

variable [hp : Fact p.toNat.Prime]

/-! ### Powers -/

lemma emod_eq_val_of_eq {i : ℤ} {x : ZMod p.toNat} (h : (i : ZMod p.toNat) = x) :
    i % p = x.val := by
  rw [emod_p_eq_val, h]

lemma intCast_val (x : ZMod p.toNat) : (((x.val : ℕ) : ℤ) : ZMod p.toNat) = x := by
  rw [Int.cast_natCast, ZMod.natCast_zmod_val]

/-- Powers are those of the residue, reduced. -/
lemma power_eq_val (a : ℤ) (e : ℕ) : power p a e = ((a : ZMod p.toNat) ^ e).val := by
  unfold power
  refine ladder_induction (P := fun n (x : ℤ) => x = (((a : ZMod p.toNat) ^ n).val : ℤ)) ?_ ?_ ?_ e
  · exact emod_eq_val_of_eq (by simp)
  · rintro k x rfl
    refine emod_eq_val_of_eq ?_
    push_cast
    rw [ZMod.natCast_zmod_val, two_mul, pow_add]
  · rintro k x rfl
    refine emod_eq_val_of_eq ?_
    push_cast
    rw [ZMod.natCast_zmod_val, pow_succ]

@[simp] lemma intCast_power (a : ℤ) (e : ℕ) :
    (power p a e : ZMod p.toNat) = (a : ZMod p.toNat) ^ e := by
  rw [power_eq_val, intCast_val]

lemma power_nonneg_lt (a : ℤ) (e : ℕ) : 0 ≤ power p a e ∧ power p a e < p := by
  rw [power_eq_val]
  exact val_nonneg_lt _

lemma power_eq_iff {a i : ℤ} (e : ℕ) (hi : 0 ≤ i ∧ i < p) :
    power p a e = i ↔ (a : ZMod p.toNat) ^ e = i := by
  constructor
  · intro h
    rw [← intCast_power, h]
  · intro h
    exact eq_of_intCast_eq (power_nonneg_lt a e) hi (by rw [intCast_power, h])

lemma power_eq_one_iff {a : ℤ} (e : ℕ) : power p a e = 1 ↔ (a : ZMod p.toNat) ^ e = 1 := by
  have := hp.out.two_le
  rw [power_eq_iff e ⟨zero_le_one, by omega⟩, Int.cast_one]

lemma power_eq_sub_one_iff {a : ℤ} (e : ℕ) :
    power p a e = p - 1 ↔ (a : ZMod p.toNat) ^ e = -1 := by
  have hpos := p_pos (p := p)
  have hzero : (p : ZMod p.toNat) = 0 := intCast_eq_zero_iff.2 (Int.emod_self)
  rw [power_eq_iff e ⟨by omega, by omega⟩, Int.cast_sub, hzero, Int.cast_one, zero_sub]

/-! ### A number that is no square -/

/-- The search finds a number with the power minus one if there is one in reach. -/
lemma nonSquare_spec {tries : ℕ} {z i : ℤ} (hi : z ≤ i ∧ i < z + tries)
    (h : (i : ZMod p.toNat) ^ ((p - 1) / 2).toNat = -1) :
    (nonSquare p tries z : ZMod p.toNat) ^ ((p - 1) / 2).toNat = -1 := by
  induction tries generalizing z with
  | zero => omega
  | succ tries ih =>
    rw [nonSquare]
    split_ifs with hz
    · exact (power_eq_sub_one_iff _).1 hz
    · have hne : z ≠ i := by
        rintro rfl
        exact hz ((power_eq_sub_one_iff _).2 h)
      exact ih (by omega)

lemma half_pred (odd : p ≠ 2) : ((p - 1) / 2).toNat = p.toNat / 2 := by
  have := hp.out.eq_two_or_odd
  have := hp.out.two_le
  omega

lemma nonSquare_two (odd : p ≠ 2) :
    (nonSquare p p.toNat 2 : ZMod p.toNat) ^ ((p - 1) / 2).toNat = -1 := by
  have hchar : ringChar (ZMod p.toNat) ≠ 2 := by
    rw [ZMod.ringChar_zmod_n]
    omega
  obtain ⟨x, hx⟩ := FiniteField.exists_nonsquare hchar
  have hx₀ : x ≠ 0 := by
    rintro rfl
    exact hx (IsSquare.zero)
  have hx₁ : x ≠ 1 := by
    rintro rfl
    exact hx IsSquare.one
  have hpow : x ^ (p.toNat / 2) = -1 :=
    (ZMod.pow_div_two_eq_neg_one_or_one _ hx₀).resolve_left
      (mt (ZMod.euler_criterion _ hx₀).2 hx)
  have hval := val_nonneg_lt x
  have hval₀ : x.val ≠ 0 := by rwa [Ne, ZMod.val_eq_zero]
  have hval₁ : x.val ≠ 1 := by
    intro h
    exact hx₁ (by rw [← ZMod.natCast_zmod_val x, h, Nat.cast_one])
  refine nonSquare_spec (i := x.val) (by omega) ?_
  rw [intCast_val, half_pred odd, hpow]

/-! ### The correction -/

/-- The correction gives a root of `a` from one of `a t`. -/
lemma correct_sq {a : ZMod p.toNat} (k : ℕ) {w t r : ℤ}
    (hw : (w : ZMod p.toNat) ^ 2 ^ k = -1) (ht : (t : ZMod p.toNat) ^ 2 ^ k = 1)
    (hr : (r : ZMod p.toNat) ^ 2 = a * t) : (correct p k w t r : ZMod p.toNat) ^ 2 = a := by
  induction k generalizing w t r with
  | zero =>
    rw [pow_zero, pow_one] at ht
    rw [correct, hr, ht, mul_one]
  | succ k ih =>
    have hw₂ : ((w * w % p : ℤ) : ZMod p.toNat) ^ 2 ^ k = -1 := by
      rw [pow_succ', pow_mul] at hw
      push_cast
      rw [← pow_two, hw]
    rw [correct]
    split_ifs with hone
    · exact ih hw₂ ((power_eq_one_iff _).1 hone) hr
    · have hminus : (t : ZMod p.toNat) ^ 2 ^ k = -1 := by
        rw [pow_succ, pow_mul, pow_two] at ht
        exact (mul_self_eq_one_iff.1 ht).resolve_left (mt (power_eq_one_iff _).2 hone)
      refine ih hw₂ ?_ ?_
      · rw [intCast_emod_p, Int.cast_mul, mul_pow, hw₂, hminus, neg_mul_neg, one_mul]
      · push_cast
        rw [mul_pow, hr]
        ring

/-- Roots stay reduced. -/
lemma correct_nonneg_lt (k : ℕ) {w t r : ℤ} (hr : 0 ≤ r ∧ r < p) :
    0 ≤ correct p k w t r ∧ correct p k w t r < p := by
  induction k generalizing w t r with
  | zero => exact hr
  | succ k ih =>
    rw [correct]
    split_ifs
    · exact ih hr
    · exact ih (emod_nonneg_lt p_pos _)

/-! ### The root -/

lemma rootCandidate_nonneg_lt (a : ℤ) : 0 ≤ rootCandidate p a ∧ rootCandidate p a < p :=
  correct_nonneg_lt _ (power_nonneg_lt _ _)

/-- The candidate is a root of every square. -/
lemma rootCandidate_sq (odd : p ≠ 2) {a : ℤ} (h : IsSquare (a : ZMod p.toNat)) :
    (rootCandidate p a : ZMod p.toNat) ^ 2 = a := by
  have htwo := hp.out.two_le
  have hpredodd := hp.out.eq_two_or_odd
  have hsplit := splitTwos_spec (p - 1).toNat
  have hodd := odd_splitTwos (n := (p - 1).toNat) (by omega)
  rw [rootCandidate]
  obtain ⟨⟨e, q⟩, heq⟩ : ∃ eq, splitTwos (p - 1).toNat = eq := ⟨_, rfl⟩
  simp only [heq] at hsplit hodd ⊢
  by_cases ha : (a : ZMod p.toNat) = 0
  · have hzero : power p a ((q + 1) / 2) = 0 := by
      rw [power_eq_val, ha, zero_pow (by omega), ZMod.val_zero, Nat.cast_zero]
    rw [hzero, correct_zero, ha]
    simp
  · have he : e ≠ 0 := by
      rintro rfl
      rw [pow_zero, one_mul] at hsplit
      omega
    obtain ⟨k, rfl⟩ := Nat.exists_eq_succ_of_ne_zero he
    have hhalf : q * 2 ^ k = ((p - 1) / 2).toNat := by
      rw [Nat.succ_eq_add_one, pow_succ] at hsplit
      have : 2 ^ k * 2 * q = 2 * (q * 2 ^ k) := by ring
      omega
    refine correct_sq _ ?_ ?_ ?_
    · rw [intCast_power, ← pow_mul, Nat.succ_sub_one, hhalf, nonSquare_two odd]
    · rw [intCast_power, ← pow_mul, Nat.succ_sub_one, hhalf, half_pred odd]
      exact (ZMod.euler_criterion _ ha).1 h
    · rw [intCast_power, intCast_power, ← pow_mul, ← pow_succ',
        show (q + 1) / 2 * 2 = q + 1 by omega]

lemma of_squareRoot?_eq_some {a r : ℤ} (h : squareRoot? p a = some r) :
    (0 ≤ r ∧ r < p) ∧ (r : ZMod p.toNat) ^ 2 = a := by
  rw [squareRoot?] at h
  split_ifs at h with hsq
  obtain rfl := Option.some.inj h
  refine ⟨rootCandidate_nonneg_lt a, ?_⟩
  rw [pow_two]
  exact_mod_cast intCast_eq_of_modEq hsq

/-- Only numbers that are no squares have no root. -/
lemma not_isSquare_of_squareRoot?_eq_none (odd : p ≠ 2) {a : ℤ} (h : squareRoot? p a = none) :
    ¬ IsSquare (a : ZMod p.toNat) := by
  intro hsquare
  have hroot := rootCandidate_sq odd hsquare
  rw [squareRoot?] at h
  split_ifs at h with hsq
  apply hsq
  rw [emod_p_eq_val, emod_p_eq_val, Int.cast_mul, ← pow_two, hroot]

end Ecdsa.Modular
