import Ecdsa.Proofs.Modular.Inverse

/-!
# Invertibility

Modulo a positive number, prime or not, a number has an inverse if the two have no common divisor.
Of the others the multiples of the modulus are told apart: for them the error is a refusal, which
callers react to, and otherwise it is one of another kind (`tellsInvertibility`).
-/

namespace Ecdsa.Modular

/-- A reduced inverse is the only one. -/
lemma eq_of_mul_modEq_one {m a x y : ℤ} (hx : 0 ≤ x ∧ x < m) (hy : 0 ≤ y ∧ y < m)
    (hax : a * x ≡ 1 [ZMOD m]) (hay : a * y ≡ 1 [ZMOD m]) : x = y := by
  refine eq_of_modEq hx hy ?_
  calc x
    _ = x * 1 := (mul_one x).symm
    _ ≡ x * (a * y) [ZMOD m] := hay.symm.mul_left x
    _ = a * x * y := by ring
    _ ≡ 1 * y [ZMOD m] := hax.mul_right y
    _ = y := one_mul y

/-- What has an inverse has no common divisor with the modulus. -/
lemma gcd_eq_one_of_mul_modEq_one {m a x : ℤ} (h : a * x ≡ 1 [ZMOD m]) : Int.gcd a m = 1 := by
  obtain ⟨k, hk⟩ := h.dvd
  rw [← Int.isCoprime_iff_gcd_eq_one]
  exact ⟨x, k, by linear_combination -hk⟩

section Outcome

variable {a : ℤ} {m : Numeral} (hm : 1 ≤ m.toInt)
include hm

/-- The message of the refusal can be written, as a modulus of many digits is shown in
hexadecimal. -/
lemma inverse_of_dvd (h : m.toInt ∣ a) : inverse a m = .error (.noInverseOfZero m) := by
  have hwritable : ∀ i ∈ (Error.noInverseOfZero m).decimals, HasDecimal i := by
    intro i hi
    exact Numeral.hasDecimal_of_mem_displayedDecimals (by omega) hi
  rw [inverse, if_neg (by omega), if_pos (Int.emod_eq_zero_of_dvd h),
    reject_of_hasDecimal hwritable]

lemma inverse_of_gcd_ne_one (h : ¬ m.toInt ∣ a) (hgcd : Int.gcd a m.toInt ≠ 1) :
    inverse a m = .error .notInvertible := by
  rw [inverse_of_not_dvd hm h, inverse?_eq_none (by omega) hgcd]

lemma exists_inverse (h : ¬ m.toInt ∣ a) (hgcd : Int.gcd a m.toInt = 1) :
    ∃ x, inverse a m = .ok x ∧ (1 ≤ x ∧ x < m.toInt) ∧ a * x ≡ 1 [ZMOD m.toInt] := by
  obtain ⟨x, hx, hrange, hmul⟩ := inverse?_eq_some (by omega) hgcd
  refine ⟨x, ?_, ⟨?_, hrange.2⟩, by rwa [mul_comm]⟩
  · rw [inverse_of_not_dvd hm h, hx]
  · -- Zero is an inverse modulo one only, of which every number is a multiple.
    by_contra hzero
    obtain rfl : x = 0 := by omega
    rw [zero_mul] at hmul
    have hunit : m.toInt ∣ 1 := by simpa using hmul.dvd
    exact h (hunit.trans (one_dvd a))

/-- A reduced inverse is found, and only if the number is not zero modulo `m`. -/
lemma inverse_eq_ok_iff {x : ℤ} :
    inverse a m = .ok x ↔ (1 ≤ x ∧ x < m.toInt) ∧ a * x ≡ 1 [ZMOD m.toInt] := by
  constructor
  · intro h
    by_cases hdvd : m.toInt ∣ a
    · rw [inverse_of_dvd hm hdvd] at h
      cases h
    by_cases hgcd : Int.gcd a m.toInt = 1
    · obtain ⟨x', hx', hspec⟩ := exists_inverse hm hdvd hgcd
      obtain rfl := Except.ok.inj (hx'.symm.trans h)
      exact hspec
    · rw [inverse_of_gcd_ne_one hm hdvd hgcd] at h
      cases h
  · rintro ⟨hrange, hmul⟩
    have hgcd := gcd_eq_one_of_mul_modEq_one hmul
    have hdvd := not_dvd_of_gcd_eq_one (by omega) hgcd
    obtain ⟨x', hx', hrange', hmul'⟩ := exists_inverse hm hdvd hgcd
    obtain rfl := eq_of_mul_modEq_one (by omega) (by omega) hmul' hmul
    exact hx'

lemma exists_inverse_iff :
    (∃ x, inverse a m = .ok x) ↔ ¬ m.toInt ∣ a ∧ Int.gcd a m.toInt = 1 := by
  constructor
  · rintro ⟨x, hx⟩
    obtain ⟨hrange, hmul⟩ := (inverse_eq_ok_iff hm).1 hx
    have hgcd := gcd_eq_one_of_mul_modEq_one hmul
    exact ⟨not_dvd_of_gcd_eq_one (by omega) hgcd, hgcd⟩
  · rintro ⟨hdvd, hgcd⟩
    obtain ⟨x, hx, -⟩ := exists_inverse hm hdvd hgcd
    exact ⟨x, hx⟩

lemma inverse_eq_error_iff {e : Error} :
    inverse a m = .error e ↔
      (e = .noInverseOfZero m ∧ m.toInt ∣ a) ∨
        e = .notInvertible ∧ ¬ m.toInt ∣ a ∧ 1 < Int.gcd a m.toInt := by
  by_cases hdvd : m.toInt ∣ a
  · simp [inverse_of_dvd hm hdvd, hdvd, eq_comm]
  by_cases hgcd : Int.gcd a m.toInt = 1
  · obtain ⟨x, hx, -⟩ := exists_inverse hm hdvd hgcd
    simp [hx, hdvd, hgcd]
  · have hpos : 0 < Int.gcd a m.toInt := Int.gcd_pos_of_ne_zero_right a (by omega)
    have hlt : 1 < Int.gcd a m.toInt := by omega
    simp [inverse_of_gcd_ne_one hm hdvd hgcd, hdvd, hlt, eq_comm]

end Outcome

/-- Inversion tells by its outcome whether a number is zero modulo `m`, has an inverse, or is
neither. -/
structure TellsInvertibility (a : ℤ) (m : Numeral) : Prop where
  /-- The inverse is the reduced one, which is not zero. -/
  eq_ok_iff : ∀ x : ℤ,
    inverse a m = .ok x ↔ (1 ≤ x ∧ x < m.toInt) ∧ a * x ≡ 1 [ZMOD m.toInt]
  exists_eq_ok_iff : (∃ x, inverse a m = .ok x) ↔ ¬ m.toInt ∣ a ∧ Int.gcd a m.toInt = 1
  /-- Multiples of the modulus are refused, so that every number is modulo one. -/
  rejected_iff : (∃ e, inverse a m = .error e ∧ e.kind = .rejected) ↔ m.toInt ∣ a
  eq_error_of_one : m.toInt = 1 → inverse a m = .error (.noInverseOfZero m)
  /-- Other numbers without inverse fail in another way. -/
  unreadable_iff : (∃ e, inverse a m = .error e ∧ e.kind = .unreadable) ↔
    ¬ m.toInt ∣ a ∧ 1 < Int.gcd a m.toInt
  /-- There is no third error. -/
  error_cases : ∀ e, inverse a m = .error e → e = .noInverseOfZero m ∨ e = .notInvertible

theorem tellsInvertibility (a : ℤ) (m : Numeral) (hm : 1 ≤ m.toInt) : TellsInvertibility a m where
  eq_ok_iff _ := inverse_eq_ok_iff hm
  exists_eq_ok_iff := exists_inverse_iff hm
  rejected_iff := by
    simp only [inverse_eq_error_iff hm]
    constructor
    · rintro ⟨e, ⟨rfl, hdvd⟩ | ⟨rfl, -⟩, hkind⟩
      · exact hdvd
      · cases hkind
    · intro hdvd
      exact ⟨_, Or.inl ⟨rfl, hdvd⟩, rfl⟩
  eq_error_of_one hone := inverse_of_dvd hm (hone ▸ one_dvd a)
  unreadable_iff := by
    simp only [inverse_eq_error_iff hm]
    constructor
    · rintro ⟨e, ⟨rfl, -⟩ | ⟨rfl, hspec⟩, hkind⟩
      · cases hkind
      · exact hspec
    · intro hspec
      exact ⟨_, Or.inr ⟨rfl, hspec⟩, rfl⟩
  error_cases e h := ((inverse_eq_error_iff hm).1 h).imp And.left And.left

theorem tellsInvertibility_twelve :
    1 ≤ (Numeral.int 12).toInt ∧ TellsInvertibility (-35) 12 ∧ TellsInvertibility (-34) 12 :=
  ⟨by decide, tellsInvertibility (-35) 12 (by decide), tellsInvertibility (-34) 12 (by decide)⟩

end Ecdsa.Modular
