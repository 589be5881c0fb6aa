import Ecdsa.Curve.Ordinate
import Ecdsa.Proofs.Modular.SquareRoot
import Ecdsa.Proofs.Curve.Group

/-!
# Ordinates

A finite point is known by its abscissa and the parity of its ordinate. Where a coordinate takes two
bytes or more, `ordinate` finds the ordinate of a given parity exactly if there is a point with the
abscissa; where the ordinate is zero it is given as zero or `p`, which a curve with an odd group is
free of. Where a coordinate takes one byte, `ordinate` is the abscissa for both parities.
-/

namespace Ecdsa.Curve

open Ecdsa.Modular

variable {c : Curve} [Fact c.p.toNat.Prime] {Q R : Point}

lemma satisfies_iff_sq : c.Satisfies Q ↔ (Q.y : c.Residue) ^ 2 = (c.cubic Q.x : ℤ) := by
  rw [Satisfies, ← intCast_eq_zero_iff, Int.cast_sub, Int.cast_mul, ← pow_two, sub_eq_zero]

/-- Points with the same abscissa are equal or opposite. -/
lemma HasPoint.ordinate_eq_or_eq_sub (hQ : c.HasPoint Q) (hR : c.HasPoint R) (hx : Q.x = R.x) :
    Q.y = R.y ∨ Q.y = c.p - R.y := by
  have hQR : (Q.y : c.Residue) ^ 2 = (R.y : c.Residue) ^ 2 := by
    rw [satisfies_iff_sq.1 hQ.satisfies, satisfies_iff_sq.1 hR.satisfies, hx]
  have hy := hQ.ordinate
  have hy' := hR.ordinate
  rcases sq_eq_sq_iff_eq_or_eq_neg.1 hQR with h | h
  · exact Or.inl (eq_of_intCast_eq (by omega) (by omega) h)
  · right
    refine eq_of_intCast_eq (p := c.p) (by omega) (by omega) ?_
    have hp : (c.p : c.Residue) = 0 := intCast_eq_zero_iff.2 Int.emod_self
    rw [Int.cast_sub, hp, zero_sub, h]

lemma HasPoint.eq_of_parity_eq (odd : c.p ≠ 2) (hQ : c.HasPoint Q) (hR : c.HasPoint R)
    (hx : Q.x = R.x) (hparity : Q.y % 2 = R.y % 2) : Q = R := by
  have hy : Q.y = R.y := by
    rcases hQ.ordinate_eq_or_eq_sub hR hx with h | h
    · exact h
    · have := emod_two_of_odd odd
      omega
  exact Point.ext hx hy

lemma HasPoint.opposite (hQ : c.HasPoint Q) : c.HasPoint ⟨Q.x, c.p - Q.y⟩ := by
  have hy := hQ.ordinate
  refine ⟨⟨by dsimp only; omega, by dsimp only; omega⟩, hQ.abscissa, ?_⟩
  have hp : (c.p : c.Residue) = 0 := intCast_eq_zero_iff.2 Int.emod_self
  rw [satisfies_iff_sq, Int.cast_sub, hp, zero_sub, neg_sq, satisfies_iff_sq.1 hQ.satisfies]

/-- The points with the same abscissa are opposite elements. -/
lemma HasPoint.element_opposite (odd : c.p ≠ 2) (hQ : c.HasPoint Q) :
    c.element ⟨Q.x, c.p - Q.y⟩ = -c.element Q := by
  have hp : (c.p : c.Residue) = 0 := intCast_eq_zero_iff.2 Int.emod_self
  rw [hQ.opposite.element_eq odd, hQ.element_eq odd, WeierstrassCurve.Affine.Point.neg_some]
  simp [hp]

/-- The opposite of an element is written with the opposite ordinate. -/
lemma pointOf_neg (odd : c.p ≠ 2) {A : c.Element} (hA : A + A ≠ 0) :
    c.pointOf (-A) = ⟨(c.pointOf A).x, c.p - (c.pointOf A).y⟩ := by
  have hP := hasPoint_pointOf odd hA
  have helement : c.element (c.pointOf A) = A := by
    apply element_pointOf odd
    intro h
    exact absurd h hA
  have hopposite := hP.element_opposite odd
  rw [helement] at hopposite
  rw [← hopposite, hP.opposite.pointOf_element odd]

/-- No other point has the abscissa of one with the ordinate zero. -/
lemma HasPoint.not_satisfies_zero (hQ : c.HasPoint Q) : ¬ c.Satisfies ⟨Q.x, 0⟩ := by
  intro h
  apply intCast_ordinate_ne_zero hQ
  have hroot := satisfies_iff_sq.1 h
  rw [Int.cast_zero, zero_pow two_ne_zero] at hroot
  have hsq := satisfies_iff_sq.1 hQ.satisfies
  rw [← hroot] at hsq
  exact pow_eq_zero_iff two_ne_zero |>.1 hsq

omit [Fact c.p.toNat.Prime] in
/-- Whatever has no ordinate is blamed. -/
lemma blamesValue_of_ordinate_eq_error (ha : c.hasArithmetic = true) {x : Numeral} {parity : ℤ}
    {e : Error} (h : c.ordinate x parity = .error e) : e.BlamesValue := by
  rw [ordinate] at h
  split_ifs at h with hparity hx hbyte
  · split at h
    · cases h
    · exact blamesValue_of_reject h (Or.inl rfl)
  · exact blamesValue_of_reject h (Or.inl rfl)
  · cases h
    exact Or.inl rfl

omit [Fact c.p.toNat.Prime] in
lemma p_ne_two_of_fieldSize (hsize : 2 ≤ c.fieldSize) : c.p ≠ 2 := by
  intro h
  rw [fieldSize, h] at hsize
  exact absurd hsize (by decide)

omit [Fact c.p.toNat.Prime] in
/-- Where a coordinate takes one byte, the ordinate is the abscissa for both parities. -/
lemma ordinate_of_fieldSize_eq_one (hbyte : c.fieldSize = 1) (ha : c.hasArithmetic = true)
    {x parity : ℤ} (hx : 0 ≤ x ∧ x < c.p) (hparity : parity = 0 ∨ parity = 1) :
    c.ordinate x parity = .ok x := by
  have hrange : 0 ≤ (Numeral.int x).toInt ∧ (Numeral.int x).toInt < c.p := hx
  simp only [ordinate, hparity, hrange, ha, hbyte, not_true_eq_false, if_false, if_true]
  rfl

section Ordinate

variable (hsize : 2 ≤ c.fieldSize) (ha : c.hasArithmetic = true)
include hsize ha

/-- The ordinate of either parity if there is one, zero or `p` where zero is the only one, and the
error that there is none otherwise. -/
lemma ordinate_cases {x parity : ℤ} (hx : 0 ≤ x ∧ x < c.p) (hparity : parity = 0 ∨ parity = 1) :
    (∃ y, c.ordinate x parity = .ok y ∧ c.HasPoint ⟨x, y⟩ ∧ y % 2 = parity) ∨
      (c.ordinate x parity = .ok (parity * c.p) ∧ c.Satisfies ⟨x, 0⟩) ∨
      c.ordinate x parity = .error (.noOrdinate x) ∧ ∀ y, ¬ c.Satisfies ⟨x, y⟩ := by
  have hrange : 0 ≤ (Numeral.int x).toInt ∧ (Numeral.int x).toInt < c.p := hx
  have hbytes : c.fieldSize ≠ 1 := by omega
  have odd := p_ne_two_of_fieldSize hsize
  simp only [ordinate, hparity, hrange, ha, hbytes, not_true_eq_false, if_false]
  cases hroot : squareRoot? c.p (c.cubic (Numeral.int x).toInt % c.p) with
  | none =>
    right; right
    constructor
    · apply reject_of_hasDecimal
      intro i hi
      exact Numeral.hasDecimal_of_mem_displayedDecimals hrange.1 hi
    · intro y hy
      apply not_isSquare_of_squareRoot?_eq_none odd hroot
      rw [intCast_emod_p]
      refine ⟨(y : c.Residue), ?_⟩
      rw [← pow_two]
      exact (satisfies_iff_sq.1 hy).symm
  | some y =>
    obtain ⟨hy, hsq⟩ := of_squareRoot?_eq_some hroot
    rw [intCast_emod_p] at hsq
    by_cases hy₀ : y = 0
    · obtain rfl := hy₀
      right; left
      refine ⟨?_, satisfies_iff_sq.2 hsq⟩
      rcases hparity with rfl | rfl <;> simp
    · left
      have hpoint : c.HasPoint ⟨x, y⟩ :=
        ⟨⟨by dsimp only; omega, hy.2⟩, hx, satisfies_iff_sq.2 hsq⟩
      refine ⟨_, rfl, ?_⟩
      split_ifs with h
      · exact ⟨hpoint, h⟩
      · refine ⟨hpoint.opposite, ?_⟩
        have := emod_two_of_odd odd
        omega

variable (hodd : c.HasOddGroup)
include hodd

/-- On a curve with an odd group zero is no ordinate. -/
lemma ordinate_spec {x parity : ℤ} (hx : 0 ≤ x ∧ x < c.p) (hparity : parity = 0 ∨ parity = 1) :
    (∃ y, c.ordinate x parity = .ok y ∧ c.HasPoint ⟨x, y⟩ ∧ y % 2 = parity) ∨
      c.ordinate x parity = .error (.noOrdinate x) ∧ ∀ y, ¬ c.HasPoint ⟨x, y⟩ := by
  rcases ordinate_cases hsize ha hx hparity with h | ⟨-, hzero⟩ | ⟨herror, hnone⟩
  · exact Or.inl h
  · exact absurd hzero (hodd.not_satisfies x)
  · exact Or.inr ⟨herror, fun y hy => hnone y hy.satisfies⟩

lemma ordinate_eq_ok_iff {x y parity : ℤ} :
    c.ordinate x parity = .ok y ↔ c.HasPoint ⟨x, y⟩ ∧ y % 2 = parity := by
  constructor
  · intro h
    have hparity : parity = 0 ∨ parity = 1 := by
      by_contra hparity
      simp [ordinate, hparity] at h
    have hx : 0 ≤ x ∧ x < c.p := by
      by_contra hx
      simp [ordinate, hparity, hx] at h
    rcases ordinate_spec hsize ha hodd hx hparity with ⟨y', hy', hpoint⟩ | ⟨herror, -⟩
    · obtain rfl := Except.ok.inj (hy'.symm.trans h)
      exact hpoint
    · cases herror.symm.trans h
  · rintro ⟨hpoint, rfl⟩
    rcases ordinate_spec hsize ha hodd hpoint.abscissa (Int.emod_two_eq_zero_or_one y) with
      ⟨y', hy', hpoint', hparity⟩ | ⟨-, hnone⟩
    · obtain rfl : y' = y :=
        congrArg Point.y (hpoint'.eq_of_parity_eq (p_ne_two_of_fieldSize hsize) hpoint rfl hparity)
      exact hy'
    · exact absurd hpoint (hnone y)

end Ordinate

end Ecdsa.Curve
