import Ecdsa.Proofs.Curve.Arithmetic
import Ecdsa.Proofs.Curve.Secp256k1

/-!
# Sums of multiples

A sum of two multiples can be computed at once or from the multiples. On a curve with an odd group
both are the sum in the group, and so the same coordinates, if no triples collide on the way: the
infinite element is written in one way only, whatever the abscissas of the infinite points that were
given. After a collision only the digits that follow count, and the two are the same if these still
come to the same element (`sumOfMultiples_comparesSums`).
-/

namespace Ecdsa

/-- Coordinates are equal if their points are, a truth value counting for its number. -/
lemma Coordinates.beq_iff_of_point_eq {Q R : Coordinates} {P T : Point} (hQ : Q.point = .ok P)
    (hR : R.point = .ok T) : (Q == R) = true ↔ P = T := by
  match Q, R, hQ, hR with
  | [x, y], [x', y'], hQ, hR =>
    rw [← Except.ok.inj hQ, ← Except.ok.inj hR]
    simp

namespace Curve

open Ecdsa.Modular

variable {c : Curve}

/-! ### Scalars in any form -/

section Scalars

variable [PointAddition]

/-- Of the form of a scalar only its value counts. -/
lemma mult_of_value {m : IntegerForm} {i : ℤ} (hm : m.value = .ok i) (Q : Coordinates) :
    c.mult m Q = c.mult (.number (.int i)) Q := by
  simp only [mult, hm, value_number]

lemma sumOfMultiples_of_value {u v : IntegerForm} {i j : ℤ} (hu : u.value = .ok i)
    (hv : v.value = .ok j) (H G : Coordinates) :
    c.sumOfMultiples u H v G = c.sumOfMultiples (.number (.int i)) H (.number (.int j)) G := by
  simp only [sumOfMultiples, hu, hv, value_number]

end Scalars

/-- The sum of two multiples by reduced scalars, and the sum of the multiples. -/
structure ComparesSums (c : Curve) [Fact c.p.toNat.Prime] (u : ℤ) (P : Point) (v : ℤ) (Q : Point)
    (R S : Coordinates) : Prop where
  /-- Both are the sums in the group for the factors that count. -/
  joint : R.point = .ok (c.pointOf (c.combination P Q (c.jointFactors c.Collides u P v Q)))
  separate : S.point =
    .ok (c.pointOf (c.combination P Q (c.separateFactors c.Collides u P v Q)))
  /-- So they are the same if these come to the same element. -/
  beq_iff : (R == S) = true ↔ c.combination P Q (c.jointFactors c.Collides u P v Q) =
    c.combination P Q (c.separateFactors c.Collides u P v Q)
  /-- They are wherever the sum is made of the multiples, or of one of them: for scalars that are
  zero, infinite points, opposite points, and the generator twice. -/
  of_not_joinsDigits : ¬ c.JoinsDigits u P v Q → (R == S) = true
  /-- And wherever no triples collide; then they are the sum by the scalars as they are. -/
  of_sumsFreely : c.SumsFreely c.Collides u P v Q →
    (R == S) = true ∧ R.point = .ok (c.pointOf (c.combination P Q (u, v)))

/-! ### Sums of results -/

section Sums

variable [Fact c.p.toNat.Prime] (hc : c.HasOddPrimeOrder)
include hc

/-- The coordinates of two elements are added to those of the sum. Triples of coordinates are
reduced and do not collide. -/
lemma exists_add {A B : c.Element} (hA : A + A = 0 → A = 0) (hB : B + B = 0 → B = 0)
    {Q R : Coordinates} (hQ : Q.point = .ok (c.pointOf A)) (hR : R.point = .ok (c.pointOf B)) :
    ∃ S, c.add Q R = .ok S ∧ S.point = .ok (c.pointOf (A + B)) := by
  rw [add, requireOnCurve_pointOf hc.isUsable hQ, ok_bind, requireOnCurve_pointOf hc.isUsable hR,
    ok_bind]
  split_ifs with hBinfinite hAinfinite
  · rw [← add_self_eq_zero_iff hc.p_ne_two] at hBinfinite
    rw [hB hBinfinite, add_zero]
    exact ⟨Q, rfl, hQ⟩
  · rw [← add_self_eq_zero_iff hc.p_ne_two] at hAinfinite
    rw [hA hAinfinite, zero_add]
    exact ⟨R, rfl, hR⟩
  · rw [← add_self_eq_zero_iff hc.p_ne_two] at hBinfinite hAinfinite
    rw [affine_sum (addsInGroup_standardAddition hc.p_ne_two) hc.p_ne_two
      (hasPoint_pointOf hc.p_ne_two hAinfinite) (hasPoint_pointOf hc.p_ne_two hBinfinite),
      element_pointOf hc.p_ne_two hA, element_pointOf hc.p_ne_two hB]
    exact ⟨_, rfl, Coordinates.point_coordinates _⟩

/-- A multiple is that by the factor that counts for the reduced scalar. -/
lemma exists_mult_counted {Q : Coordinates} {P : Point} (hQ : Q.point = .ok P)
    (hP : P.IsInfinite ∨ c.HasPoint P) (m : ℤ) :
    ∃ R, c.mult (.number (.int m)) Q = .ok R ∧
      R.point = .ok (c.pointOf (c.countedFactor c.Collides (m % c.n) P • c.element P)) :=
  exists_mult_of_multiple hc hQ hP (multiple_affine_counted
    (addsInGroup_standardAddition hc.p_ne_two) hc hP (emod_nonneg_lt hc.n_pos m))

/-- So is a multiple by a scalar that is not reduced. -/
lemma exists_unreducedMultiple_counted {Q : Coordinates} {P : Point} (hQ : Q.point = .ok P)
    (hP : P.IsInfinite ∨ c.HasPoint P) {m : ℤ} (hm : 0 ≤ m) :
    ∃ R, c.unreducedMultiple m Q = .ok R ∧
      R.point = .ok (c.pointOf (c.ladderFactor c.Collides m P • c.element P)) := by
  have law := addsInGroup_standardAddition (c := c) hc.p_ne_two
  refine exists_unreducedMultiple_of_affine hc hQ hP hm ?_ fun hfinite =>
    affine_multiple_counted law hc.p_ne_two hfinite m
  rintro (rfl | hinfinite)
  · rw [ladderFactor_zero, zero_zsmul, pointOf_zero]
  · rw [element_of_isInfinite hinfinite, zsmul_zero, pointOf_zero]

/-- A sum of multiples is that by the factors that count for the reduced scalars. -/
lemma exists_sumOfMultiples_counted {H G : Coordinates} {P Q : Point} (hH : H.point = .ok P)
    (hG : G.point = .ok Q) (hP : P.IsInfinite ∨ c.HasPoint P) (hQ : Q.IsInfinite ∨ c.HasPoint Q)
    (u v : ℤ) :
    ∃ R, c.sumOfMultiples (.number (.int u)) H (.number (.int v)) G = .ok R ∧
      R.point = .ok (c.pointOf
        (c.combination P Q (c.jointFactors c.Collides (u % c.n) P (v % c.n) Q))) := by
  have law := addsInGroup_standardAddition (c := c) hc.p_ne_two
  refine exists_sumOfMultiples_of_jointMultiple hc hH hG hP hQ ?_ ?_ fun hP hQ hu hv =>
    jointMultiple_affine_counted law hc hP hQ hu hv
  · intro hleft
    have hseparate : ¬ c.JoinsDigits (u % c.n) P (v % c.n) Q := fun h => not_or.2 h.1 hleft
    rw [multiple_affine_counted law hc hQ (emod_nonneg_lt hc.n_pos v), jointFactors,
      if_neg hseparate, combination, separateFactors, countedFactor_zsmul_eq_zero hleft, zero_add]
  · intro hright
    have hseparate : ¬ c.JoinsDigits (u % c.n) P (v % c.n) Q := fun h => not_or.2 h.2.1 hright
    rw [multiple_affine_counted law hc hP (emod_nonneg_lt hc.n_pos u), jointFactors,
      if_neg hseparate, combination, separateFactors, countedFactor_zsmul_eq_zero hright, add_zero]

/-- Coordinates of elements are equal if the elements are. -/
lemma beq_iff_eq_of_point_eq (hodd : c.HasOddGroup) {A B : c.Element} {Q R : Coordinates}
    (hQ : Q.point = .ok (c.pointOf A)) (hR : R.point = .ok (c.pointOf B)) :
    (Q == R) = true ↔ A = B := by
  rw [Coordinates.beq_iff_of_point_eq hQ hR]
  constructor
  · intro h
    have helement := congrArg c.element h
    rwa [element_pointOf hc.p_ne_two hodd.eq_zero_of_add_self,
      element_pointOf hc.p_ne_two hodd.eq_zero_of_add_self] at helement
  · exact congrArg c.pointOf

/-- The sum of two multiples and the sum of the multiples, for all points on the curve and scalars in
any form. -/
theorem sumOfMultiples_comparesSums (hodd : c.HasOddGroup) {u v : IntegerForm} {i j : ℤ}
    (hu : u.value = .ok i) (hv : v.value = .ok j) {H G : Coordinates} {P Q : Point}
    (hH : c.requireOnCurve H = .ok P) (hG : c.requireOnCurve G = .ok Q) :
    ∃ R R₁ R₂ S, c.sumOfMultiples u H v G = .ok R ∧
      c.mult u H = .ok R₁ ∧ c.mult v G = .ok R₂ ∧ c.add R₁ R₂ = .ok S ∧
      c.ComparesSums (i % c.n) P (j % c.n) Q R S := by
  obtain ⟨hHpoint, hPon⟩ := of_requireOnCurve_eq_ok hH
  obtain ⟨hGpoint, hQon⟩ := of_requireOnCurve_eq_ok hG
  rw [contains_iff hc.hasArithmetic] at hPon hQon
  rw [sumOfMultiples_of_value hu hv, mult_of_value hu, mult_of_value hv]
  obtain ⟨R, hR, hRpoint⟩ := exists_sumOfMultiples_counted hc hHpoint hGpoint hPon hQon i j
  obtain ⟨R₁, hR₁, hpoint₁⟩ := exists_mult_counted hc hHpoint hPon i
  obtain ⟨R₂, hR₂, hpoint₂⟩ := exists_mult_counted hc hGpoint hQon j
  obtain ⟨S, hS, hSpoint⟩ := exists_add hc hodd.eq_zero_of_add_self hodd.eq_zero_of_add_self
    hpoint₁ hpoint₂
  have hiff := beq_iff_eq_of_point_eq hc hodd hRpoint hSpoint
  refine ⟨R, R₁, R₂, S, hR, hR₁, hR₂, hS, hRpoint, hSpoint, hiff, ?_, ?_⟩
  · intro hseparate
    rw [hiff, jointFactors, if_neg hseparate]
    rfl
  · intro hfree
    have hjoint := hfree.jointFactors_eq
    rw [← hjoint]
    have hsame := hjoint.trans hfree.separateFactors_eq.symm
    exact ⟨hiff.2 (congrArg (c.combination P Q) hsame), hRpoint⟩

end Sums

/-- Two points that are gone through at once, minus five times by a number in hexadecimal and seven
times by a byte. -/
theorem sumOfMultiples_comparesSums_small :
    small.JoinsDigits (-5 % small.n) ⟨114, 46⟩ (7 % small.n) ⟨65, 96⟩ ∧
      ∃ R R₁ R₂ S,
        small.sumOfMultiples (.octets (.hex " -0X05")) (⟨114, 46⟩ : Point) (.octets (.bytes [7]))
          (⟨65, 96⟩ : Point) = .ok R ∧
        small.mult (.octets (.hex " -0X05")) (⟨114, 46⟩ : Point) = .ok R₁ ∧
        small.mult (.octets (.bytes [7])) (⟨65, 96⟩ : Point) = .ok R₂ ∧ small.add R₁ R₂ = .ok S ∧
        (R == S) = true ∧
        R.point = .ok (small.pointOf
          (small.combination ⟨114, 46⟩ ⟨65, 96⟩ (-5 % small.n, 7 % small.n))) := by
  refine ⟨by decide +kernel, ?_⟩
  obtain ⟨R, R₁, R₂, S, hR, hR₁, hR₂, hS, hsums⟩ :=
    sumOfMultiples_comparesSums small_hasOddPrimeOrder small_hasOddGroup
      (u := .octets (.hex " -0X05")) (v := .octets (.bytes [7])) rfl rfl
      (H := (⟨114, 46⟩ : Point)) (G := (⟨65, 96⟩ : Point)) rfl rfl
  obtain ⟨heq, hpoint⟩ := hsums.of_sumsFreely
    ⟨.inr (by decide +kernel), .inr (by decide +kernel), fun _ => by decide +kernel⟩
  exact ⟨R, R₁, R₂, S, hR, hR₁, hR₂, hS, heq, hpoint⟩

/-- On secp256k1 seven times minus four times a point and 36 times the point collide: their sum is
infinite, though it is eight times the point from the multiples. -/
theorem not_forall_sumOfMultiples_eq_add :
    ¬ ∀ (c : Curve) [Fact c.p.toNat.Prime] (u v : IntegerForm) (i j : ℤ) (H G : Coordinates)
      (P Q : Point), c.HasOddPrimeOrder → c.HasOddGroup → u.value = .ok i → v.value = .ok j →
        c.requireOnCurve H = .ok P → c.requireOnCurve G = .ok Q →
          ∃ R R₁ R₂ S, c.sumOfMultiples u H v G = .ok R ∧ c.mult u H = .ok R₁ ∧
            c.mult v G = .ok R₂ ∧ c.add R₁ R₂ = .ok S ∧ (R == S) = true := by
  intro h
  have hH := requireOnCurve_eq_ok (Coordinates.point_coordinates Secp256k1.collisionMultiple)
    ((contains_iff rfl).2 (Or.inr Secp256k1.hasPoint_collisionMultiple))
  have hG := requireOnCurve_eq_ok (Coordinates.point_coordinates Secp256k1.collisionPoint)
    ((contains_iff rfl).2 (Or.inr Secp256k1.hasPoint_collisionPoint))
  obtain ⟨R, R₁, R₂, S, hR, hR₁, hR₂, hS, heq⟩ := h secp256k1 (.number (.int 7))
    (.number (.int 36)) 7 36 Secp256k1.collisionMultiple Secp256k1.collisionPoint _ _
    Secp256k1.hasOddPrimeOrder Secp256k1.hasOddGroup rfl rfl hH hG
  have heval : (do
      let R ← secp256k1.sumOfMultiples (.number (.int 7)) Secp256k1.collisionMultiple
        (.number (.int 36)) Secp256k1.collisionPoint
      let R₁ ← secp256k1.mult (.number (.int 7)) Secp256k1.collisionMultiple
      let R₂ ← secp256k1.mult (.number (.int 36)) Secp256k1.collisionPoint
      let S ← secp256k1.add R₁ R₂
      return R == S).toOption = some false := by
    decide +kernel
  rw [hR, ok_bind, hR₁, ok_bind, hR₂, ok_bind, hS, ok_bind, heq] at heval
  cases heval

end Curve

end Ecdsa
