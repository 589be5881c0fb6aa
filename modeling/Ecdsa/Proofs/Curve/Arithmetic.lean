import Ecdsa.Proofs.Curve.GroupLaw

/-!
# Multiples by scalars

A curve that computes in its group gives, for every factor and all points on the curve, the
coordinates of the multiple by the reduced factor. The coordinates come back as they were given
where nothing is computed, so the statements are about the point that the coordinates make.
-/

namespace Ecdsa

/-- Two coordinates are the first two, and all of them. -/
lemma Coordinates.firstTwo_of_point_eq_ok {Q : Coordinates} {P : Point} (h : Q.point = .ok P) :
    Q.firstTwo = .ok P ∧ Q.take 2 = Q := by
  match Q, h with
  | [x, y], h => exact ⟨h, rfl⟩

namespace Curve

open Ecdsa.Modular

variable {c : Curve}

/-- The point of coordinates that are on the curve. -/
lemma requireOnCurve_eq_ok {Q : Coordinates} {P : Point} (hQ : Q.point = .ok P)
    (h : c.contains P = .ok true) : c.requireOnCurve Q = .ok P := by
  simp only [requireOnCurve, hQ, h, bind, Except.bind]
  rfl

lemma of_requireOnCurve_eq_ok {Q : Coordinates} {P : Point} (h : c.requireOnCurve Q = .ok P) :
    Q.point = .ok P ∧ c.contains P = .ok true := by
  cases hQ : Q.point with
  | error e => simp [requireOnCurve, hQ, bind, Except.bind] at h
  | ok R =>
    have hR : c.requireOnCurve R = .ok P := by
      simpa only [requireOnCurve, hQ, Coordinates.point_coordinates] using h
    obtain ⟨hcontains, rfl⟩ := requireOnCurve_eq_ok_iff.1 hR
    exact ⟨rfl, hcontains⟩

lemma isInfinite_or_hasPoint_of_requireOnCurve (ha : c.hasArithmetic = true) {Q : Coordinates}
    {P : Point} (h : c.requireOnCurve Q = .ok P) : P.IsInfinite ∨ c.HasPoint P :=
  (contains_iff ha).1 (of_requireOnCurve_eq_ok h).2

/-- The coordinates of any element are on the curve. -/
lemma requireOnCurve_pointOf [Fact c.p.toNat.Prime] (hc : c.IsUsable) {A : c.Element}
    {Q : Coordinates} (hQ : Q.point = .ok (c.pointOf A)) :
    c.requireOnCurve Q = .ok (c.pointOf A) :=
  requireOnCurve_eq_ok hQ
    ((contains_iff hc.hasArithmetic).2 (isInfinite_or_hasPoint_pointOf hc.p_ne_two A))

lemma reduce_eq_ok (hn : 0 < c.n) (m : ℤ) : c.reduce m = .ok (m % c.n) := by
  rw [reduce, if_neg hn.ne', Int.fmod_eq_emod_of_nonneg _ hn.le]

/-- The multiple by a scalar that is not negative. -/
lemma unreducedMultiple_eq [PointAddition] (ha : c.hasArithmetic = true) {Q : Coordinates}
    {P : Point} (hQ : Q.point = .ok P) {m : ℤ} (hm : 0 ≤ m) :
    c.unreducedMultiple m Q = if m = 0 ∨ P.IsInfinite then .ok Point.infinity else do
      let R ← c.affine (.multiple c.p c.a m P)
      return if m = 1 then Q else R := by
  obtain ⟨hfirst, htake⟩ := Coordinates.firstTwo_of_point_eq_ok hQ
  by_cases hzero : m = 0
  · simp [unreducedMultiple, hzero, pure, Except.pure]
  · by_cases hinfinite : P.IsInfinite <;>
      simp [unreducedMultiple, hm.not_gt, hzero, hfirst, htake, hinfinite, ha, ok_bind, pure,
        Except.pure]

lemma value_number (m : ℤ) : (IntegerForm.number (.int m)).value = .ok m := rfl

/-- The multiple of the generator as of a point is the one that is computed for the generator. -/
lemma mult_generator [PointAddition] (c : Curve) (m : ℤ) :
    c.mult (.number (.int m)) c.G = Point.coordinates <$> c.multBase m := by
  simp only [mult, multBase, value_number]
  cases hG : c.requireOnCurve c.G with
  | error e => rfl
  | ok P =>
    obtain ⟨-, rfl⟩ := requireOnCurve_eq_ok_iff.1 hG
    simp only [ok_bind, ne_eq, not_true_eq_false, and_false, if_false, map_bind]
    rfl

/-- Multiples of the generator are those of the group, whatever other multiples are. -/
def MultipliesGenerator (c : Curve) [Fact c.p.toNat.Prime] [PointAddition] : Prop :=
  ∀ m : ℤ, c.multBase m = .ok (c.baseMultiple m)

section Law

variable [Fact c.p.toNat.Prime] [PointAddition]

omit [PointAddition] in
lemma affine_ofPoint (odd : c.p ≠ 2) {P : Point} (hP : c.HasPoint P) :
    c.affine (.ofPoint P) = .ok P := by
  rw [(hP.represents odd).affine hP.isReduced, hP.pointOf_element odd]

omit [PointAddition] in
lemma zsmul_element_eq_zero {m : ℤ} {P : Point} (h : m = 0 ∨ P.IsInfinite) :
    m • c.element P = 0 := by
  rcases h with rfl | h
  · rw [zero_zsmul]
  · rw [element_of_isInfinite h, zsmul_zero]

/-! ### Scalars of any size -/

section Parts

variable (hc : c.HasOddPrimeOrder)
include hc

/-- Multiples of the generator by any factor are those by the reduced factor. -/
lemma multBase_eq_ok_of_multiple {m : ℤ} (hm : (c.multiple (m % c.n) c.G >>= c.affine) =
    .ok (c.pointOf ((m % c.n) • c.element c.G))) : c.multBase m = .ok (c.baseMultiple m) := by
  have hG : c.contains c.G = .ok true := (contains_iff hc.hasArithmetic).2 (Or.inr hc.generator)
  rw [emod_zsmul hc.n_zsmul_generator] at hm
  rw [multBase, requireOnCurve_eq_ok (Coordinates.point_coordinates _) hG,
    reduce_eq_ok hc.n_pos]
  exact hm

/-- What a multiple is follows from what is computed for the reduced scalar. -/
lemma exists_mult_of_multiple {Q : Coordinates} {P R : Point} (hQ : Q.point = .ok P)
    (hP : P.IsInfinite ∨ c.HasPoint P) {m : ℤ}
    (hR : (c.multiple (m % c.n) P >>= c.affine) = .ok R) :
    ∃ S, c.mult (.number (.int m)) Q = .ok S ∧ S.point = .ok R := by
  have hon := requireOnCurve_eq_ok hQ ((contains_iff hc.hasArithmetic).2 hP)
  obtain ⟨T, hT, haffine⟩ := bind_eq_ok_iff.1 hR
  rw [mult, hon, ok_bind, value_number, ok_bind, reduce_eq_ok hc.n_pos, ok_bind, hT, ok_bind,
    haffine, ok_bind]
  split_ifs with hone
  · -- once the point is the point as it was given
    have hfinite := hP.resolve_left hone.2.1
    rw [hone.1, multiple, if_neg (by simp [hone.2.1]), if_neg (by simp), Jacobian.multiple,
      if_pos rfl] at hT
    rw [← Except.ok.inj hT, affine_ofPoint hc.p_ne_two hfinite] at haffine
    exact ⟨Q, rfl, hQ.trans haffine⟩
  · exact ⟨_, rfl, Coordinates.point_coordinates R⟩

/-- What a sum of multiples is follows from what is computed for the reduced scalars: one multiple,
where the other is infinite for its scalar or its point, or both. -/
lemma exists_sumOfMultiples_of_jointMultiple {H G : Coordinates} {P Q R : Point}
    (hH : H.point = .ok P) (hG : G.point = .ok Q) (hP : P.IsInfinite ∨ c.HasPoint P)
    (hQ : Q.IsInfinite ∨ c.HasPoint Q) {u v : ℤ}
    (hleft : u % c.n = 0 ∨ P.IsInfinite → (c.multiple (v % c.n) Q >>= c.affine) = .ok R)
    (hright : v % c.n = 0 ∨ Q.IsInfinite → (c.multiple (u % c.n) P >>= c.affine) = .ok R)
    (hboth : c.HasPoint P → c.HasPoint Q → 0 < u % c.n ∧ u % c.n < c.n →
      0 < v % c.n ∧ v % c.n < c.n →
        (c.jointMultiple (u % c.n) P (v % c.n) Q >>= c.affine) = .ok R) :
    ∃ S, c.sumOfMultiples (.number (.int u)) H (.number (.int v)) G = .ok S ∧
      S.point = .ok R := by
  have hn := hc.n_pos
  have hon := requireOnCurve_eq_ok hH ((contains_iff hc.hasArithmetic).2 hP)
  have hon' := requireOnCurve_eq_ok hG ((contains_iff hc.hasArithmetic).2 hQ)
  rw [sumOfMultiples, hon, ok_bind, hon', ok_bind, value_number, ok_bind, reduce_eq_ok hn, ok_bind,
    value_number, ok_bind, reduce_eq_ok hn, ok_bind]
  split_ifs with hu hv
  · exact exists_mult_of_multiple hc hG hQ (by rw [Int.emod_emod, hleft hu])
  · exact exists_mult_of_multiple hc hH hP (by rw [Int.emod_emod, hright hv])
  · rw [not_or] at hu hv
    obtain ⟨T, hT, haffine⟩ := bind_eq_ok_iff.1 (hboth (hP.resolve_left hu.2)
      (hQ.resolve_left hv.2) (emod_pos_lt hn hu.1) (emod_pos_lt hn hv.1))
    rw [hT, ok_bind, haffine, ok_bind]
    exact ⟨_, rfl, Coordinates.point_coordinates R⟩

/-- So does a multiple by a scalar that is not reduced. -/
lemma exists_unreducedMultiple_of_affine {Q : Coordinates} {P R : Point} (hQ : Q.point = .ok P)
    (hP : P.IsInfinite ∨ c.HasPoint P) {m : ℤ} (hm : 0 ≤ m)
    (hzero : m = 0 ∨ P.IsInfinite → R = .infinity)
    (hR : c.HasPoint P → c.affine (.multiple c.p c.a m P) = .ok R) :
    ∃ S, c.unreducedMultiple m Q = .ok S ∧ S.point = .ok R := by
  rw [unreducedMultiple_eq hc.hasArithmetic hQ hm]
  by_cases hnone : m = 0 ∨ P.IsInfinite
  · rw [if_pos hnone, hzero hnone]
    exact ⟨_, rfl, Coordinates.point_coordinates _⟩
  · have hfinite := hP.resolve_left (not_or.1 hnone).2
    have haffine := hR hfinite
    rw [if_neg hnone, haffine, ok_bind]
    split_ifs with hone
    · rw [hone, Jacobian.multiple, if_pos rfl, affine_ofPoint hc.p_ne_two hfinite] at haffine
      exact ⟨Q, rfl, hQ.trans haffine⟩
    · exact ⟨_, rfl, Coordinates.point_coordinates R⟩

end Parts

variable (law : c.ComputesInGroup) (hc : c.HasOddPrimeOrder)
include law hc

omit hc in
/-- Reduced multiples of a point on the curve, be it infinite or not. -/
lemma multiple_affine {P : Point} (hP : P.IsInfinite ∨ c.HasPoint P) {m : ℤ}
    (hm : 0 ≤ m ∧ m < c.n) :
    (c.multiple m P >>= c.affine) = .ok (c.pointOf (m • c.element P)) := by
  rcases hP with hP | hP
  · rw [zsmul_element_eq_zero (Or.inr hP), multiple, if_pos (Or.inl hP)]
    rfl
  · exact law.multiple hP hm

lemma multBase_eq_ok (m : ℤ) : c.multBase m = .ok (c.baseMultiple m) :=
  multBase_eq_ok_of_multiple hc
    (multiple_affine law (Or.inr hc.generator) (emod_nonneg_lt hc.n_pos m))

lemma ComputesInGroup.multipliesGenerator : c.MultipliesGenerator :=
  multBase_eq_ok law hc

/-- The sum of two multiples, by whichever way it is computed. -/
lemma exists_sumOfMultiples {H G : Coordinates} {P Q : Point} (hH : H.point = .ok P)
    (hG : G.point = .ok Q) (hP : P.IsInfinite ∨ c.HasPoint P) (hQ : Q.IsInfinite ∨ c.HasPoint Q)
    (u v : ℤ) :
    ∃ R, c.sumOfMultiples (.number (.int u)) H (.number (.int v)) G = .ok R ∧
      R.point = .ok (c.pointOf ((u % c.n) • c.element P + (v % c.n) • c.element Q)) := by
  refine exists_sumOfMultiples_of_jointMultiple hc hH hG hP hQ ?_ ?_ fun hP hQ hu hv =>
    law.joint hP hQ hu hv
  · intro hleft
    rw [multiple_affine law hQ (emod_nonneg_lt hc.n_pos v), zsmul_element_eq_zero hleft, zero_add]
  · intro hright
    rw [multiple_affine law hP (emod_nonneg_lt hc.n_pos u), zsmul_element_eq_zero hright, add_zero]

lemma exists_unreducedMultiple {Q : Coordinates} {P : Point} (hQ : Q.point = .ok P)
    (hP : P.IsInfinite ∨ c.HasPoint P) {m : ℤ} (hm : 0 ≤ m) :
    ∃ R, c.unreducedMultiple m Q = .ok R ∧ R.point = .ok (c.pointOf (m • c.element P)) := by
  refine exists_unreducedMultiple_of_affine hc hQ hP hm ?_ fun hfinite => law.unreduced hfinite hm
  intro hnone
  rw [zsmul_element_eq_zero hnone, pointOf_zero]

/-- The subgroup test passes the points whose multiple by the order is its own opposite. -/
lemma isInSubgroup_eq_ok_of_hasPoint {P : Point} (hP : c.HasPoint P) :
    c.isInSubgroup P = .ok (decide (c.n • c.element P + c.n • c.element P = 0)) := by
  obtain ⟨R, hR, hpoint⟩ := exists_unreducedMultiple law hc (Coordinates.point_coordinates P)
    (Or.inr hP) hc.n_pos.le
  have hinfinite := add_self_eq_zero_iff (A := c.n • c.element P) hc.p_ne_two
  simp only [isInSubgroup, hR, hpoint, bind, Except.bind, pure, Except.pure, hinfinite]

/-- The subgroup test is exact where no element but the infinite one is its own opposite. -/
lemma isInSubgroup_eq_ok (h : ∀ A : c.Element, A + A = 0 → A = 0) {P : Point}
    (hP : c.HasPoint P) : c.isInSubgroup P = .ok (decide (c.n • c.element P = 0)) := by
  have hzero : c.n • c.element P + c.n • c.element P = 0 ↔ c.n • c.element P = 0 :=
    ⟨h _, fun hzero => by rw [hzero, add_zero]⟩
  simp only [isInSubgroup_eq_ok_of_hasPoint law hc hP, hzero]

end Law

/-- With the standard sums, multiples of the generator are those of the group: no sum on the way to
them is excepted. -/
theorem multBase_eq [Fact c.p.toNat.Prime] (hc : c.HasOddPrimeOrder) (m : ℤ) :
    c.multBase m = .ok (c.baseMultiple m) := by
  apply multBase_eq_ok_of_multiple hc
  rw [multiple_affine_counted (addsInGroup_standardAddition hc.p_ne_two) hc (Or.inr hc.generator)
    (emod_nonneg_lt hc.n_pos m), countedFactor, if_pos rfl]

lemma small_baseMultiple_five : small.baseMultiple 5 = ⟨114, 46⟩ := by
  have heval : (small.multBase 5).toOption = some ⟨114, 46⟩ := by decide +kernel
  rw [multBase_eq small_hasOddPrimeOrder] at heval
  exact Option.some.inj heval

end Curve

end Ecdsa
