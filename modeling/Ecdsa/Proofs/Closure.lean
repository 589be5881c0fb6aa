import Ecdsa.Proofs.Cofactor

/-!
# Results on the curve

Sums and multiples of points on the curve are on the curve, for every cofactor and whatever the
order of the points (`hasClosedArithmetic`). Nothing is assumed of the sums: where triples collide
the sum is not the one of the group, but then it is infinite, so a triple stands for an element
after every step.
-/

namespace Ecdsa.Curve

open Ecdsa.Modular

variable {c : Curve}

/-- The outcome is coordinates that are on the curve: they are residues that satisfy its equation, or
the ordinate is zero. -/
def GivesPoint (c : Curve) (result : Except Error Coordinates) : Prop :=
  ∃ R P, result = .ok R ∧ c.requireOnCurve R = .ok P ∧ (P.IsInfinite ∨ c.HasPoint P)

/-- Points on the curve are only taken to points on the curve. -/
structure HasClosedArithmetic (c : Curve) : Prop where
  /-- The infinite point may be given with any abscissa. -/
  add : ∀ Q₁ Q₂ P₁ P₂, c.requireOnCurve Q₁ = .ok P₁ → c.requireOnCurve Q₂ = .ok P₂ →
    c.GivesPoint (c.add Q₁ Q₂)
  /-- Scalars may be given in any form that has a value. -/
  mult : ∀ (m : IntegerForm) i Q P, m.value = .ok i → c.requireOnCurve Q = .ok P →
    c.GivesPoint (c.mult m Q)
  sumOfMultiples : ∀ (u v : IntegerForm) i j H G P Q, u.value = .ok i → v.value = .ok j →
    c.requireOnCurve H = .ok P → c.requireOnCurve G = .ok Q →
    c.GivesPoint (c.sumOfMultiples u H v G)
  /-- Nothing is checked before, and the scalar is not reduced. -/
  unreducedMultiple : ∀ m Q P, 0 ≤ m → c.requireOnCurve Q = .ok P →
    c.GivesPoint (c.unreducedMultiple m Q)
  /-- So the check of its result never fails. -/
  resultOnCurve : ∀ m Q P, c.requireOnCurve Q = .ok P →
    c.unreducedMultiple m Q ≠ .error .resultNotOnCurve

/-! ### Triples -/

/-- The triple represents some element. -/
def Stands (c : Curve) (P : Jacobian) : Prop :=
  ∃ A, c.Represents P A

lemma stands_infinity : c.Stands .infinity := ⟨0, rfl⟩

section Closure

variable [Fact c.p.toNat.Prime] {P Q : Jacobian}

lemma HasPoint.stands (odd : c.p ≠ 2) {D : Ecdsa.Point} (hD : c.HasPoint D) :
    c.Stands (.ofPoint D) :=
  ⟨_, hD.represents odd⟩

lemma Stands.neg (hP : c.Stands P) : c.Stands P.neg := by
  obtain ⟨A, hA⟩ := hP
  exact ⟨-A, hA.neg⟩

lemma Stands.add (odd : c.p ≠ 2) (hP : c.Stands P) (hQ : c.Stands Q) :
    c.Stands (PointAddition.sum c.p c.a P Q) := by
  obtain ⟨A, hA⟩ := hP
  obtain ⟨B, hB⟩ := hQ
  by_cases h : c.Collides P Q
  · exact ⟨0, Z_add_of_collides h⟩
  · exact ⟨A + B, hA.add odd hB h⟩

lemma Stands.addSigned (odd : c.p ≠ 2) (hP : c.Stands P) (hQ : c.Stands Q) (d : SignedDigit) :
    c.Stands (Jacobian.addSigned c.p c.a P Q d) := by
  cases d with
  | minus => exact hP.add odd hQ.neg
  | zero => exact hP
  | plus => exact hP.add odd hQ

/-! ### Digits -/

lemma stands_multiple (odd : c.p ≠ 2) {D : Ecdsa.Point} (hD : c.HasPoint D) (m : ℤ) :
    c.Stands (.multiple c.p c.a m D) :=
  ⟨_, represents_multiple (addsInGroup_standardAddition odd) odd hD m⟩

lemma DoublesFrom.hasPoint {B : c.Element} {table : List Ecdsa.Point}
    (htable : c.DoublesFrom B table) : ∀ D ∈ table, c.HasPoint D := by
  induction table generalizing B with
  | nil => simp
  | cons D rest ih =>
    obtain ⟨⟨hD, -⟩, hrest⟩ := htable
    rw [List.forall_mem_cons]
    exact ⟨hD, ih hrest⟩

lemma Stands.foldl (odd : c.p ≠ 2) (steps : List (Ecdsa.Point × SignedDigit))
    (hsteps : ∀ step ∈ steps, c.HasPoint step.1) (hP : c.Stands P) :
    c.Stands (steps.foldl
      (fun P (D, digit) => Jacobian.addSigned c.p c.a P (.ofPoint D) digit) P) := by
  induction steps generalizing P with
  | nil => exact hP
  | cons step steps ih =>
    rw [List.forall_mem_cons] at hsteps
    exact ih hsteps.2 (hP.addSigned odd (hsteps.1.stands odd) _)

lemma stands_tableMultiple (odd : c.p ≠ 2) {table : List Ecdsa.Point}
    (htable : ∀ D ∈ table, c.HasPoint D) (m : ℤ) :
    c.Stands (.tableMultiple c.p c.a m table) := by
  rw [Jacobian.tableMultiple]
  split_ifs
  · cases table with
    | nil => exact stands_infinity
    | cons D rest => exact (htable D List.mem_cons_self).stands odd
  · refine Stands.foldl odd _ ?_ stands_infinity
    rintro ⟨D, d⟩ hmem
    exact htable D (List.of_mem_zip hmem).1

lemma stands_jointMultiple? (odd : c.p ≠ 2) {G H : Ecdsa.Point} (hG : c.HasPoint G)
    (hH : c.HasPoint H) {u v : ℤ} (h : Jacobian.jointMultiple? c.p c.a u H v G = some P) :
    c.Stands P ∧ P.IsReduced c.p := by
  obtain ⟨hrep, hred⟩ :=
    represents_jointMultiple? (addsInGroup_standardAddition odd) odd hH hG h
  exact ⟨⟨_, hrep⟩, hred⟩

/-! ### Results -/

lemma Stands.affine (odd : c.p ≠ 2) (hP : c.Stands P) (hred : P.IsReduced c.p) :
    ∃ R : Ecdsa.Point, c.affine P = .ok R ∧ (R.IsInfinite ∨ c.HasPoint R) := by
  obtain ⟨A, hA⟩ := hP
  exact ⟨c.pointOf A, hA.affine hred, isInfinite_or_hasPoint_pointOf odd A⟩

variable (hc : c.IsUsable)
include hc

lemma exists_stands_multiple {D : Ecdsa.Point} (hD : D.IsInfinite ∨ c.HasPoint D) (m : ℤ) :
    ∃ P, c.multiple m D = .ok P ∧ c.Stands P ∧ P.IsReduced c.p := by
  rw [multiple]
  split_ifs with hzero hG
  · exact ⟨_, rfl, stands_infinity, Jacobian.isReduced_infinity p_pos⟩
  · obtain ⟨hne, rfl⟩ := hG
    have hpoint := hD.resolve_left fun hinfinite => hzero (Or.inl hinfinite)
    obtain ⟨table, htable, -, hdoubles⟩ := exists_generatorTable hc hpoint
    rw [htable]
    exact ⟨_, rfl, stands_tableMultiple hc.p_ne_two hdoubles.hasPoint m,
      isReduced_tableMultiple sumsAreReduced hdoubles m⟩
  · have hpoint := hD.resolve_left fun hinfinite => hzero (Or.inl hinfinite)
    exact ⟨_, rfl, stands_multiple hc.p_ne_two hpoint m,
      isReduced_multiple sumsAreReduced hpoint m⟩

lemma exists_stands_jointMultiple {H G : Ecdsa.Point} (hH : c.HasPoint H) (hG : c.HasPoint G)
    (u v : ℤ) :
    ∃ P, c.jointMultiple u H v G = .ok P ∧ c.Stands P ∧ P.IsReduced c.p := by
  obtain ⟨P, hP, hPstands, -⟩ := exists_stands_multiple hc (Or.inr hG) v
  obtain ⟨Q, hQ, hQstands, -⟩ := exists_stands_multiple hc (Or.inr hH) u
  -- the table of the generator is only asked for, and it is there if the generator is a point
  have htable (rest : Except Error Jacobian) : (if G = c.G ∨ H = c.G then
      c.generatorTable >>= fun _ => rest else rest) = rest := by
    split_ifs with hgenerator
    · have hpoint : c.HasPoint c.G := by
        rcases hgenerator with rfl | rfl
        · exact hG
        · exact hH
      obtain ⟨table, htable, -⟩ := exists_generatorTable hc hpoint
      rw [htable, ok_bind]
    · rfl
  simp only [jointMultiple, htable, hP, hQ, ok_bind]
  split
  · next R hR =>
    split_ifs at hR
    exact ⟨R, rfl, stands_jointMultiple? hc.p_ne_two hG hH hR⟩
  · exact ⟨_, rfl, hPstands.add hc.p_ne_two hQstands, sumsAreReduced _ _⟩

lemma givesPoint_coordinates {R : Ecdsa.Point} (hR : R.IsInfinite ∨ c.HasPoint R) :
    c.GivesPoint (.ok R.coordinates) :=
  ⟨_, R, rfl, requireOnCurve_eq_ok (Coordinates.point_coordinates R)
    ((contains_iff hc.hasArithmetic).2 hR), hR⟩

lemma givesPoint_of_requireOnCurve {Q : Coordinates} {P : Ecdsa.Point}
    (hQ : c.requireOnCurve Q = .ok P) : c.GivesPoint (.ok Q) :=
  ⟨Q, P, rfl, hQ, isInfinite_or_hasPoint_of_requireOnCurve hc.hasArithmetic hQ⟩

lemma givesPoint_add {Q₁ Q₂ : Coordinates} {P₁ P₂ : Ecdsa.Point}
    (h₁ : c.requireOnCurve Q₁ = .ok P₁) (h₂ : c.requireOnCurve Q₂ = .ok P₂) :
    c.GivesPoint (c.add Q₁ Q₂) := by
  rw [Curve.add, h₁, ok_bind, h₂, ok_bind]
  split_ifs with hinfinite₂ hinfinite₁
  · exact givesPoint_of_requireOnCurve hc h₁
  · exact givesPoint_of_requireOnCurve hc h₂
  · have hP₁ := isInfinite_or_hasPoint_of_requireOnCurve hc.hasArithmetic h₁
    have hP₂ := isInfinite_or_hasPoint_of_requireOnCurve hc.hasArithmetic h₂
    have hsum := ((hP₁.resolve_left hinfinite₁).stands hc.p_ne_two).add hc.p_ne_two
      ((hP₂.resolve_left hinfinite₂).stands hc.p_ne_two)
    obtain ⟨R, hR, hpoint⟩ := hsum.affine hc.p_ne_two (sumsAreReduced _ _)
    rw [hR]
    exact givesPoint_coordinates hc hpoint

lemma givesPoint_mult {m : IntegerForm} {i : ℤ} (hm : m.value = .ok i) {Q : Coordinates}
    {P : Ecdsa.Point} (hQ : c.requireOnCurve Q = .ok P) : c.GivesPoint (c.mult m Q) := by
  have hP := isInfinite_or_hasPoint_of_requireOnCurve hc.hasArithmetic hQ
  obtain ⟨T, hT, hstands, hred⟩ := exists_stands_multiple hc hP (i % c.n)
  obtain ⟨R, hR, hpoint⟩ := hstands.affine hc.p_ne_two hred
  rw [mult, hQ, ok_bind, hm, ok_bind, reduce_eq_ok hc.n_pos, ok_bind, hT, ok_bind, hR, ok_bind]
  split_ifs
  · exact givesPoint_of_requireOnCurve hc hQ
  · exact givesPoint_coordinates hc hpoint

lemma givesPoint_sumOfMultiples {u v : IntegerForm} {i j : ℤ} (hu : u.value = .ok i)
    (hv : v.value = .ok j) {H G : Coordinates} {P Q : Ecdsa.Point}
    (hH : c.requireOnCurve H = .ok P) (hG : c.requireOnCurve G = .ok Q) :
    c.GivesPoint (c.sumOfMultiples u H v G) := by
  rw [sumOfMultiples, hH, ok_bind, hG, ok_bind, hu, ok_bind, reduce_eq_ok hc.n_pos, ok_bind, hv,
    ok_bind, reduce_eq_ok hc.n_pos, ok_bind]
  split_ifs with hleft hright
  · exact givesPoint_mult hc (value_number _) hG
  · exact givesPoint_mult hc (value_number _) hH
  · have hP := isInfinite_or_hasPoint_of_requireOnCurve hc.hasArithmetic hH
    have hQ := isInfinite_or_hasPoint_of_requireOnCurve hc.hasArithmetic hG
    obtain ⟨T, hT, hstands, hred⟩ := exists_stands_jointMultiple hc
      (hP.resolve_left (not_or.1 hleft).2) (hQ.resolve_left (not_or.1 hright).2) (i % c.n) (j % c.n)
    obtain ⟨R, hR, hpoint⟩ := hstands.affine hc.p_ne_two hred
    rw [hT, ok_bind, hR]
    exact givesPoint_coordinates hc hpoint

lemma givesPoint_unreducedMultiple {m : ℤ} (hm : 0 ≤ m) {Q : Coordinates} {P : Ecdsa.Point}
    (hQ : c.requireOnCurve Q = .ok P) : c.GivesPoint (c.unreducedMultiple m Q) := by
  have hP := isInfinite_or_hasPoint_of_requireOnCurve hc.hasArithmetic hQ
  rw [unreducedMultiple_eq hc.hasArithmetic (of_requireOnCurve_eq_ok hQ).1 hm]
  by_cases hzero : m = 0 ∨ P.IsInfinite
  · rw [if_pos hzero]
    exact givesPoint_coordinates hc (Or.inl Point.isInfinite_infinity)
  · have hfinite := hP.resolve_left (not_or.1 hzero).2
    obtain ⟨R, hR, hRpoint⟩ := (stands_multiple hc.p_ne_two hfinite m).affine hc.p_ne_two
      (isReduced_multiple sumsAreReduced hfinite m)
    rw [if_neg hzero, hR, ok_bind]
    split_ifs
    · exact givesPoint_of_requireOnCurve hc hQ
    · exact givesPoint_coordinates hc hRpoint

/-- A curve is closed under its sums and multiples. -/
theorem hasClosedArithmetic : c.HasClosedArithmetic where
  add _ _ _ _ h₁ h₂ := givesPoint_add hc h₁ h₂
  mult _ _ _ _ hm hQ := givesPoint_mult hc hm hQ
  sumOfMultiples _ _ _ _ _ _ _ _ hu hv hH hG := givesPoint_sumOfMultiples hc hu hv hH hG
  unreducedMultiple _ _ _ hm hQ := givesPoint_unreducedMultiple hc hm hQ
  resultOnCurve m Q P hQ := by
    rcases lt_or_ge m 0 with hm | hm
    · rw [unreducedMultiple, if_pos hm]
      intro h
      cases h
    · obtain ⟨R, -, hR, -⟩ := givesPoint_unreducedMultiple hc hm hQ
      rw [hR]
      intro h
      cases h

end Closure

theorem hasClosedArithmetic_withCofactor : withCofactor.HasClosedArithmetic :=
  hasClosedArithmetic withCofactor_hasOddPrimeOrder.isUsable

end Ecdsa.Curve
