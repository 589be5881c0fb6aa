import Ecdsa.Proofs.Curve.Group

/-!
# Sums of points in Jacobian coordinates

A triple represents an element of the group. Doubles represent doubles, and so do sums represent
sums (`Represents.add`), but for one case: when both points have Z = 1 and are equal modulo `p` but
not as integers, they collide and the sum is found infinite. Sums of reduced triples are free of it.
-/

namespace Ecdsa

namespace Jacobian

open Ecdsa.Modular

/-- All coordinates are residues modulo `p`. -/
structure IsReduced (p : ℤ) (P : Jacobian) : Prop where
  X : 0 ≤ P.X ∧ P.X < p
  Y : 0 ≤ P.Y ∧ P.Y < p
  Z : 0 ≤ P.Z ∧ P.Z < p

variable {p : ℤ}

lemma isReduced_infinity (hp : 0 < p) : infinity.IsReduced p :=
  ⟨⟨le_rfl, hp⟩, ⟨le_rfl, hp⟩, ⟨le_rfl, hp⟩⟩

lemma isReduced_reduced (hp : 0 < p) (P : Jacobian) : (P.reduced p).IsReduced p :=
  ⟨emod_nonneg_lt hp _, emod_nonneg_lt hp _, emod_nonneg_lt hp _⟩

lemma isReduced_double (hp : 0 < p) (a : ℤ) (P : Jacobian) : (P.double p a).IsReduced p := by
  rw [double]
  split_ifs
  · exact isReduced_infinity hp
  · exact ⟨emod_nonneg_lt hp _, emod_nonneg_lt hp _, emod_nonneg_lt hp _⟩

/-- Every sum is reduced. -/
lemma isReduced_add (hp : 0 < p) (a : ℤ) (P Q : Jacobian) : (add p a P Q).IsReduced p := by
  rw [add]
  split_ifs
  any_goals exact isReduced_double hp a _
  any_goals exact isReduced_reduced hp _
  all_goals exact ⟨emod_nonneg_lt hp _, emod_nonneg_lt hp _, emod_nonneg_lt hp _⟩

end Jacobian

namespace Curve

open WeierstrassCurve.Affine Ecdsa.Modular

variable {c : Curve}

/-- The triple stands for the element. -/
def Represents (c : Curve) (P : Jacobian) : c.Element → Prop
  | .zero => P.Z = 0
  | .some x y _ => (P.Z : c.Residue) ≠ 0 ∧
      (P.X : c.Residue) = x * P.Z ^ 2 ∧ (P.Y : c.Residue) = y * P.Z ^ 3

@[simp] lemma represents_zero {P : Jacobian} : c.Represents P 0 ↔ P.Z = 0 := Iff.rfl

@[simp] lemma represents_some {P : Jacobian} {x y : c.Residue}
    {h : c.weierstrass.Nonsingular x y} :
    c.Represents P (.some x y h) ↔ (P.Z : c.Residue) ≠ 0 ∧
      (P.X : c.Residue) = x * P.Z ^ 2 ∧ (P.Y : c.Residue) = y * P.Z ^ 3 := Iff.rfl

lemma Represents.of_eq {P : Jacobian} {A B : c.Element} (hP : c.Represents P A) (h : B = A) :
    c.Represents P B :=
  h ▸ hP

section Represents

variable [Fact c.p.toNat.Prime] {P Q : Jacobian} {A B : c.Element}

lemma Represents.Z_eq_zero_iff (hP : c.Represents P A) : P.Z = 0 ↔ A = 0 := by
  match A, hP with
  | .zero, hP => simpa [← Point.zero_def] using hP
  | .some x y h, hP =>
    have hZ : P.Z ≠ 0 := by
      intro hZ
      exact hP.1 (by rw [hZ, Int.cast_zero])
    simp [hZ]

lemma Represents.reduced (hP : c.Represents P A) : c.Represents (P.reduced c.p) A := by
  match A, hP with
  | .zero, hP =>
    have hZ : P.Z = 0 := hP
    simp [← Point.zero_def, Jacobian.reduced, hZ]
  | .some x y h, hP => simpa [Jacobian.reduced] using hP

lemma Represents.neg (hP : c.Represents P A) : c.Represents P.neg (-A) := by
  match A, hP with
  | .zero, hP => exact hP
  | .some x y h, hP =>
    obtain ⟨hZ, hX, hY⟩ := hP
    refine ⟨hZ, hX, ?_⟩
    rw [Jacobian.neg, Int.cast_neg, hY, negY_eq]
    ring

lemma HasPoint.represents (odd : c.p ≠ 2) {Q : Ecdsa.Point} (hQ : c.HasPoint Q) :
    c.Represents (.ofPoint Q) (c.element Q) := by
  rw [hQ.element_eq odd, represents_some]
  simp [Jacobian.ofPoint]

/-- The double of a triple represents the double. -/
lemma Represents.double (odd : c.p ≠ 2) (hP : c.Represents P A) :
    c.Represents (P.double c.p c.a) (A + A) := by
  match A, hP with
  | .zero, hP =>
    have hZ : P.Z = 0 := hP
    simp [← Point.zero_def, Jacobian.double, hZ, Jacobian.infinity]
  | .some x y h, hP =>
    obtain ⟨hZ, hX, hY⟩ := hP
    have hZ' : P.Z ≠ 0 := fun hzero => hZ (by rw [hzero, Int.cast_zero])
    have hsq : P.Y * P.Y % c.p = 0 ↔ y = 0 := by
      rw [← intCast_eq_zero_iff, Int.cast_mul, hY]
      simp [hZ]
    by_cases hy : y = 0
    · rw [Point.add_self_of_Y_eq (by rw [negY_eq, hy, neg_zero]), represents_zero,
        Jacobian.double, if_pos (Or.inr (hsq.2 hy))]
      rfl
    · have h2y : 2 * y ≠ 0 := mul_ne_zero (two_ne_zero_of_odd odd) hy
      have hne : y ≠ c.weierstrass.negY x y := by
        intro heq
        rw [negY_eq] at heq
        exact h2y (by linear_combination heq)
      obtain ⟨l, hl⟩ : ∃ l, c.weierstrass.slope x x y y = l := ⟨_, rfl⟩
      have hslope : l * (2 * y) = 3 * x ^ 2 + c.a := by
        rw [← hl, slope_of_Y_ne rfl hne, negY_eq, sub_neg_eq_add, ← two_mul,
          div_mul_cancel₀ _ h2y]
        simp
      rw [Point.add_self_of_Y_ne hne, represents_some, hl, Jacobian.double,
        if_neg (by rw [hsq]; tauto)]
      simp only [addX, addY, negAddY, negY_eq, weierstrass_a₁, weierstrass_a₂]
      push_cast
      have hM : 3 * P.X * P.X + c.a * (P.Z * P.Z * (P.Z * P.Z)) = l * (2 * y) * P.Z ^ 4 := by
        rw [hX]
        linear_combination -(P.Z : c.Residue) ^ 4 * hslope
      rw [hM, hX, hY]
      refine ⟨?_, by ring, by ring⟩
      exact mul_ne_zero (mul_ne_zero (two_ne_zero_of_odd odd) (mul_ne_zero hy (pow_ne_zero 3 hZ))) hZ

/-! ### Chords -/

section Chord

variable {x₁ y₁ x₂ y₂ : c.Residue} {h₁ : c.weierstrass.Nonsingular x₁ y₁}
  {h₂ : c.weierstrass.Nonsingular x₂ y₂}

lemma intCast_run (hP : c.Represents P (.some x₁ y₁ h₁)) (hQ : c.Represents Q (.some x₂ y₂ h₂)) :
    (Jacobian.run c.p P Q : c.Residue) = (x₂ - x₁) * (P.Z ^ 2 * Q.Z ^ 2) := by
  rw [Jacobian.run]
  push_cast
  rw [hP.2.1, hQ.2.1]
  ring

lemma intCast_rise (hP : c.Represents P (.some x₁ y₁ h₁))
    (hQ : c.Represents Q (.some x₂ y₂ h₂)) :
    (Jacobian.rise c.p P Q : c.Residue) = 2 * (y₂ - y₁) * (P.Z ^ 3 * Q.Z ^ 3) := by
  rw [Jacobian.rise]
  push_cast
  rw [hP.2.2, hQ.2.2]
  ring

/-- Two triples are found to coincide if they represent the same element. -/
lemma coincides_iff (odd : c.p ≠ 2) (hP : c.Represents P (.some x₁ y₁ h₁))
    (hQ : c.Represents Q (.some x₂ y₂ h₂)) :
    Jacobian.Coincides c.p P Q ↔ x₁ = x₂ ∧ y₁ = y₂ := by
  have hrun := intCast_run hP hQ
  have hrise := intCast_rise hP hQ
  rw [Jacobian.run, intCast_emod_p] at hrun
  rw [Jacobian.rise, intCast_emod_p] at hrise
  have hZ : (P.Z : c.Residue) ≠ 0 ∧ (Q.Z : c.Residue) ≠ 0 := ⟨hP.1, hQ.1⟩
  rw [Jacobian.Coincides, Jacobian.run, Jacobian.rise, ← intCast_eq_zero_iff,
    ← intCast_eq_zero_iff, hrun, hrise]
  simp [hZ, two_ne_zero_of_odd odd, sub_eq_zero, eq_comm]

/-- Points with the same abscissa that are not equal are opposite. -/
lemma add_eq_zero_of_X_eq (hx : x₁ = x₂) (hne : ¬ (x₁ = x₂ ∧ y₁ = y₂)) :
    Point.some x₁ y₁ h₁ + .some x₂ y₂ h₂ = 0 :=
  Point.add_of_Y_eq hx ((Y_eq_of_X_eq h₁.1 h₂.1 hx).resolve_left fun hy => hne ⟨hx, hy⟩)

lemma exists_slope (y₁ y₂ : c.Residue) (hx : x₁ ≠ x₂) :
    ∃ l, c.weierstrass.slope x₁ x₂ y₁ y₂ = l ∧ y₂ = y₁ + l * (x₂ - x₁) := by
  refine ⟨_, rfl, ?_⟩
  have hsub : x₁ - x₂ ≠ 0 := sub_ne_zero.2 hx
  rw [slope_of_X_ne hx]
  field_simp
  ring

/-- The chord through points that are not equal represents their sum. -/
lemma Represents.chord (odd : c.p ≠ 2) (hP : c.Represents P (.some x₁ y₁ h₁))
    (hQ : c.Represents Q (.some x₂ y₂ h₂)) (hne : ¬ (x₁ = x₂ ∧ y₁ = y₂)) :
    c.Represents (Jacobian.chord c.p P Q) (.some x₁ y₁ h₁ + .some x₂ y₂ h₂) := by
  have hrun := intCast_run hP hQ
  have hrise := intCast_rise hP hQ
  obtain ⟨hZ₁, hX₁, hY₁⟩ := hP
  have hZ₂ := hQ.1
  by_cases hx : x₁ = x₂
  · rw [add_eq_zero_of_X_eq hx hne, represents_zero, Jacobian.chord, ← intCast_eq_zero_iff]
    push_cast
    rw [hrun, hx]
    ring
  · obtain ⟨l, hl, hslope⟩ := exists_slope y₁ y₂ hx
    rw [Point.add_of_X_ne hx, represents_some, hl, Jacobian.chord]
    simp only [addX, addY, negAddY, negY_eq, weierstrass_a₁, weierstrass_a₂]
    push_cast
    rw [hrun, hrise, hX₁, hY₁, hslope]
    refine ⟨?_, by ring, by ring⟩
    have hsub : x₂ - x₁ ≠ 0 := sub_ne_zero.2 (Ne.symm hx)
    simp [two_ne_zero_of_odd odd, hZ₁, hZ₂, hsub]

/-- So does the chord through points with the same Z. -/
lemma Represents.levelChord (hP : c.Represents P (.some x₁ y₁ h₁))
    (hQ : c.Represents Q (.some x₂ y₂ h₂)) (hZ : P.Z = Q.Z) (hne : ¬ (x₁ = x₂ ∧ y₁ = y₂)) :
    c.Represents (Jacobian.levelChord c.p P Q) (.some x₁ y₁ h₁ + .some x₂ y₂ h₂) := by
  obtain ⟨hZ₁, hX₁, hY₁⟩ := hP
  obtain ⟨-, hX₂, hY₂⟩ := hQ
  rw [← hZ] at hX₂ hY₂
  by_cases hx : x₁ = x₂
  · rw [add_eq_zero_of_X_eq hx hne, represents_zero, Jacobian.levelChord,
      ← intCast_eq_zero_iff]
    push_cast
    rw [hX₁, hX₂, hx]
    ring
  · obtain ⟨l, hl, hslope⟩ := exists_slope y₁ y₂ hx
    rw [Point.add_of_X_ne hx, represents_some, hl, Jacobian.levelChord]
    simp only [addX, addY, negAddY, negY_eq, weierstrass_a₁, weierstrass_a₂]
    push_cast
    rw [hX₁, hX₂, hY₁, hY₂, hslope]
    refine ⟨?_, by ring, by ring⟩
    have hsub : x₂ * P.Z ^ 2 - x₁ * P.Z ^ 2 ≠ (0 : c.Residue) := by
      rw [← sub_mul]
      exact mul_ne_zero (sub_ne_zero.2 (Ne.symm hx)) (pow_ne_zero 2 hZ₁)
    exact mul_ne_zero hZ₁ hsub

end Chord

/-! ### Collisions -/

/-- The triples are given with Z = 1, equal modulo `p` but not as integers. -/
def Collides (c : Curve) (P Q : Jacobian) : Prop :=
  P.Z = 1 ∧ Q.Z = 1 ∧ P ≠ Q ∧ Jacobian.Coincides c.p P Q

instance (c : Curve) : DecidableRel c.Collides := fun P Q =>
  inferInstanceAs (Decidable (P.Z = 1 ∧ Q.Z = 1 ∧ P ≠ Q ∧ Jacobian.Coincides c.p P Q))

omit [Fact c.p.toNat.Prime] in
/-- The sum of triples that collide is infinite. -/
lemma Z_add_of_collides (h : c.Collides P Q) : (Jacobian.add c.p c.a P Q).Z = 0 := by
  obtain ⟨hP, hQ, hne, hrun, -⟩ := h
  rw [Jacobian.add, if_neg (by omega), if_neg (by omega), if_pos ⟨hP, hQ⟩, if_neg hne,
    Jacobian.chord]
  simp only [hrun, mul_zero, Int.zero_emod]

/-- Triples that collide represent the same element. -/
lemma Represents.eq_of_collides (odd : c.p ≠ 2) (hP : c.Represents P A) (hQ : c.Represents Q B)
    (h : c.Collides P Q) : A = B := by
  obtain ⟨hPone, hQone, -, hco⟩ := h
  match A, B, hP, hQ with
  | .zero, _, hP, _ => exact absurd (hPone.symm.trans hP) one_ne_zero
  | .some .., .zero, _, hQ => exact absurd (hQone.symm.trans hQ) one_ne_zero
  | .some .., .some .., hP, hQ =>
    obtain ⟨rfl, rfl⟩ := (coincides_iff odd hP hQ).1 hco
    rfl

/-- Reduced triples do not collide: those equal modulo `p` are equal. -/
lemma not_collides_of_isReduced (odd : c.p ≠ 2) (hP : P.IsReduced c.p) (hQ : Q.IsReduced c.p) :
    ¬ c.Collides P Q := by
  rintro ⟨hPone, hQone, hne, hrun, hrise⟩
  apply hne
  rw [Jacobian.run, ← intCast_eq_zero_iff] at hrun
  rw [Jacobian.rise, ← intCast_eq_zero_iff] at hrise
  push_cast [hPone, hQone] at hrun hrise
  have hX : (Q.X : c.Residue) = P.X := by linear_combination hrun
  have hY : (Q.Y : c.Residue) = P.Y := by
    have hdouble : (2 : c.Residue) * (Q.Y - P.Y) = 0 := by linear_combination hrise
    exact sub_eq_zero.1 ((mul_eq_zero.1 hdouble).resolve_left (two_ne_zero_of_odd odd))
  have hZ : P.Z = Q.Z := hPone.trans hQone.symm
  exact Jacobian.ext (eq_of_intCast_eq hP.X hQ.X hX.symm) (eq_of_intCast_eq hP.Y hQ.Y hY.symm) hZ

/-- The sum of triples represents the sum, unless they collide. -/
theorem Represents.add (odd : c.p ≠ 2) (hP : c.Represents P A) (hQ : c.Represents Q B)
    (h : ¬ c.Collides P Q) : c.Represents (Jacobian.add c.p c.a P Q) (A + B) := by
  by_cases hP₀ : P.Z = 0
  · rw [Jacobian.add, if_pos hP₀, hP.Z_eq_zero_iff.1 hP₀, zero_add]
    exact hQ.reduced
  by_cases hQ₀ : Q.Z = 0
  · rw [Jacobian.add, if_neg hP₀, if_pos hQ₀, hQ.Z_eq_zero_iff.1 hQ₀, add_zero]
    exact hP.reduced
  rw [Jacobian.add, if_neg hP₀, if_neg hQ₀]
  match A, B, hP, hQ with
  | .zero, _, hP, _ => exact absurd hP hP₀
  | .some .., .zero, _, hQ => exact absurd hQ hQ₀
  | .some x₁ y₁ h₁, .some x₂ y₂ h₂, hP, hQ =>
    by_cases hxy : x₁ = x₂ ∧ y₁ = y₂
    · have hco := (coincides_iff odd hP hQ).2 hxy
      obtain ⟨rfl, rfl⟩ := hxy
      split_ifs with hone heq hQone
      · exact hP.double odd
      · exact absurd ⟨hone.1, hone.2, heq, hco⟩ h
      · exact hQ.double odd
      · exact hP.double odd
    · have hco : ¬ Jacobian.Coincides c.p P Q := mt (coincides_iff odd hP hQ).1 hxy
      have hne : P ≠ Q := by
        rintro rfl
        exact hco ⟨by simp [Jacobian.run], by simp [Jacobian.rise]⟩
      split_ifs with hone hlevel hPone
      · exact hP.chord odd hQ hxy
      · exact hP.levelChord hQ hlevel hxy
      · rw [add_comm]
        exact hQ.chord odd hP fun hyx => hxy ⟨hyx.1.symm, hyx.2.symm⟩
      · exact hP.chord odd hQ hxy

end Represents

/-! ### The affine form -/

lemma HasPoint.isReduced {Q : Ecdsa.Point} (hQ : c.HasPoint Q) :
    (Jacobian.ofPoint Q).IsReduced c.p :=
  ⟨hQ.abscissa, ⟨hQ.ordinate.1.le, hQ.ordinate.2⟩, ⟨zero_le_one, by
    have := hQ.ordinate
    show 1 < c.p
    omega⟩⟩

section Affine

variable [Fact c.p.toNat.Prime] {P : Jacobian} {A : c.Element}

/-- The affine form of a reduced triple is the reduced coordinates of its element. -/
lemma Represents.toPoint (hP : c.Represents P A) (hred : P.IsReduced c.p) :
    P.toPoint c.p = .ok (c.pointOf A) := by
  rw [Jacobian.toPoint]
  match A, hP with
  | .zero, hP => exact if_pos hP
  | .some x y h, hP =>
    obtain ⟨hZ, hX, hY⟩ := hP
    have hZ₀ : P.Z ≠ 0 := fun hzero => hZ (by rw [hzero, Int.cast_zero])
    rw [if_neg hZ₀, pointOf_some]
    split_ifs with hone
    · rw [hone, Int.cast_one, one_pow, mul_one] at hX hY
      rw [← hX, ← hY, val_intCast hred.X, val_intCast hred.Y]
    · have hdvd : ¬ c.p ∣ P.Z := by
        rwa [Int.dvd_iff_emod_eq_zero, ← intCast_eq_zero_iff]
      obtain ⟨z, hz, -, hinv⟩ :=
        inverse?_eq_some p_pos (gcd_eq_one_of_prime Fact.out hdvd)
      have hmul : (z : c.Residue) * P.Z = 1 := by
        simpa using intCast_eq_of_modEq hinv
      have hx : ((P.X * (z * z % c.p) : ℤ) : c.Residue) = x := by
        push_cast
        rw [hX]
        linear_combination x * (z * P.Z + 1) * hmul
      have hy : ((P.Y * (z * z % c.p) * z : ℤ) : c.Residue) = y := by
        push_cast
        rw [hY]
        linear_combination y * ((z * P.Z) ^ 2 + z * P.Z + 1) * hmul
      rw [hz]
      dsimp only
      rw [emod_p_eq_val (P.X * _), emod_p_eq_val (P.Y * _ * z), hx, hy]

/-- Whatever represents an element has an affine form. -/
lemma Represents.affine (hP : c.Represents P A) (hred : P.IsReduced c.p) :
    c.affine P = .ok (c.pointOf A) := by
  rw [Curve.affine, hP.toPoint hred]
  simp only [bind, Except.bind]
  rw [if_pos]
  · rfl
  · match A, hP with
    | .zero, hP => exact Or.inl hP
    | .some x y h, _ =>
      right
      rw [satisfies_iff]
      simpa using h.1

end Affine

/-! ### Additions of the group -/

/-- Every sum is reduced. -/
def SumsAreReduced (c : Curve) [PointAddition] : Prop :=
  ∀ P Q : Jacobian, (PointAddition.sum c.p c.a P Q).IsReduced c.p

/-- The sums of triples are reduced and represent the sums of the elements, but for excepted triples:
their sum is infinite. They represent the same element, and are not both reduced. -/
structure AddsInGroup (c : Curve) [PointAddition] [Fact c.p.toNat.Prime]
    (Excepted : Jacobian → Jacobian → Prop) : Prop where
  isReduced : c.SumsAreReduced
  represents : ∀ {P Q : Jacobian} {A B : c.Element}, c.Represents P A → c.Represents Q B →
    ¬ Excepted P Q → c.Represents (PointAddition.sum c.p c.a P Q) (A + B)
  infinite : ∀ {P Q : Jacobian}, Excepted P Q → (PointAddition.sum c.p c.a P Q).Z = 0
  eq_of_excepted : ∀ {P Q : Jacobian} {A B : c.Element}, c.Represents P A → c.Represents Q B →
    Excepted P Q → A = B
  not_excepted : ∀ {P Q : Jacobian}, P.IsReduced c.p → Q.IsReduced c.p → ¬ Excepted P Q

variable [Fact c.p.toNat.Prime]

lemma sumsAreReduced : c.SumsAreReduced := fun _ _ => Jacobian.isReduced_add p_pos _ _ _

/-- The standard sums are those of the group, but for triples that collide. -/
theorem addsInGroup_standardAddition (odd : c.p ≠ 2) : c.AddsInGroup c.Collides where
  isReduced := sumsAreReduced
  represents hP hQ h := hP.add odd hQ h
  infinite h := Z_add_of_collides h
  eq_of_excepted hP hQ h := hP.eq_of_collides odd hQ h
  not_excepted hP hQ := not_collides_of_isReduced odd hP hQ

/-- The sums of `Jacobian.add` after both triples are reduced. -/
@[reducible] def reducedAddition : PointAddition :=
  ⟨fun p a P Q => Jacobian.add p a (P.reduced p) (Q.reduced p)⟩

/-- If triples are reduced before, their sums are those of the group without exception. -/
theorem addsInGroup_reducedAddition (odd : c.p ≠ 2) :
    letI := reducedAddition
    c.AddsInGroup fun _ _ => False :=
  letI := reducedAddition
  { isReduced := fun _ _ => Jacobian.isReduced_add p_pos _ _ _
    represents := fun hP hQ _ => hP.reduced.add odd hQ.reduced
      (not_collides_of_isReduced odd (Jacobian.isReduced_reduced p_pos _)
        (Jacobian.isReduced_reduced p_pos _))
    infinite := False.elim
    eq_of_excepted := fun _ _ => False.elim
    not_excepted := fun _ _ => id }

end Curve

end Ecdsa
