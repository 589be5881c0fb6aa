import Ecdsa.Proofs.Cofactor

/-!
# The subgroup test

The test asks whether the multiple of a point by the order of the generator is written as infinite,
and besides the infinite element those with the ordinate zero are. Adding such an element to a
multiple of the generator gives a point that passes and is outside the subgroup, so the test is exact
on the curves that have none (`hasTwofoldTest`), as those with an odd group.
-/

namespace Ecdsa.Curve

open WeierstrassCurve.Affine Ecdsa.Modular

variable {c : Curve} [Fact c.p.toNat.Prime] {Q : Ecdsa.Point} {A T : c.Element}

/-! ### Elements of order two -/

/-- An element is its own opposite if it is the infinite one or has the ordinate zero. -/
lemma add_self_eq_zero_iff_exists (odd : c.p ≠ 2) :
    A + A = 0 ↔ A = 0 ∨ ∃ x h, A = .some x 0 h := by
  rw [add_self_eq_zero_iff odd]
  match A with
  | .zero => simp [← Point.zero_def, Point.isInfinite_infinity]
  | .some x y h =>
    rw [pointOf_some, Point.IsInfinite, Int.natCast_eq_zero, ZMod.val_eq_zero]
    constructor
    · rintro rfl
      exact Or.inr ⟨x, h, rfl⟩
    · rintro (hzero | ⟨x', h', heq⟩)
      · exact absurd hzero (Point.some_ne_zero h)
      · exact ((Point.some.injEq ..).mp heq).2

/-- The sum of an element of order two and a multiple of the generator is of order two only if the
multiple is infinite. -/
lemma HasOddPrimeOrder.double_add_ne_zero (hc : c.HasOddPrimeOrder) (hT : T + T = 0) {k : ℤ}
    (hk : ¬ c.n ∣ k) :
    (T + k • c.element c.G) + (T + k • c.element c.G) ≠ 0 := by
  rw [add_add_add_comm, hT, zero_add, ← add_zsmul, Ne, hc.zsmul_generator_eq_zero_iff, ← two_mul]
  intro hdvd
  rcases hc.prime_n_int.dvd_or_dvd hdvd with htwo | hdvd
  · exact absurd htwo (not_dvd_of_pos_lt ⟨two_pos, hc.two_lt_n⟩)
  · exact hk hdvd

/-- As the order is odd, the multiple by it leaves the element of order two. -/
lemma HasOddPrimeOrder.n_zsmul_add (hc : c.HasOddPrimeOrder) (hT : T + T = 0) (k : ℤ) :
    c.n • (T + k • c.element c.G) = T := by
  rw [zsmul_add, hc.n_zsmul_zsmul_generator, add_zero, zsmul_of_add_self hT, hc.n_emod_two,
    one_zsmul]

/-! ### What the test tells -/

section Test

variable [PointAddition]

/-- What the test tells of a point is whether twice the order leads it to infinity. -/
structure HasTwofoldTest (c : Curve) [Fact c.p.toNat.Prime] [PointAddition] : Prop where
  /-- The test passes a point whose multiple by the order is infinite or has the ordinate zero. -/
  isInSubgroup_iff : ∀ Q, c.HasPoint Q → ∃ b, c.isInSubgroup Q = .ok b ∧
    (b = true ↔ c.n • c.element Q = 0 ∨ ∃ x h, c.n • c.element Q = .some x 0 h)
  /-- Any point with the ordinate zero takes multiples of the generator to points that pass, but are
  outside the subgroup. -/
  passes_outside : ∀ x h (k : ℤ), ¬ c.n ∣ k →
    ∃ Q, c.HasPoint Q ∧ c.element Q = .some x 0 h + k • c.element c.G ∧
      c.isInSubgroup Q = .ok true ∧ c.n • c.element Q ≠ 0
  /-- So the test is exact if the curve has no such points, and only then. -/
  exact_iff : (∀ Q, c.HasPoint Q → (c.isInSubgroup Q = .ok true ↔ c.n • c.element Q = 0)) ↔
    ∀ x, ¬ c.weierstrass.Nonsingular x 0

variable (law : c.ComputesInGroup) (hc : c.HasOddPrimeOrder)
include law hc

lemma isInSubgroup_eq_ok_true_iff (hQ : c.HasPoint Q) :
    c.isInSubgroup Q = .ok true ↔
      c.n • c.element Q = 0 ∨ ∃ x h, c.n • c.element Q = .some x 0 h := by
  rw [isInSubgroup_eq_ok_of_hasPoint law hc hQ, Except.ok.injEq, decide_eq_true_iff,
    add_self_eq_zero_iff_exists hc.p_ne_two]

/-- A point that passes for an element of order two. -/
lemma exists_passes_outside {x : c.Residue} (h : c.weierstrass.Nonsingular x 0) {k : ℤ}
    (hk : ¬ c.n ∣ k) :
    ∃ Q, c.HasPoint Q ∧ c.element Q = .some x 0 h + k • c.element c.G ∧
      c.isInSubgroup Q = .ok true ∧ c.n • c.element Q ≠ 0 := by
  have htwo : (Point.some x 0 h : c.Element) + .some x 0 h = 0 :=
    (add_self_eq_zero_iff_exists hc.p_ne_two).2 (Or.inr ⟨x, h, rfl⟩)
  have hne := hc.double_add_ne_zero htwo hk
  have hQ := hasPoint_pointOf hc.p_ne_two hne
  have helement : c.element (c.pointOf (.some x 0 h + k • c.element c.G)) =
      .some x 0 h + k • c.element c.G := by
    apply element_pointOf hc.p_ne_two
    intro hzero
    exact absurd hzero hne
  have hn : c.n • c.element (c.pointOf (.some x 0 h + k • c.element c.G)) = .some x 0 h := by
    rw [helement, hc.n_zsmul_add htwo]
  refine ⟨_, hQ, helement, ?_, ?_⟩
  · exact (isInSubgroup_eq_ok_true_iff law hc hQ).2 (Or.inr ⟨x, h, hn⟩)
  · rw [hn]
    exact Point.some_ne_zero h

theorem hasTwofoldTest : c.HasTwofoldTest where
  isInSubgroup_iff Q hQ := by
    refine ⟨_, isInSubgroup_eq_ok_of_hasPoint law hc hQ, ?_⟩
    rw [decide_eq_true_iff, add_self_eq_zero_iff_exists hc.p_ne_two]
  passes_outside x h k hk := exists_passes_outside law hc h hk
  exact_iff := by
    constructor
    · intro hexact x h
      have hone : ¬ c.n ∣ 1 := not_dvd_of_pos_lt ⟨one_pos, one_lt_two.trans hc.two_lt_n⟩
      obtain ⟨Q, hQ, -, hpasses, hne⟩ := exists_passes_outside law hc h hone
      exact hne ((hexact Q hQ).1 hpasses)
    · intro hnone Q hQ
      rw [isInSubgroup_eq_ok_true_iff law hc hQ, or_iff_left]
      rintro ⟨x, h, -⟩
      exact hnone x h

end Test

/-! ### On the curve with the cofactor two -/

theorem hasTwofoldTest_withCofactor :
    letI := reducedAddition
    withCofactor.HasTwofoldTest :=
  letI := reducedAddition
  hasTwofoldTest (computesInGroup_reducedAddition withCofactor_hasOddPrimeOrder)
    withCofactor_hasOddPrimeOrder

/-- The point (5, 107) has the order 278, and it passes. -/
theorem not_forall_isInSubgroup_iff :
    ¬ ∀ (c : Curve) [Fact c.p.toNat.Prime] (Q : Ecdsa.Point), c.HasOddPrimeOrder → c.HasPoint Q →
      (c.isInSubgroup Q = .ok true ↔ c.n • c.element Q = 0) := by
  intro h
  have hQ : withCofactor.HasPoint ⟨5, 107⟩ := ⟨by decide, by decide, by decide⟩
  have heval : (withCofactor.isInSubgroup (⟨5, 107⟩ : Ecdsa.Point)).toOption = some true := by
    decide +kernel
  have hzero := (h withCofactor ⟨5, 107⟩ withCofactor_hasOddPrimeOrder hQ).1
    (toOption_eq_some_iff.1 heval)
  have hZ : letI := reducedAddition
      (Jacobian.multiple withCofactor.p withCofactor.a withCofactor.n ⟨5, 107⟩).Z ≠ 0 := by
    decide +kernel
  exact hZ ((zsmul_element_eq_zero_iff_multiple withCofactor_p_ne_two hQ _).1 hzero)

end Ecdsa.Curve
