import Ecdsa.Curve.Arithmetic
import Ecdsa.Proofs.Modular.Residue
import Mathlib.AlgebraicGeometry.EllipticCurve.Affine.Point
import Mathlib.Tactic

/-!
# The group of a curve

The points of a curve over the field of residues modulo `p`, without the singular ones and with
the one at infinity, are a group. A finite point of the curve is one of its elements, and every
element but those that are their own opposite has coordinates that are a finite point.
-/

namespace Ecdsa.Curve

open WeierstrassCurve.Affine Ecdsa.Modular

variable {c : Curve}

/-- The field of the coordinates. -/
abbrev Residue (c : Curve) : Type := ZMod c.p.toNat

/-- The equation of the curve over its field. -/
def weierstrass (c : Curve) : WeierstrassCurve.Affine c.Residue where
  a₁ := 0
  a₂ := 0
  a₃ := 0
  a₄ := c.a
  a₆ := c.b

@[simp] lemma weierstrass_a₁ : c.weierstrass.a₁ = 0 := rfl
@[simp] lemma weierstrass_a₂ : c.weierstrass.a₂ = 0 := rfl
@[simp] lemma weierstrass_a₃ : c.weierstrass.a₃ = 0 := rfl
@[simp] lemma weierstrass_a₄ : c.weierstrass.a₄ = c.a := rfl
@[simp] lemma weierstrass_a₆ : c.weierstrass.a₆ = c.b := rfl

lemma equation_iff_sq {x y : c.Residue} :
    c.weierstrass.Equation x y ↔ y ^ 2 = x ^ 3 + c.a * x + c.b := by
  rw [equation_iff]
  simp

/-- The elements of the group. -/
abbrev Element (c : Curve) : Type := c.weierstrass.Point

/-- The coordinates are those of a finite point of the curve. -/
structure HasPoint (c : Curve) (Q : Point) : Prop where
  ordinate : 0 < Q.y ∧ Q.y < c.p
  abscissa : 0 ≤ Q.x ∧ Q.x < c.p
  satisfies : c.Satisfies Q

open Classical in
/-- The element with these coordinates; coordinates of no finite point stand for the one at
infinity. -/
noncomputable def element (c : Curve) (Q : Point) : c.Element :=
  if h : ¬ Q.IsInfinite ∧ c.weierstrass.Nonsingular (Q.x : c.Residue) (Q.y : c.Residue) then
    .some _ _ h.2
  else 0

/-- The reduced coordinates of an element. -/
def pointOf (c : Curve) : c.Element → Point
  | .zero => .infinity
  | .some x y _ => ⟨x.val, y.val⟩

@[simp] lemma pointOf_zero : c.pointOf 0 = .infinity := rfl

@[simp] lemma pointOf_some {x y : c.Residue} (h : c.weierstrass.Nonsingular x y) :
    c.pointOf (.some x y h) = ⟨x.val, y.val⟩ := rfl

lemma HasPoint.not_isInfinite {Q : Point} (hQ : c.HasPoint Q) : ¬ Q.IsInfinite :=
  hQ.ordinate.1.ne'

lemma element_of_isInfinite {Q : Point} (h : Q.IsInfinite) : c.element Q = 0 :=
  dif_neg fun hQ => hQ.1 h

lemma contains_iff {Q : Point} (ha : c.hasArithmetic) :
    c.contains Q = .ok true ↔ Q.IsInfinite ∨ c.HasPoint Q := by
  rw [contains_eq_ok_true_iff]
  constructor
  · intro h
    rcases h with h | ⟨hy, hx, -, hsat⟩
    · exact Or.inl h
    · exact Or.inr ⟨hy, hx, hsat⟩
  · intro h
    rcases h with h | h
    · exact Or.inl h
    · exact Or.inr ⟨h.ordinate, h.abscissa, ha, h.satisfies⟩

/-- Coordinates that are no residues are blamed. -/
lemma blamesValue_of_contains_eq_error {Q : Point} (ha : c.hasArithmetic) {e : Error}
    (h : c.contains Q = .error e) : e.BlamesValue := by
  rw [contains] at h
  split_ifs at h with hinfinite hy hx
  · exact blamesValue_of_reject h (Or.inl rfl)
  · exact blamesValue_of_reject h (Or.inl rfl)

/-! ### Elements and their coordinates -/

section Element

variable [Fact c.p.toNat.Prime] {Q R : Point} {A B : c.Element}

@[simp] lemma negY_eq (x y : c.Residue) : c.weierstrass.negY x y = -y := by
  simp [negY]

lemma satisfies_iff : c.Satisfies Q ↔ c.weierstrass.Equation (Q.x : c.Residue) Q.y := by
  rw [Satisfies, ← intCast_eq_zero_iff, equation_iff_sq, ← sub_eq_zero (a := _ ^ 2), cubic]
  push_cast
  ring_nf

lemma intCast_ordinate_ne_zero (hQ : c.HasPoint Q) : (Q.y : c.Residue) ≠ 0 := by
  rw [Ne, intCast_eq_zero_iff, Int.emod_eq_of_lt hQ.ordinate.1.le hQ.ordinate.2]
  exact hQ.not_isInfinite

/-- A finite point is not singular, as its ordinate is not zero. -/
lemma HasPoint.nonsingular (odd : c.p ≠ 2) (hQ : c.HasPoint Q) :
    c.weierstrass.Nonsingular (Q.x : c.Residue) Q.y := by
  rw [nonsingular_iff]
  refine ⟨satisfies_iff.1 hQ.satisfies, Or.inr ?_⟩
  intro h
  simp only [weierstrass_a₁, weierstrass_a₃, zero_mul, sub_zero] at h
  have hdouble : 2 * (Q.y : c.Residue) = 0 := by linear_combination h
  exact mul_ne_zero (two_ne_zero_of_odd odd) (intCast_ordinate_ne_zero hQ) hdouble

lemma HasPoint.element_eq (odd : c.p ≠ 2) (hQ : c.HasPoint Q) :
    c.element Q = .some _ _ (hQ.nonsingular odd) :=
  dif_pos ⟨hQ.not_isInfinite, hQ.nonsingular odd⟩

lemma HasPoint.element_ne_zero (odd : c.p ≠ 2) (hQ : c.HasPoint Q) : c.element Q ≠ 0 := by
  rw [hQ.element_eq odd]
  exact Point.some_ne_zero _

/-- A point on the curve is infinite exactly if its element is. -/
lemma element_eq_zero_iff (odd : c.p ≠ 2) (hQ : Q.IsInfinite ∨ c.HasPoint Q) :
    c.element Q = 0 ↔ Q.IsInfinite := by
  constructor
  · intro h
    apply hQ.resolve_right
    intro hpoint
    exact hpoint.element_ne_zero odd h
  · exact element_of_isInfinite

lemma HasPoint.pointOf_element (odd : c.p ≠ 2) (hQ : c.HasPoint Q) :
    c.pointOf (c.element Q) = Q := by
  rw [hQ.element_eq odd, pointOf_some, val_intCast hQ.abscissa,
    val_intCast ⟨hQ.ordinate.1.le, hQ.ordinate.2⟩]

/-- An element is its own opposite if it is infinite or has the ordinate zero. -/
lemma add_self_eq_zero_iff (odd : c.p ≠ 2) : A + A = 0 ↔ (c.pointOf A).IsInfinite := by
  match A with
  | .zero => simp [← Point.zero_def, Point.isInfinite_infinity]
  | .some x y h =>
    rw [pointOf_some, Point.IsInfinite, Int.natCast_eq_zero, ZMod.val_eq_zero]
    constructor
    · intro hA
      by_contra hy
      have hne : y ≠ c.weierstrass.negY x y := by
        intro heq
        rw [negY_eq] at heq
        have hdouble : 2 * y = 0 := by linear_combination heq
        exact mul_ne_zero (two_ne_zero_of_odd odd) hy hdouble
      rw [Point.add_self_of_Y_ne hne] at hA
      exact Point.some_ne_zero _ hA
    · intro hy
      exact Point.add_self_of_Y_eq (by rw [negY_eq, hy, neg_zero])

lemma hasPoint_pointOf (odd : c.p ≠ 2) (hA : A + A ≠ 0) : c.HasPoint (c.pointOf A) := by
  rw [Ne, add_self_eq_zero_iff odd] at hA
  match A with
  | .zero => exact absurd Point.isInfinite_infinity hA
  | .some x y h =>
    have hy := val_nonneg_lt y
    refine ⟨⟨lt_of_le_of_ne hy.1 (Ne.symm hA), hy.2⟩, val_nonneg_lt x, ?_⟩
    rw [satisfies_iff]
    simpa using h.1

lemma isInfinite_or_hasPoint_pointOf (odd : c.p ≠ 2) (A : c.Element) :
    (c.pointOf A).IsInfinite ∨ c.HasPoint (c.pointOf A) := by
  rw [← add_self_eq_zero_iff odd]
  exact or_iff_not_imp_left.2 (hasPoint_pointOf odd)

lemma element_pointOf (odd : c.p ≠ 2) (hA : A + A = 0 → A = 0) :
    c.element (c.pointOf A) = A := by
  by_cases h : A + A = 0
  · rw [hA h]
    exact element_of_isInfinite Point.isInfinite_infinity
  · rw [(hasPoint_pointOf odd h).element_eq odd]
    match A with
    | .zero => exact absurd (add_zero 0) h
    | .some x y hxy => simp

omit [Fact c.p.toNat.Prime] in
/-- Opposite elements have the same abscissa. -/
lemma x_pointOf_neg (A : c.Element) : (c.pointOf (-A)).x = (c.pointOf A).x := by
  match A with
  | .zero => rfl
  | .some x y h => rfl

/-- The opposite of an element is written as infinite if the element is. -/
lemma isInfinite_pointOf_neg (odd : c.p ≠ 2) :
    (c.pointOf (-A)).IsInfinite ↔ (c.pointOf A).IsInfinite := by
  rw [← add_self_eq_zero_iff odd, ← add_self_eq_zero_iff odd, ← neg_add, neg_eq_zero]

/-- Different finite points are different elements. -/
lemma HasPoint.eq_of_element_eq (odd : c.p ≠ 2) (hQ : c.HasPoint Q) (hR : c.HasPoint R)
    (h : c.element Q = c.element R) : Q = R := by
  rw [← hQ.pointOf_element odd, h, hR.pointOf_element odd]

end Element

/-! ### The generator -/

/-- The curve has arithmetic, and the order of its generator in the group is an odd prime. -/
structure HasOddPrimeOrder (c : Curve) [Fact c.p.toNat.Prime] : Prop where
  hasArithmetic : c.hasArithmetic = true
  generator : c.HasPoint c.G
  prime : c.n.toNat.Prime
  odd : c.n ≠ 2
  order : addOrderOf (c.element c.G) = c.n.toNat

section Generator

variable [hp : Fact c.p.toNat.Prime] {A : c.Element}

/-- Modulo two, every element is its own opposite. -/
lemma add_self_of_p_eq_two (h : c.p = 2) : A + A = 0 := by
  match A with
  | .zero => exact add_zero 0
  | .some x y hxy =>
    have htwo : (2 : c.Residue) = 0 := by
      have hmod : (2 : ℤ) % c.p = 0 := by rw [h]; rfl
      exact_mod_cast intCast_eq_zero_iff.2 hmod
    refine Point.add_self_of_Y_eq ?_
    rw [negY_eq]
    linear_combination y * htwo

/-- Factors count modulo the order of an element. -/
lemma emod_zsmul (hA : c.n • A = 0) (m : ℤ) : (m % c.n) • A = m • A := by
  rw [Int.emod_def, sub_zsmul, mul_comm, mul_zsmul, hA, zsmul_zero, neg_zero, add_zero]

lemma zsmul_eq_of_modEq (hA : c.n • A = 0) {k m : ℤ} (h : k ≡ m [ZMOD c.n]) : k • A = m • A := by
  rw [← emod_zsmul hA k, h, emod_zsmul hA]

/-- A factor with an inverse modulo the order can be brought to the other side. -/
lemma zsmul_eq_iff {B : c.Element} (hA : c.n • A = 0) (hB : c.n • B = 0) {i r : ℤ}
    (hinv : i * r ≡ 1 [ZMOD c.n]) : r • A = B ↔ A = i • B := by
  constructor
  · rintro rfl
    rw [← mul_zsmul', mul_comm, zsmul_eq_of_modEq hA hinv, one_zsmul]
  · rintro rfl
    rw [← mul_zsmul', zsmul_eq_of_modEq hB hinv, one_zsmul]

/-- The point `m G`. -/
noncomputable def baseMultiple (c : Curve) [Fact c.p.toNat.Prime] (m : ℤ) : Point :=
  c.pointOf (m • c.element c.G)

namespace HasOddPrimeOrder

variable (hc : c.HasOddPrimeOrder)
include hc

lemma n_pos : 0 < c.n := by
  have := hc.prime.pos
  omega

lemma natCast_toNat_n : (c.n.toNat : ℤ) = c.n :=
  Int.toNat_of_nonneg hc.n_pos.le

lemma two_lt_n : 2 < c.n := by
  have := hc.prime.two_le
  have := hc.odd
  omega

lemma n_emod_two : c.n % 2 = 1 := by
  have := hc.prime.eq_two_or_odd
  have := hc.odd
  omega

lemma prime_n_int : Prime c.n := by
  rw [← hc.natCast_toNat_n]
  exact Nat.prime_iff_prime_int.1 hc.prime

lemma p_ne_two : c.p ≠ 2 := by
  intro h
  have hdvd : addOrderOf (c.element c.G) ∣ 2 :=
    addOrderOf_dvd_of_nsmul_eq_zero (by rw [two_nsmul, add_self_of_p_eq_two h])
  rw [hc.order, Nat.prime_dvd_prime_iff_eq hc.prime Nat.prime_two] at hdvd
  have := hc.odd
  omega

/-- A multiple of the generator is infinite only if the order divides the factor. -/
lemma zsmul_generator_eq_zero_iff {m : ℤ} : m • c.element c.G = 0 ↔ c.n ∣ m := by
  rw [← addOrderOf_dvd_iff_zsmul_eq_zero, hc.order, hc.natCast_toNat_n]

/-- Elements whose order divides the order of the generator are no opposites of themselves. -/
lemma eq_zero_of_add_self (hA : c.n • A = 0) (h : A + A = 0) : A = 0 := by
  have hn : addOrderOf A ∣ c.n.toNat := by
    rw [addOrderOf_dvd_iff_nsmul_eq_zero, ← natCast_zsmul, hc.natCast_toNat_n, hA]
  have htwo : addOrderOf A ∣ 2 := addOrderOf_dvd_of_nsmul_eq_zero (by rw [two_nsmul, h])
  have hcoprime : Nat.Coprime c.n.toNat 2 := by
    rw [Nat.coprime_primes hc.prime Nat.prime_two]
    have := hc.odd
    omega
  rw [← AddMonoid.addOrderOf_eq_one_iff]
  exact Nat.eq_one_of_dvd_coprimes hcoprime hn htwo

/-- They are of the order of the generator, unless they are infinite. -/
lemma zsmul_eq_zero_iff (hA : c.n • A = 0) {m : ℤ} : m • A = 0 ↔ c.n ∣ m ∨ A = 0 := by
  by_cases hzero : A = 0
  · simp only [hzero, zsmul_zero, or_true]
  · have := Fact.mk hc.prime
    have horder : addOrderOf A = c.n.toNat := by
      refine addOrderOf_eq_prime ?_ hzero
      rw [← natCast_zsmul, hc.natCast_toNat_n, hA]
    rw [← addOrderOf_dvd_iff_zsmul_eq_zero, horder, hc.natCast_toNat_n, or_iff_left hzero]

lemma n_zsmul_generator : c.n • c.element c.G = 0 :=
  hc.zsmul_generator_eq_zero_iff.2 dvd_rfl

/-- Doublings of the generator are never infinite. -/
lemma two_pow_nsmul_generator_ne_zero (k : ℕ) : 2 ^ k • c.element c.G ≠ 0 := by
  intro h
  rw [← addOrderOf_dvd_iff_nsmul_eq_zero, hc.order] at h
  have htwo := (Nat.prime_dvd_prime_iff_eq hc.prime Nat.prime_two).1 (hc.prime.dvd_of_dvd_pow h)
  have := hc.odd
  omega

lemma n_zsmul_zsmul_generator (m : ℤ) : c.n • m • c.element c.G = 0 := by
  rw [zsmul_comm, hc.n_zsmul_generator, zsmul_zero]

lemma n_zsmul_combination (hA : c.n • A = 0) (e r : ℤ) :
    c.n • (e • c.element c.G + r • A) = 0 := by
  rw [zsmul_add, hc.n_zsmul_zsmul_generator, zsmul_comm, hA, zsmul_zero, add_zero]

@[simp] lemma element_baseMultiple (m : ℤ) : c.element (c.baseMultiple m) = m • c.element c.G :=
  element_pointOf hc.p_ne_two (hc.eq_zero_of_add_self (hc.n_zsmul_zsmul_generator m))

@[simp] lemma n_zsmul_element_baseMultiple (m : ℤ) : c.n • c.element (c.baseMultiple m) = 0 := by
  rw [hc.element_baseMultiple, hc.n_zsmul_zsmul_generator]

lemma hasPoint_baseMultiple {m : ℤ} (hm : ¬ c.n ∣ m) : c.HasPoint (c.baseMultiple m) := by
  apply hasPoint_pointOf hc.p_ne_two
  intro h
  apply hm
  rw [← hc.zsmul_generator_eq_zero_iff]
  exact hc.eq_zero_of_add_self (hc.n_zsmul_zsmul_generator m) h

lemma isInfinite_baseMultiple_iff {m : ℤ} : (c.baseMultiple m).IsInfinite ↔ c.n ∣ m := by
  constructor
  · intro h
    by_contra hm
    exact (hc.hasPoint_baseMultiple hm).not_isInfinite h
  · intro h
    rw [baseMultiple, hc.zsmul_generator_eq_zero_iff.2 h]
    exact Point.isInfinite_infinity

/-- The equation of recovery has one solution. -/
lemma add_zsmul_generator_eq_iff {B : c.Element} (hA : c.n • A = 0) (hB : c.n • B = 0)
    {i r : ℤ} (hinv : i * r ≡ 1 [ZMOD c.n]) (e s : ℤ) :
    r • A + e • c.element c.G = s • B ↔ A = i • (s • B - e • c.element c.G) := by
  have hdiff : c.n • (s • B - e • c.element c.G) = 0 := by
    rw [zsmul_sub, zsmul_comm, hB, hc.n_zsmul_zsmul_generator, zsmul_zero, sub_zero]
  rw [← zsmul_eq_iff hA hdiff hinv, eq_sub_iff_add_eq]

lemma baseMultiple_eq_of_modEq {k m : ℤ} (h : k ≡ m [ZMOD c.n]) :
    c.baseMultiple k = c.baseMultiple m := by
  rw [baseMultiple, baseMultiple, zsmul_eq_of_modEq hc.n_zsmul_generator h]

/-- Different factors in range give different multiples of the generator. -/
lemma baseMultiple_inj {k m : ℤ} (hk : 0 < k ∧ k < c.n) (hm : 0 < m ∧ m < c.n) :
    c.baseMultiple k = c.baseMultiple m ↔ k = m := by
  constructor
  · intro h
    have helement := congrArg c.element h
    rw [hc.element_baseMultiple, hc.element_baseMultiple, ← sub_eq_zero, sub_eq_add_neg,
      ← sub_zsmul, hc.zsmul_generator_eq_zero_iff] at helement
    have hzero := Int.eq_zero_of_abs_lt_dvd helement (by rw [abs_lt]; omega)
    exact sub_eq_zero.1 hzero
  · rintro rfl
    rfl

end HasOddPrimeOrder

/-- A prime that leads the generator to the infinite element is its order. -/
lemma hasOddPrimeOrder_of_zsmul_eq_zero (odd : c.p ≠ 2) (ha : c.hasArithmetic = true)
    (hG : c.HasPoint c.G) (hn : c.n.toNat.Prime) (hn2 : c.n ≠ 2)
    (h : c.n • c.element c.G = 0) : c.HasOddPrimeOrder where
  hasArithmetic := ha
  generator := hG
  prime := hn
  odd := hn2
  order := by
    have := Fact.mk hn
    have hpos := hn.pos
    refine addOrderOf_eq_prime ?_ (hG.element_ne_zero odd)
    rwa [← natCast_zsmul, Int.toNat_of_nonneg (by omega)]

end Generator

/-! ### Groups of odd order -/

/-- The curve is not singular, and its group has an odd number of elements. -/
structure HasOddGroup (c : Curve) [Fact c.p.toNat.Prime] : Prop where
  discriminant : c.weierstrass.Δ ≠ 0
  odd : Odd (Nat.card c.Element)

namespace HasOddGroup

variable [Fact c.p.toNat.Prime] (hodd : c.HasOddGroup)
include hodd

lemma eq_zero_of_add_self {A : c.Element} (h : A + A = 0) : A = 0 := by
  have htwo : addOrderOf A ∣ 2 := addOrderOf_dvd_of_nsmul_eq_zero (by rw [two_nsmul, h])
  have hcard : addOrderOf A ∣ Nat.card c.Element := addOrderOf_dvd_natCard A
  rw [← AddMonoid.addOrderOf_eq_one_iff]
  exact Nat.eq_one_of_dvd_coprimes (Nat.coprime_two_right.2 hodd.odd) hcard htwo

/-- No point of the curve has the ordinate zero, as it would be its own opposite. -/
lemma not_satisfies (x : ℤ) : ¬ c.Satisfies ⟨x, 0⟩ := by
  intro h
  rw [satisfies_iff, Int.cast_zero, equation_iff_nonsingular_of_Δ_ne_zero hodd.discriminant] at h
  have hzero : (Point.some _ _ h : c.Element) + .some _ _ h = 0 :=
    Point.add_self_of_Y_eq (by rw [negY_eq, neg_zero])
  exact Point.some_ne_zero _ (hodd.eq_zero_of_add_self hzero)

end HasOddGroup

section Finite

variable [Fact c.p.toNat.Prime]

instance : Finite c.Element := by
  have : Finite (WithZero {xy : c.Residue × c.Residue // c.weierstrass.Nonsingular xy.1 xy.2}) :=
    inferInstanceAs (Finite (Option _))
  exact Finite.of_equiv _ c.weierstrass.nonsingularPointEquiv.symm

lemma discriminant_ne_zero_iff :
    c.weierstrass.Δ ≠ 0 ↔ 16 * (4 * c.a ^ 3 + 27 * c.b ^ 2) % c.p ≠ 0 := by
  have hΔ : c.weierstrass.Δ = -(16 * (4 * c.a ^ 3 + 27 * c.b ^ 2) : ℤ) := by
    simp only [WeierstrassCurve.Δ, WeierstrassCurve.b₂, WeierstrassCurve.b₄, WeierstrassCurve.b₆,
      WeierstrassCurve.b₈, weierstrass_a₁, weierstrass_a₂, weierstrass_a₃, weierstrass_a₄,
      weierstrass_a₆]
    push_cast
    ring
  rw [hΔ, neg_ne_zero, Ne, intCast_eq_zero_iff]

/-- The group is odd if the cubic of the equation has no root. -/
lemma hasOddGroup_of_forall_not_satisfies (odd : c.p ≠ 2) (hΔ : c.weierstrass.Δ ≠ 0)
    (h : ∀ x : ℤ, 0 ≤ x → x < c.p → ¬ c.Satisfies ⟨x, 0⟩) : c.HasOddGroup where
  discriminant := hΔ
  odd := by
    by_contra heven
    rw [Nat.not_odd_iff_even, even_iff_two_dvd] at heven
    have := Fintype.ofFinite c.Element
    rw [Nat.card_eq_fintype_card] at heven
    obtain ⟨A, hA⟩ := exists_prime_addOrderOf_dvd_card 2 heven
    have hzero : A + A = 0 := by
      rw [← two_nsmul, ← hA, addOrderOf_nsmul_eq_zero]
    match A, hA with
    | .zero, hA => simp [← Point.zero_def] at hA
    | .some x y hxy, _ =>
      have hy : y = 0 := by
        rw [add_self_eq_zero_iff odd, pointOf_some, Point.IsInfinite, Int.natCast_eq_zero,
          ZMod.val_eq_zero] at hzero
        exact hzero
      have hx := val_nonneg_lt x
      refine h x.val hx.1 hx.2 ?_
      rw [satisfies_iff]
      simpa [hy] using hxy.1

end Finite

end Ecdsa.Curve
