import Ecdsa.Proofs.Curve.Ordinate
import Ecdsa.Proofs.Curve.SumOfMultiples

/-!
# The action of the scalars

Where the order of the generator leads a point to infinity, reducing a scalar modulo the order does
not change the multiple in the group, and the integers act on the multiples of the point
(`scalarsActOn`). What is computed is the multiple, but for one scalar: the run for minus two comes
to the opposite of the point before its last digit, which is to subtract the point. If the triple
has Z = 1 there it collides, and the multiple is lost. The order must be an odd prime; a prime order
is odd on a curve whose group is.
-/

namespace Ecdsa.Curve

open Ecdsa.Modular

variable {c : Curve}

/-- The scalar is minus two modulo the order, and its run ends in a collision. Multiples of the
generator come from its table and are not lost. -/
def LosesMultiple (c : Curve) (m : ℤ) (P : Point) : Prop :=
  m % c.n = c.n - 2 ∧ P ≠ c.G ∧ ¬ P.IsInfinite ∧ (Jacobian.multiple c.p c.a (c.n - 2) P).Z = 0

instance (c : Curve) (m : ℤ) (P : Point) : Decidable (c.LosesMultiple m P) :=
  inferInstanceAs (Decidable (m % c.n = c.n - 2 ∧ P ≠ c.G ∧ ¬ P.IsInfinite ∧
    (Jacobian.multiple c.p c.a (c.n - 2) P).Z = 0))

/-- The multiples of the coordinates, which are those of `P`, by integers of any sign and size. -/
structure ScalarsActOn (c : Curve) [Fact c.p.toNat.Prime] (Q : Coordinates) (P : Point) : Prop where
  /-- Every multiple is that of the group, or lost. -/
  multiple : ∀ a : ℤ, ∃ R, c.mult (.number (.int a)) Q = .ok R ∧
    R.point = .ok (if c.LosesMultiple a P then .infinity else c.pointOf (a • c.element P))
  /-- The multiple by a sum is the sum of the multiples, if none of the three is lost. -/
  add : ∀ a b : ℤ, ∃ R R₁ R₂ S, c.mult (.number (.int (a + b))) Q = .ok R ∧
    c.mult (.number (.int a)) Q = .ok R₁ ∧ c.mult (.number (.int b)) Q = .ok R₂ ∧
    c.add R₁ R₂ = .ok S ∧ (¬ c.LosesMultiple (a + b) P → ¬ c.LosesMultiple a P →
      ¬ c.LosesMultiple b P → (R == S) = true)
  /-- The multiple by a product is the multiple of the multiple, if none of the three is lost. -/
  mul : ∀ a b : ℤ, ∃ R R₁ B S, c.mult (.number (.int (a * b))) Q = .ok R ∧
    c.mult (.number (.int b)) Q = .ok R₁ ∧ R₁.point = .ok B ∧
    c.mult (.number (.int a)) R₁ = .ok S ∧ (¬ c.LosesMultiple (a * b) P → ¬ c.LosesMultiple b P →
      ¬ c.LosesMultiple a B → (R == S) = true)
  /-- Multiples by opposite scalars that are not lost are opposite, or infinite. -/
  opposite : ∀ a : ℤ, ∃ R R₁ B, c.mult (.number (.int (c.n - a))) Q = .ok R ∧
    c.mult (.number (.int a)) Q = .ok R₁ ∧ R₁.point = .ok B ∧
    (¬ c.LosesMultiple (c.n - a) P → ¬ c.LosesMultiple a P →
      R.point = .ok (if c.n ∣ a ∨ P.IsInfinite then .infinity else ⟨B.x, c.p - B.y⟩))
  /-- Without reducing the scalar the multiple is the same, if no triples collide on the way. -/
  unreduced : ∀ a : ℤ, 0 ≤ a → ∃ R S, c.unreducedMultiple a Q = .ok R ∧
    c.mult (.number (.int a)) Q = .ok S ∧
    R.point = .ok (c.pointOf (c.ladderFactor c.Collides a P • c.element P)) ∧
    (Jacobian.RunsFreely c.p c.a c.Collides (Jacobian.signed (.ofPoint P)) (SignedDigit.digits a) →
      ¬ c.LosesMultiple a P → (R == S) = true)

section Action

variable [Fact c.p.toNat.Prime] {Q : Coordinates} {P : Point} {A : c.Element}
  (hc : c.HasOddPrimeOrder)
include hc

/-! ### The run for a reduced scalar -/

/-- Two more than a reduced scalar leads a point to infinity only if the scalar is minus two. -/
lemma eq_sub_two_of_zsmul_eq_zero (hP : c.HasPoint P) (hn : c.n • c.element P = 0) {k : ℤ}
    (hk : 0 ≤ k ∧ k < c.n) (h : (k + 2) • c.element P = 0) : k = c.n - 2 := by
  have htwo := hc.two_lt_n
  have hdvd := ((hc.zsmul_eq_zero_iff hn).1 h).resolve_right (hP.element_ne_zero hc.p_ne_two)
  have hle := Int.le_of_dvd (by omega) hdvd
  have hzero : k + 2 - c.n = 0 :=
    Int.eq_zero_of_dvd_of_nonneg_of_lt (by omega) (by omega) (dvd_sub_self_right.2 hdvd)
  omega

/-- Along the digits of a reduced scalar triples collide only at the last digit of minus two. -/
lemma runsFreely_or_counted_eq_nil (hP : c.HasPoint P) (hn : c.n • c.element P = 0) {k : ℤ}
    (hk : 0 ≤ k ∧ k < c.n) :
    Jacobian.RunsFreely c.p c.a c.Collides (Jacobian.signed (.ofPoint P)) (SignedDigit.digits k) ∨
      k = c.n - 2 ∧ k % 4 = 3 ∧ Jacobian.counted c.p c.a c.Collides
        (Jacobian.signed (.ofPoint P)) (SignedDigit.digits k) = [] := by
  have htwo := hc.two_lt_n
  have law := addsInGroup_standardAddition (c := c) hc.p_ne_two
  fun_induction SignedDigit.digits k with
  | case1 => exact Or.inl trivial
  | case2 k _ even ih =>
    -- half of a reduced scalar is minus two only for `n = 3`, and then it is one
    have hfree := (ih ⟨by omega, by omega⟩).resolve_right fun h => by omega
    refine Or.inl ⟨?_, hfree⟩
    rintro ⟨D, hD, -⟩
    cases hD
  | case3 k _ odd one ih =>
    -- what is left is even, here and below, as no two digits in a row are not zero
    have hfree := (ih ⟨by omega, by omega⟩).resolve_right fun h => by omega
    refine Or.inl ⟨?_, hfree⟩
    rintro ⟨D, hD, hcollides⟩
    obtain rfl := Option.some.inj hD
    exact law.not_excepted (Jacobian.isReduced_double p_pos _ _) hP.isReduced hcollides
  | case4 k _ odd three ih =>
    have hfree := (ih ⟨by omega, by omega⟩).resolve_right fun h => by omega
    by_cases hrun : Jacobian.RunsFreely c.p c.a c.Collides (Jacobian.signed (.ofPoint P))
        (.minus :: SignedDigit.digits ((k + 1) / 2))
    · exact Or.inl hrun
    obtain ⟨D, hD, hcollides⟩ := not_not.1 fun h => hrun ⟨h, hfree⟩
    obtain rfl := Option.some.inj hD
    have hrep := hP.represents hc.p_ne_two
    have hdouble := (represents_accumulate law hc.p_ne_two hrep.signed
      (SignedDigit.digits ((k + 1) / 2))).double hc.p_ne_two
    rw [hfree.counted_eq, total_signed, SignedDigit.value_digits] at hdouble
    have hopposite := law.eq_of_excepted hdouble hrep.neg hcollides
    have hzero : (k + 2) • c.element P = 0 := by
      rw [show k + 2 = (k + 1) / 2 + (k + 1) / 2 + 1 by omega, add_zsmul, add_zsmul, one_zsmul,
        hopposite, neg_add_cancel]
    refine Or.inr ⟨eq_sub_two_of_zsmul_eq_zero hc hP hn hk hzero, by omega, ?_⟩
    rw [Jacobian.counted, if_pos ⟨_, rfl, hcollides⟩]

/-- A lost multiple is infinite, and what is not lost is the multiple in the group. -/
lemma countedFactor_zsmul (hP : P.IsInfinite ∨ c.HasPoint P) (hn : c.n • c.element P = 0) (m : ℤ) :
    c.countedFactor c.Collides (m % c.n) P • c.element P =
      if c.LosesMultiple m P then 0 else m • c.element P := by
  rw [← emod_zsmul hn m]
  rcases hP with hP | hP
  · rw [element_of_isInfinite hP, zsmul_zero, zsmul_zero, ite_self]
  have hrep := represents_multiple (addsInGroup_standardAddition hc.p_ne_two) hc.p_ne_two hP
  by_cases hG : P = c.G
  · rw [countedFactor, if_pos hG, if_neg fun h => h.2.1 hG]
  rw [countedFactor, if_neg hG]
  split_ifs with hlost
  · rw [hlost.1]
    exact (hrep _).Z_eq_zero_iff.1 hlost.2.2.2
  · rcases runsFreely_or_counted_eq_nil hc hP hn (emod_nonneg_lt hc.n_pos m) with
      hfree | ⟨htwo, hthree, hnone⟩
    · rw [ladderFactor_of_runsFreely hfree]
    · -- nothing counts, so the multiple is infinite and was lost
      have hone : m % c.n ≠ 1 := by omega
      have hfactor : c.ladderFactor c.Collides (m % c.n) P = 0 := by
        rw [ladderFactor, if_neg hone, hnone, SignedDigit.value]
      have hZ := (hrep (m % c.n)).Z_eq_zero_iff.2 (by rw [hfactor, zero_zsmul])
      rw [htwo] at hZ
      exact absurd ⟨htwo, hG, hP.not_isInfinite, hZ⟩ hlost

/-! ### Multiples by any scalar -/

lemma exists_mult_of_zsmul_eq_zero (hQ : Q.point = .ok P) (hP : P.IsInfinite ∨ c.HasPoint P)
    (hn : c.n • c.element P = 0) (m : ℤ) :
    ∃ R, c.mult (.number (.int m)) Q = .ok R ∧
      R.point = .ok (c.pointOf (if c.LosesMultiple m P then 0 else m • c.element P)) := by
  rw [← countedFactor_zsmul hc hP hn]
  exact exists_mult_counted hc hQ hP m

omit hc in
/-- The order leads lost multiples and those of the group to infinity. -/
lemma n_zsmul_ite (hn : c.n • c.element P = 0) (m : ℤ) :
    c.n • (if c.LosesMultiple m P then 0 else m • c.element P) = 0 := by
  split_ifs
  · rw [zsmul_zero]
  · rw [zsmul_comm, hn, zsmul_zero]

/-- The coordinates of the opposite of a multiple. -/
lemma pointOf_sub_zsmul (hA : c.n • A = 0) (a : ℤ) :
    c.pointOf ((c.n - a) • A) = if c.n ∣ a ∨ A = 0 then .infinity
      else ⟨(c.pointOf (a • A)).x, c.p - (c.pointOf (a • A)).y⟩ := by
  rw [sub_zsmul, hA, zero_add]
  split_ifs with hzero
  · rw [(hc.zsmul_eq_zero_iff hA).2 hzero, neg_zero, pointOf_zero]
  · apply pointOf_neg hc.p_ne_two
    intro hself
    have hmultiple : c.n • a • A = 0 := by rw [zsmul_comm, hA, zsmul_zero]
    exact hzero ((hc.zsmul_eq_zero_iff hA).1 (hc.eq_zero_of_add_self hmultiple hself))

/-- The integers act on the points of the subgroup where no multiple is lost. -/
theorem scalarsActOn (hQ : c.requireOnCurve Q = .ok P) (hn : c.n • c.element P = 0) :
    c.ScalarsActOn Q P := by
  have hpoint := (of_requireOnCurve_eq_ok hQ).1
  have hP := isInfinite_or_hasPoint_of_requireOnCurve hc.hasArithmetic hQ
  have hmult := exists_mult_of_zsmul_eq_zero hc hpoint hP hn
  have hself (m : ℤ) := hc.eq_zero_of_add_self (n_zsmul_ite hn m)
  constructor
  case multiple =>
    intro a
    obtain ⟨R, hR, hRpoint⟩ := hmult a
    rw [apply_ite c.pointOf, pointOf_zero] at hRpoint
    exact ⟨R, hR, hRpoint⟩
  case add =>
    intro a b
    obtain ⟨R, hR, hsum⟩ := hmult (a + b)
    obtain ⟨R₁, hR₁, hpoint₁⟩ := hmult a
    obtain ⟨R₂, hR₂, hpoint₂⟩ := hmult b
    obtain ⟨S, hS, hSpoint⟩ := exists_add hc (hself a) (hself b) hpoint₁ hpoint₂
    refine ⟨R, R₁, R₂, S, hR, hR₁, hR₂, hS, fun hab ha hb => ?_⟩
    rw [if_neg hab, add_zsmul] at hsum
    rw [if_neg ha, if_neg hb] at hSpoint
    exact (Coordinates.beq_iff_of_point_eq hsum hSpoint).2 rfl
  case mul =>
    intro a b
    obtain ⟨R, hR, hproduct⟩ := hmult (a * b)
    obtain ⟨R₁, hR₁, hpoint₁⟩ := hmult b
    have helement := element_pointOf hc.p_ne_two (hself b)
    obtain ⟨S, hS, hSpoint⟩ := exists_mult_of_zsmul_eq_zero hc hpoint₁
      (isInfinite_or_hasPoint_pointOf hc.p_ne_two _) (by rw [helement, n_zsmul_ite hn]) a
    refine ⟨R, R₁, _, S, hR, hR₁, hpoint₁, hS, fun hab hb ha => ?_⟩
    rw [if_neg ha, helement, if_neg hb, ← mul_zsmul] at hSpoint
    rw [if_neg hab] at hproduct
    exact (Coordinates.beq_iff_of_point_eq hproduct hSpoint).2 rfl
  case opposite =>
    intro a
    obtain ⟨R, hR, hopposite⟩ := hmult (c.n - a)
    obtain ⟨R₁, hR₁, hpoint₁⟩ := hmult a
    refine ⟨R, R₁, _, hR, hR₁, hpoint₁, fun hna ha => ?_⟩
    rw [hopposite, if_neg hna, if_neg ha, pointOf_sub_zsmul hc hn]
    simp only [element_eq_zero_iff hc.p_ne_two hP]
  case unreduced =>
    intro a ha
    obtain ⟨R, hR, hRpoint⟩ := exists_unreducedMultiple_counted hc hpoint hP ha
    obtain ⟨S, hS, hSpoint⟩ := hmult a
    refine ⟨R, S, hR, hS, hRpoint, fun hfree hlost => ?_⟩
    rw [ladderFactor_of_runsFreely hfree] at hRpoint
    rw [if_neg hlost] at hSpoint
    exact (Coordinates.beq_iff_of_point_eq hRpoint hSpoint).2 rfl

end Action

lemma small_n_zsmul_five : small.n • small.element ⟨114, 46⟩ = 0 := by
  rw [← small_baseMultiple_five]
  exact small_hasOddPrimeOrder.n_zsmul_element_baseMultiple 5

/-- Five times the generator of the small curve, none of whose multiples is lost. -/
theorem scalarsActOn_small :
    small.ScalarsActOn (⟨114, 46⟩ : Point) ⟨114, 46⟩ ∧ ¬ small.LosesMultiple (-2) ⟨114, 46⟩ :=
  ⟨scalarsActOn small_hasOddPrimeOrder rfl small_n_zsmul_five, by decide +kernel⟩

/-- The multiple of this point by 107 loses its multiple by minus two, which is 279. -/
theorem not_forall_mult_mul :
    ¬ ∀ (c : Curve) [Fact c.p.toNat.Prime] (Q : Coordinates) (P : Point), c.HasOddPrimeOrder →
      c.HasOddGroup → c.requireOnCurve Q = .ok P → c.n • c.element P = 0 →
        ∀ a b : ℤ, ∃ R R₁ S, c.mult (.number (.int (a * b))) Q = .ok R ∧
          c.mult (.number (.int b)) Q = .ok R₁ ∧ c.mult (.number (.int a)) R₁ = .ok S ∧
          (R == S) = true := by
  intro h
  obtain ⟨R, R₁, S, hR, hR₁, hS, heq⟩ := h small (⟨114, 46⟩ : Point) ⟨114, 46⟩
    small_hasOddPrimeOrder small_hasOddGroup rfl small_n_zsmul_five 279 107
  have heval : (do
      let R ← small.mult (.number (.int (279 * 107))) (⟨114, 46⟩ : Point)
      let R₁ ← small.mult (.number (.int 107)) (⟨114, 46⟩ : Point)
      let S ← small.mult (.number (.int 279)) R₁
      return R == S).toOption = some false := by
    decide +kernel
  rw [hR, ok_bind, hR₁, ok_bind, hS, ok_bind, heq] at heval
  cases heval

end Ecdsa.Curve
