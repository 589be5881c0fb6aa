import Ecdsa.Curve.Arithmetic
import Ecdsa.Proofs.Curve.GeneratorMultiple

/-!
# What a curve computes

Multiples by a reduced factor, and sums of two, represent multiples by the factors that count
(`exists_multiple`, `exists_jointMultiple`). With an addition of the group that has no exception
these are the factors that were given: the curve computes in its group (`computesInGroup`). With the
standard addition it does so for multiples of the generator only, and not for all multiples
(`not_computesInGroup_small`).
-/

namespace Ecdsa.Curve

open Ecdsa.Modular

variable {c : Curve} [Fact c.p.toNat.Prime]

section Law

variable [PointAddition]

/-! ### Factors that count -/

section Factors

variable {Excepted : Jacobian → Jacobian → Prop} [DecidableRel Excepted]

/-- The factor by which a point is multiplied where its multiple by a reduced `m` is computed. -/
def countedFactor (c : Curve) (Excepted : Jacobian → Jacobian → Prop) [DecidableRel Excepted]
    (m : ℤ) (Q : Point) : ℤ :=
  if Q = c.G then m else c.ladderFactor Excepted m Q

/-- The multiples of the points are not computed each by itself, but in one pass over the digits of
both factors. -/
def JoinsDigits (c : Curve) (u : ℤ) (H : Point) (v : ℤ) (G : Point) : Prop :=
  (u ≠ 0 ∧ ¬ H.IsInfinite) ∧ (v ≠ 0 ∧ ¬ G.IsInfinite) ∧ ¬ (G = c.G ∧ H = c.G) ∧
    (PointAddition.sum c.p c.a (Jacobian.ofPoint G).neg (Jacobian.ofPoint H).neg).Z ≠ 0

instance (c : Curve) (u : ℤ) (H : Point) (v : ℤ) (G : Point) :
    Decidable (c.JoinsDigits u H v G) :=
  inferInstanceAs (Decidable ((u ≠ 0 ∧ ¬ H.IsInfinite) ∧ (v ≠ 0 ∧ ¬ G.IsInfinite) ∧
    ¬ (G = c.G ∧ H = c.G) ∧
      (PointAddition.sum c.p c.a (Jacobian.ofPoint G).neg (Jacobian.ofPoint H).neg).Z ≠ 0))

/-- The factors by which two points are multiplied where their multiples are computed one by one. -/
def separateFactors (c : Curve) (Excepted : Jacobian → Jacobian → Prop) [DecidableRel Excepted]
    (u : ℤ) (H : Point) (v : ℤ) (G : Point) : ℤ × ℤ :=
  (c.countedFactor Excepted u H, c.countedFactor Excepted v G)

/-- The factors by which they are multiplied where the sum of the multiples is computed. -/
def jointFactors (c : Curve) (Excepted : Jacobian → Jacobian → Prop) [DecidableRel Excepted]
    (u : ℤ) (H : Point) (v : ℤ) (G : Point) : ℤ × ℤ :=
  if c.JoinsDigits u H v G then
    (SignedDigit.value ((c.jointDigits Excepted u H v G).map Prod.snd),
      SignedDigit.value ((c.jointDigits Excepted u H v G).map Prod.fst))
  else c.separateFactors Excepted u H v G

/-- The sum of the multiples by two factors. -/
noncomputable def combination (c : Curve) [Fact c.p.toNat.Prime] (H G : Point)
    (factors : ℤ × ℤ) : c.Element :=
  factors.1 • c.element H + factors.2 • c.element G

omit [Fact c.p.toNat.Prime] in
lemma countedFactor_zero (Q : Point) : c.countedFactor Excepted 0 Q = 0 := by
  rw [countedFactor, ladderFactor_zero, ite_self]

lemma countedFactor_zsmul_eq_zero {m : ℤ} {Q : Point} (h : m = 0 ∨ Q.IsInfinite) :
    c.countedFactor Excepted m Q • c.element Q = 0 := by
  rcases h with rfl | h
  · rw [countedFactor_zero, zero_zsmul]
  · rw [element_of_isInfinite h, zsmul_zero]

/-- No sum on the way to a sum of multiples is excepted, neither where the multiples are computed one
by one nor in one pass, if there is one. -/
structure SumsFreely (c : Curve) (Excepted : Jacobian → Jacobian → Prop) (u : ℤ) (H : Point)
    (v : ℤ) (G : Point) : Prop where
  first : H = c.G ∨
    Jacobian.RunsFreely c.p c.a Excepted (Jacobian.signed (.ofPoint H)) (SignedDigit.digits u)
  second : G = c.G ∨
    Jacobian.RunsFreely c.p c.a Excepted (Jacobian.signed (.ofPoint G)) (SignedDigit.digits v)
  joint : c.JoinsDigits u H v G → Jacobian.RunsFreely c.p c.a Excepted
    (Jacobian.jointTerm c.p c.a H G)
    (SignedDigit.pair (SignedDigit.digits v) (SignedDigit.digits u))

omit [Fact c.p.toNat.Prime] in
lemma countedFactor_of_runsFreely {m : ℤ} {Q : Point} (h : Q = c.G ∨
      Jacobian.RunsFreely c.p c.a Excepted (Jacobian.signed (.ofPoint Q)) (SignedDigit.digits m)) :
    c.countedFactor Excepted m Q = m := by
  rw [countedFactor]
  split_ifs with hG
  · rfl
  · exact ladderFactor_of_runsFreely (h.resolve_left hG)

namespace SumsFreely

variable {u v : ℤ} {H G : Point}

omit [Fact c.p.toNat.Prime] [DecidableRel Excepted] in
lemma of_false : c.SumsFreely (fun _ _ => False) u H v G where
  first := .inr (Jacobian.runsFreely_false _)
  second := .inr (Jacobian.runsFreely_false _)
  joint _ := Jacobian.runsFreely_false _

variable (h : c.SumsFreely Excepted u H v G)
include h

omit [Fact c.p.toNat.Prime] in
lemma separateFactors_eq : c.separateFactors Excepted u H v G = (u, v) := by
  rw [separateFactors, countedFactor_of_runsFreely h.first, countedFactor_of_runsFreely h.second]

omit [Fact c.p.toNat.Prime] in
lemma jointFactors_eq : c.jointFactors Excepted u H v G = (u, v) := by
  rw [jointFactors, h.separateFactors_eq]
  split_ifs with hjoint
  · rw [jointDigits, (h.joint hjoint).counted_eq, SignedDigit.value_fst_pair,
      SignedDigit.value_snd_pair, SignedDigit.value_digits, SignedDigit.value_digits]
  · rfl

end SumsFreely

section Multiples

variable (law : c.AddsInGroup Excepted) (hc : c.HasOddPrimeOrder)
include law hc

lemma exists_multiple {Q : Point} {m : ℤ} (hQ : c.HasPoint Q) (hm : 0 ≤ m ∧ m < c.n) :
    ∃ P, c.multiple m Q = .ok P ∧
      c.Represents P (c.countedFactor Excepted m Q • c.element Q) ∧ P.IsReduced c.p := by
  rw [multiple]
  split_ifs with hzero hG
  · obtain rfl := hzero.resolve_left hQ.not_isInfinite
    rw [countedFactor_zero, zero_zsmul]
    exact ⟨_, rfl, represents_zero.2 rfl, Jacobian.isReduced_infinity p_pos⟩
  · obtain ⟨hone, rfl⟩ := hG
    obtain ⟨table, htable, hlen, hdoubles⟩ := exists_generatorTable hc.isUsable hQ
    rw [htable, countedFactor, if_pos rfl]
    exact ⟨_, rfl, represents_tableMultiple_generator law hc hdoubles hm hone
      (hlen ▸ length_digits_le_tableLength hm), isReduced_tableMultiple law.isReduced hdoubles m⟩
  · refine ⟨_, rfl, ?_, isReduced_multiple law.isReduced hQ m⟩
    have hladder := represents_multiple law hc.p_ne_two hQ m
    rw [countedFactor]
    split_ifs with hgenerator
    · -- the generator is multiplied without its table only by one
      obtain rfl : m = 1 := by
        by_contra hone
        exact hG ⟨hone, hgenerator⟩
      rwa [ladderFactor, if_pos rfl] at hladder
    · exact hladder

lemma exists_jointMultiple {H G : Point} {u v : ℤ} (hH : c.HasPoint H) (hG : c.HasPoint G)
    (hu : 0 < u ∧ u < c.n) (hv : 0 < v ∧ v < c.n) :
    ∃ P, c.jointMultiple u H v G = .ok P ∧
      c.Represents P (c.combination H G (c.jointFactors Excepted u H v G)) ∧ P.IsReduced c.p := by
  obtain ⟨P, hP, hPv, hPred⟩ := exists_multiple law hc hG ⟨hv.1.le, hv.2⟩
  obtain ⟨Q, hQ, hQu, hQred⟩ := exists_multiple law hc hH ⟨hu.1.le, hu.2⟩
  obtain ⟨table, htable, -⟩ := exists_generatorTable hc.isUsable hc.generator
  simp only [jointMultiple, htable, hP, hQ, bind, Except.bind, pure, Except.pure, ite_self]
  split
  · next R hR =>
    split_ifs at hR with hboth
    have hne := (Jacobian.jointMultiple?_eq_some_iff.1 hR).1
    rw [jointFactors, if_pos ⟨⟨hu.1.ne', hH.not_isInfinite⟩, ⟨hv.1.ne', hG.not_isInfinite⟩, hboth,
      hne⟩]
    exact ⟨R, rfl, represents_jointMultiple? law hc.p_ne_two hH hG hR⟩
  · next hnone =>
    have hseparate : ¬ c.JoinsDigits u H v G := by
      rintro ⟨-, -, hboth, hne⟩
      rw [if_neg hboth, Jacobian.jointMultiple?_eq_some_iff.2 ⟨hne, rfl⟩] at hnone
      cases hnone
    rw [jointFactors, if_neg hseparate]
    refine ⟨_, rfl, ?_, law.isReduced _ _⟩
    exact (law.represents hPv hQu (law.not_excepted hPred hQred)).of_eq (add_comm _ _)

lemma multiple_affine_counted {Q : Point} {m : ℤ} (hQ : Q.IsInfinite ∨ c.HasPoint Q)
    (hm : 0 ≤ m ∧ m < c.n) :
    (c.multiple m Q >>= c.affine) =
      .ok (c.pointOf (c.countedFactor Excepted m Q • c.element Q)) := by
  rcases hQ with hQ | hQ
  · rw [countedFactor_zsmul_eq_zero (Or.inr hQ), multiple, if_pos (Or.inl hQ)]
    rfl
  · obtain ⟨P, hP, hrep, hred⟩ := exists_multiple law hc hQ hm
    rw [hP]
    exact hrep.affine hred

lemma jointMultiple_affine_counted {H G : Point} {u v : ℤ} (hH : c.HasPoint H)
    (hG : c.HasPoint G) (hu : 0 < u ∧ u < c.n) (hv : 0 < v ∧ v < c.n) :
    (c.jointMultiple u H v G >>= c.affine) =
      .ok (c.pointOf (c.combination H G (c.jointFactors Excepted u H v G))) := by
  obtain ⟨P, hP, hrep, hred⟩ := exists_jointMultiple law hc hH hG hu hv
  rw [hP]
  exact hrep.affine hred

omit hc in
lemma affine_multiple_counted (odd : c.p ≠ 2) {Q : Point} (hQ : c.HasPoint Q) (m : ℤ) :
    c.affine (.multiple c.p c.a m Q) =
      .ok (c.pointOf (c.ladderFactor Excepted m Q • c.element Q)) :=
  (represents_multiple law odd hQ m).affine (isReduced_multiple law.isReduced hQ m)

omit [DecidableRel Excepted] hc in
/-- Sums of two finite points are those of the group, as their coordinates are reduced. -/
lemma affine_sum (odd : c.p ≠ 2) {Q R : Point} (hQ : c.HasPoint Q) (hR : c.HasPoint R) :
    c.affine (PointAddition.sum c.p c.a (.ofPoint Q) (.ofPoint R)) =
      .ok (c.pointOf (c.element Q + c.element R)) :=
  (law.represents (hQ.represents odd) (hR.represents odd)
    (law.not_excepted hQ.isReduced hR.isReduced)).affine (law.isReduced _ _)

end Multiples

end Factors

/-! ### Computing in the group -/

/-- The sums and multiples of finite points are those of the group, the factors being reduced where
the curve reduces them. With the standard addition they are where no triples collide. -/
structure ComputesInGroup (c : Curve) [Fact c.p.toNat.Prime] : Prop where
  sum : ∀ {Q R : Point}, c.HasPoint Q → c.HasPoint R →
    c.affine (PointAddition.sum c.p c.a (.ofPoint Q) (.ofPoint R)) =
      .ok (c.pointOf (c.element Q + c.element R))
  multiple : ∀ {Q : Point} {m : ℤ}, c.HasPoint Q → 0 ≤ m ∧ m < c.n →
    (c.multiple m Q >>= c.affine) = .ok (c.pointOf (m • c.element Q))
  unreduced : ∀ {Q : Point} {m : ℤ}, c.HasPoint Q → 0 ≤ m →
    c.affine (.multiple c.p c.a m Q) = .ok (c.pointOf (m • c.element Q))
  joint : ∀ {H G : Point} {u v : ℤ}, c.HasPoint H → c.HasPoint G →
    0 < u ∧ u < c.n → 0 < v ∧ v < c.n →
    (c.jointMultiple u H v G >>= c.affine) = .ok (c.pointOf (u • c.element H + v • c.element G))

/-- A curve computes in the group with an addition of the group that has no exception. -/
theorem computesInGroup (law : c.AddsInGroup fun _ _ => False) (hc : c.HasOddPrimeOrder) :
    c.ComputesInGroup where
  sum hQ hR := affine_sum law hc.p_ne_two hQ hR
  multiple hQ hm := by
    rw [multiple_affine_counted law hc (Or.inr hQ) hm,
      countedFactor_of_runsFreely (Or.inr (Jacobian.runsFreely_false _))]
  unreduced hQ _ := by
    rw [affine_multiple_counted law hc.p_ne_two hQ,
      ladderFactor_of_runsFreely (Jacobian.runsFreely_false _)]
  joint hH hG hu hv := by
    rw [jointMultiple_affine_counted law hc hH hG hu hv,
      SumsFreely.of_false.jointFactors_eq, combination]

end Law

/-! ### With reduced addition -/

section Reduced

/-- Whether a multiple is infinite can be computed. -/
lemma zsmul_element_eq_zero_iff_multiple (odd : c.p ≠ 2) {Q : Point} (hQ : c.HasPoint Q)
    (m : ℤ) :
    letI := reducedAddition
    m • c.element Q = 0 ↔ (Jacobian.multiple c.p c.a m Q).Z = 0 := by
  let := reducedAddition
  have hrep := represents_multiple (addsInGroup_reducedAddition odd) odd hQ m
  rw [ladderFactor_of_runsFreely (Jacobian.runsFreely_false _)] at hrep
  exact hrep.Z_eq_zero_iff.symm

/-- So can a prime order of the generator. -/
lemma hasOddPrimeOrder_of_multiple (odd : c.p ≠ 2) (ha : c.hasArithmetic = true)
    (hG : c.HasPoint c.G) (hn : c.n.toNat.Prime) (hn2 : c.n ≠ 2)
    (h : letI := reducedAddition; (Jacobian.multiple c.p c.a c.n c.G).Z = 0) :
    c.HasOddPrimeOrder :=
  hasOddPrimeOrder_of_zsmul_eq_zero odd ha hG hn hn2
    ((zsmul_element_eq_zero_iff_multiple odd hG c.n).2 h)

lemma computesInGroup_reducedAddition (hc : c.HasOddPrimeOrder) :
    @ComputesInGroup reducedAddition c _ :=
  letI := reducedAddition
  computesInGroup (addsInGroup_reducedAddition hc.p_ne_two) hc

end Reduced

/-! ### A small curve -/

/-- The curve y² = x³ + x + 7 modulo 257, of 281 elements. -/
def small : Curve where
  name := "small"
  p := 257
  a := 1
  b := 7
  G := ⟨1, 3⟩
  n := 281
  h := 1
  hasArithmetic := true

instance : Fact small.p.toNat.Prime :=
  ⟨by show Nat.Prime 257; norm_num⟩

lemma small_p_ne_two : small.p ≠ 2 := by decide

lemma small_two_le_fieldSize : 2 ≤ small.fieldSize := by decide

lemma small_hasOddPrimeOrder : small.HasOddPrimeOrder := by
  have hn : Nat.Prime small.n.toNat := by
    show Nat.Prime 281
    norm_num
  have hG : small.HasPoint small.G := ⟨by decide, by decide, by decide⟩
  exact hasOddPrimeOrder_of_multiple small_p_ne_two rfl hG hn (by decide) (by decide +kernel)

lemma small_computesInGroup : @ComputesInGroup reducedAddition small _ :=
  computesInGroup_reducedAddition small_hasOddPrimeOrder

lemma small_hasOddGroup : small.HasOddGroup := by
  refine hasOddGroup_of_forall_not_satisfies small_p_ne_two ?_ ?_
  · rw [discriminant_ne_zero_iff]
    decide
  · show ∀ x : ℤ, 0 ≤ x → x < 257 → ¬ small.Satisfies ⟨x, 0⟩
    decide +kernel

/-- With the standard addition it does not compute in its group. The run for 279 reaches 280 times
the point, its opposite, with Z = 1, and adding the opposite to this is a collision. -/
theorem not_computesInGroup_small : ¬ small.ComputesInGroup := by
  intro law
  have hQ : small.HasPoint ⟨65, 96⟩ := ⟨by decide, by decide, by decide⟩
  have hm : (0 : ℤ) ≤ 279 ∧ 279 < small.n := by decide
  have hne : (small.multiple 279 ⟨65, 96⟩ >>= small.affine).toOption ≠
      (@multiple reducedAddition small 279 ⟨65, 96⟩ >>= small.affine).toOption := by
    decide +kernel
  exact hne (congrArg Except.toOption ((law.multiple hQ hm).trans
    (@ComputesInGroup.multiple reducedAddition _ _ small_computesInGroup _ _ hQ hm).symm))

end Ecdsa.Curve
