import Ecdsa.Proofs.Curve.Jacobian

/-!
# Multiples of points

Digits stand for the multiple that they are the digits of. A run doubles and adds along them, from
the most significant on, for one point or for two at once. Where a sum is excepted the run goes on
from infinity, as if it started there, so it comes to the total of the digits after the last
exception (`represents_accumulate`); without exceptions these are all.
-/

namespace Ecdsa

namespace SignedDigit

/-- A number of at most `k` binary digits has at most `k + 1` signed ones. -/
lemma length_digits_le (k : ℕ) (m : ℤ) (h : m.natAbs ≤ 2 ^ k) : (digits m).length ≤ k + 1 := by
  induction k generalizing m with
  | zero =>
    have hm : m = 0 ∨ m = 1 ∨ m = -1 := by omega
    rcases hm with rfl | rfl | rfl <;> simp [digits]
  | succ k ih =>
    have hpow : 2 ^ (k + 1) = 2 * 2 ^ k := by ring
    rw [digits]
    split_ifs with hzero heven hone
    · exact Nat.zero_le _
    all_goals
      rw [List.length_cons]
      exact Nat.succ_le_succ (ih _ (by omega))

@[simp] lemma toInt_minus : minus.toInt = -1 := rfl
@[simp] lemma toInt_zero : zero.toInt = 0 := rfl
@[simp] lemma toInt_plus : plus.toInt = 1 := rfl

@[simp] lemma value_replicate_zero (k : ℕ) : value (.replicate k zero) = 0 := by
  induction k with
  | zero => rfl
  | succ k ih => simp [List.replicate_succ, value, ih]

lemma value_fst_pair (ds es : List SignedDigit) : value ((pair ds es).map Prod.fst) = value ds := by
  fun_induction pair ds es with
  | case1 es => simp [value, Function.comp_def]
  | case2 ds => simp [Function.comp_def]
  | case3 d ds e es ih => simp [value, ih]

lemma value_snd_pair (ds es : List SignedDigit) : value ((pair ds es).map Prod.snd) = value es := by
  fun_induction pair ds es with
  | case1 es => simp [Function.comp_def]
  | case2 ds => simp [value, Function.comp_def]
  | case3 d ds e es ih => simp [value, ih]

end SignedDigit

/-! ### Runs along digits -/

namespace Jacobian

section Runs

variable [PointAddition] {p a : ℤ} {δ : Type} {term : δ → Option Jacobian}

/-- Adds the triple, if there is one. -/
def addTerm (p a : ℤ) (P : Jacobian) : Option Jacobian → Jacobian
  | none => P
  | some D => PointAddition.sum p a P D

/-- Doubles and adds along digits, of which each stands for a triple or for none. -/
def accumulate (p a : ℤ) (term : δ → Option Jacobian) (ds : List δ) : Jacobian :=
  ds.foldr (fun d P => addTerm p a (double p a P) (term d)) infinity

/-- The digits that count. An excepted sum is infinite, so the run starts anew after it. -/
def counted (p a : ℤ) (Excepted : Jacobian → Jacobian → Prop) [DecidableRel Excepted]
    (term : δ → Option Jacobian) : List δ → List δ
  | [] => []
  | d :: ds =>
    if ∃ D ∈ term d, Excepted (double p a (accumulate p a term ds)) D then []
    else d :: counted p a Excepted term ds

lemma accumulate_cons (d : δ) (ds : List δ) : accumulate p a term (d :: ds) =
    addTerm p a (double p a (accumulate p a term ds)) (term d) := rfl

/-- No sum on the way along the digits is excepted. -/
def RunsFreely (p a : ℤ) (Excepted : Jacobian → Jacobian → Prop) (term : δ → Option Jacobian) :
    List δ → Prop
  | [] => True
  | d :: ds =>
    (¬ ∃ D ∈ term d, Excepted (double p a (accumulate p a term ds)) D) ∧
      RunsFreely p a Excepted term ds

lemma runsFreely_false (ds : List δ) : RunsFreely p a (fun _ _ => False) term ds := by
  induction ds with
  | nil => trivial
  | cons d ds ih => exact ⟨fun ⟨_, _, h⟩ => h, ih⟩

section Excepted

variable {Excepted : Jacobian → Jacobian → Prop} [DecidableRel Excepted]

instance decidableRunsFreely : DecidablePred (RunsFreely p a Excepted term)
  | [] => instDecidableTrue
  | _ :: ds =>
    have := decidableRunsFreely ds
    inferInstanceAs (Decidable (_ ∧ _))

/-- Along a run without exceptions all digits count. -/
lemma RunsFreely.counted_eq {ds : List δ} (h : RunsFreely p a Excepted term ds) :
    counted p a Excepted term ds = ds := by
  induction ds with
  | nil => rfl
  | cons d ds ih => rw [counted, if_neg h.1, ih h.2]

end Excepted

/-- What a digit stands for: the opposite of the triple, nothing, or the triple. -/
def signed (Q : Jacobian) : SignedDigit → Option Jacobian
  | .minus => some Q.neg
  | .zero => none
  | .plus => some Q

lemma addSigned_eq (P Q : Jacobian) (d : SignedDigit) :
    addSigned p a P Q d = addTerm p a P (signed Q d) := by
  cases d <;> rfl

/-- What two digits stand for, given the sum of the opposites of both triples and their
difference. -/
def joint (G H minusBoth difference : Jacobian) : SignedDigit × SignedDigit → Option Jacobian
  | (.zero, d) => signed H d
  | (d, .zero) => signed G d
  | (.plus, .plus) => some minusBoth.neg
  | (.plus, .minus) => some difference
  | (.minus, .plus) => some difference.neg
  | (.minus, .minus) => some minusBoth

lemma jointStep_eq (G H minusBoth difference P : Jacobian) (ds : SignedDigit × SignedDigit) :
    jointStep p a G H minusBoth difference ds P =
      addTerm p a (double p a P) (joint G H minusBoth difference ds) := by
  obtain ⟨d, e⟩ := ds
  cases d <;> cases e <;> rfl

lemma multiple_eq (m : ℤ) (Q : Point) : multiple p a m Q =
    if m = 1 then ofPoint Q else accumulate p a (signed (ofPoint Q)) (SignedDigit.digits m) := by
  simp only [multiple, accumulate, addSigned_eq]

/-- The digits of both factors stand for these triples. -/
def jointTerm (p a : ℤ) (H G : Point) : SignedDigit × SignedDigit → Option Jacobian :=
  joint (ofPoint G) (ofPoint H) (PointAddition.sum p a (ofPoint G).neg (ofPoint H).neg)
    (PointAddition.sum p a (ofPoint G) (ofPoint H).neg)

lemma jointMultiple?_eq_some_iff {u v : ℤ} {H G : Point} {P : Jacobian} :
    jointMultiple? p a u H v G = some P ↔
      (PointAddition.sum p a (ofPoint G).neg (ofPoint H).neg).Z ≠ 0 ∧
        accumulate p a (jointTerm p a H G)
          (SignedDigit.pair (SignedDigit.digits v) (SignedDigit.digits u)) = P := by
  simp only [jointMultiple?, accumulate, jointTerm, ← jointStep_eq]
  split_ifs with h <;> simp [h]

lemma isReduced_addTerm {P : Jacobian} (hsum : ∀ P Q, (PointAddition.sum p a P Q).IsReduced p)
    (hP : P.IsReduced p) (term : Option Jacobian) : (addTerm p a P term).IsReduced p := by
  cases term with
  | none => exact hP
  | some D => exact hsum P D

lemma isReduced_accumulate (hp : 0 < p) (hsum : ∀ P Q, (PointAddition.sum p a P Q).IsReduced p)
    (ds : List δ) : (accumulate p a term ds).IsReduced p := by
  cases ds with
  | nil => exact isReduced_infinity hp
  | cons d ds => exact isReduced_addTerm hsum (isReduced_double hp a _) _

end Runs

end Jacobian

namespace Curve

open WeierstrassCurve.Affine Ecdsa.Modular

variable {c : Curve} [Fact c.p.toNat.Prime] {P Q : Jacobian} {A B C : c.Element} {δ : Type}

/-! ### What a run represents -/

/-- What digits come to, of which each has a value. -/
def total (value : δ → c.Element) : List δ → c.Element
  | [] => 0
  | d :: ds => value d + (total value ds + total value ds)

lemma total_signed (B : c.Element) (ds : List SignedDigit) :
    total (fun d => d.toInt • B) ds = SignedDigit.value ds • B := by
  induction ds with
  | nil => simp [total, SignedDigit.value]
  | cons d ds ih => rw [total, ih, SignedDigit.value, add_zsmul, mul_zsmul, two_zsmul]

lemma total_joint (B C : c.Element) (ds : List (SignedDigit × SignedDigit)) :
    total (fun d => d.1.toInt • B + d.2.toInt • C) ds =
      SignedDigit.value (ds.map Prod.fst) • B + SignedDigit.value (ds.map Prod.snd) • C := by
  induction ds with
  | nil => simp [total, SignedDigit.value]
  | cons d ds ih =>
    simp only [total, ih, List.map_cons, SignedDigit.value, add_zsmul, mul_zsmul, two_zsmul]
    abel

section Law

variable [PointAddition] {Excepted : Jacobian → Jacobian → Prop}

/-- One step of a run: what is added to the double counts, unless the sum is excepted. -/
lemma Represents.addTerm (law : c.AddsInGroup Excepted) (hP : c.Represents P A)
    {term : Option Jacobian} (hterm : c.Represents (term.getD .infinity) B)
    (h : ¬ ∃ D ∈ term, Excepted P D) :
    c.Represents (Jacobian.addTerm c.p c.a P term) (B + A) := by
  cases term with
  | none =>
    have hB : B = 0 := hterm.Z_eq_zero_iff.1 rfl
    rwa [hB, zero_add]
  | some D =>
    have hfree : ¬ Excepted P D := fun hD => h ⟨D, rfl, hD⟩
    exact (law.represents hP hterm hfree).of_eq (add_comm _ _)

/-- An excepted step leaves nothing. -/
lemma represents_addTerm_zero (law : c.AddsInGroup Excepted)
    {term : Option Jacobian} (h : ∃ D ∈ term, Excepted P D) :
    c.Represents (Jacobian.addTerm c.p c.a P term) 0 := by
  obtain ⟨D, rfl, hD⟩ := h
  exact represents_zero.2 (law.infinite hD)

variable [DecidableRel Excepted]

/-- Doubling and adding along digits comes to the total of those that count. -/
theorem represents_accumulate (law : c.AddsInGroup Excepted) (odd : c.p ≠ 2)
    {term : δ → Option Jacobian} {value : δ → c.Element}
    (hterm : ∀ d, c.Represents ((term d).getD .infinity) (value d)) (ds : List δ) :
    c.Represents (.accumulate c.p c.a term ds)
      (total value (Jacobian.counted c.p c.a Excepted term ds)) := by
  induction ds with
  | nil => exact represents_zero.2 rfl
  | cons d ds ih =>
    rw [Jacobian.accumulate_cons, Jacobian.counted]
    split_ifs with h
    · exact represents_addTerm_zero law h
    · exact (ih.double odd).addTerm law (hterm d) h

/-! ### One point -/

/-- The factor that doubling and adding along the digits of `m` multiplies by. -/
def ladderFactor (c : Curve) (Excepted : Jacobian → Jacobian → Prop) [DecidableRel Excepted]
    (m : ℤ) (Q : Ecdsa.Point) : ℤ :=
  if m = 1 then 1
  else SignedDigit.value (Jacobian.counted c.p c.a Excepted (Jacobian.signed (.ofPoint Q))
    (SignedDigit.digits m))

omit [Fact c.p.toNat.Prime] in
@[simp] lemma ladderFactor_zero (Q : Ecdsa.Point) : c.ladderFactor Excepted 0 Q = 0 := by
  simp [ladderFactor, SignedDigit.digits, Jacobian.counted, SignedDigit.value]

omit [Fact c.p.toNat.Prime] in
lemma ladderFactor_of_runsFreely {m : ℤ} {Q : Ecdsa.Point}
    (h : Jacobian.RunsFreely c.p c.a Excepted (Jacobian.signed (.ofPoint Q))
      (SignedDigit.digits m)) :
    c.ladderFactor Excepted m Q = m := by
  rw [ladderFactor, h.counted_eq, SignedDigit.value_digits]
  split_ifs with hm
  · exact hm.symm
  · rfl

omit [PointAddition] in
lemma Represents.signed (hQ : c.Represents Q B) (d : SignedDigit) :
    c.Represents ((Jacobian.signed Q d).getD .infinity) (d.toInt • B) := by
  cases d with
  | minus => simpa [Jacobian.signed] using hQ.neg
  | zero => simp [Jacobian.signed, Jacobian.infinity]
  | plus => simpa [Jacobian.signed] using hQ

lemma represents_multiple (law : c.AddsInGroup Excepted) (odd : c.p ≠ 2) {Q : Ecdsa.Point}
    (hQ : c.HasPoint Q) (m : ℤ) :
    c.Represents (.multiple c.p c.a m Q) (c.ladderFactor Excepted m Q • c.element Q) := by
  have hrep := hQ.represents odd
  rw [Jacobian.multiple_eq, ladderFactor]
  split_ifs
  · rwa [one_zsmul]
  · rw [← total_signed]
    exact represents_accumulate law odd hrep.signed _

omit [DecidableRel Excepted] in
lemma isReduced_multiple (hsum : c.SumsAreReduced) {Q : Ecdsa.Point} (hQ : c.HasPoint Q)
    (m : ℤ) : (Jacobian.multiple c.p c.a m Q).IsReduced c.p := by
  rw [Jacobian.multiple_eq]
  split_ifs
  · exact hQ.isReduced
  · exact Jacobian.isReduced_accumulate p_pos hsum _

/-! ### Two points at once -/

/-- The digits of both factors that count. -/
def jointDigits (c : Curve) (Excepted : Jacobian → Jacobian → Prop) [DecidableRel Excepted]
    (u : ℤ) (H : Ecdsa.Point) (v : ℤ) (G : Ecdsa.Point) : List (SignedDigit × SignedDigit) :=
  Jacobian.counted c.p c.a Excepted (Jacobian.jointTerm c.p c.a H G)
    (SignedDigit.pair (SignedDigit.digits v) (SignedDigit.digits u))

omit [DecidableRel Excepted] in
/-- Unless the points are opposite, all that two digits may stand for is free of exceptions. -/
lemma represents_jointTerm (law : c.AddsInGroup Excepted) (odd : c.p ≠ 2) {H G : Ecdsa.Point}
    (hH : c.HasPoint H) (hG : c.HasPoint G)
    (hne : (PointAddition.sum c.p c.a (Jacobian.ofPoint G).neg (Jacobian.ofPoint H).neg).Z ≠ 0)
    (d : SignedDigit × SignedDigit) :
    c.Represents ((Jacobian.jointTerm c.p c.a H G d).getD .infinity)
      (d.1.toInt • c.element G + d.2.toInt • c.element H) := by
  have hG' := hG.represents odd
  have hH' := hH.represents odd
  have hboth := law.represents hG'.neg hH'.neg (mt law.infinite hne)
  have hfree : ¬ Excepted (Jacobian.ofPoint G) (Jacobian.ofPoint H).neg := by
    intro h
    have hopposite : c.element G = -c.element H := law.eq_of_excepted hG' hH'.neg h
    apply mt hboth.Z_eq_zero_iff.2 hne
    rw [hopposite, neg_neg, add_neg_cancel]
  have hdiff := law.represents hG' hH'.neg hfree
  obtain ⟨d, e⟩ := d
  cases d with
  | zero => simpa [Jacobian.jointTerm, Jacobian.joint] using hH'.signed e
  | plus =>
    cases e with
    | zero => simpa [Jacobian.jointTerm, Jacobian.joint] using hG'.signed .plus
    | plus => exact hboth.neg.of_eq (by simp; abel)
    | minus => exact hdiff.of_eq (by simp)
  | minus =>
    cases e with
    | zero => simpa [Jacobian.jointTerm, Jacobian.joint] using hG'.signed .minus
    | plus => exact hdiff.neg.of_eq (by simp; abel)
    | minus => exact hboth.of_eq (by simp)

/-- What one pass over the digits of both factors gives, if it gives anything. -/
lemma represents_jointMultiple? (law : c.AddsInGroup Excepted) (odd : c.p ≠ 2)
    {H G : Ecdsa.Point} (hH : c.HasPoint H) (hG : c.HasPoint G) {u v : ℤ}
    (h : Jacobian.jointMultiple? c.p c.a u H v G = some P) :
    c.Represents P
      (SignedDigit.value ((c.jointDigits Excepted u H v G).map Prod.snd) • c.element H +
        SignedDigit.value ((c.jointDigits Excepted u H v G).map Prod.fst) • c.element G) ∧
      P.IsReduced c.p := by
  obtain ⟨hne, rfl⟩ := Jacobian.jointMultiple?_eq_some_iff.1 h
  refine ⟨?_, Jacobian.isReduced_accumulate p_pos law.isReduced _⟩
  rw [add_comm, ← total_joint]
  exact represents_accumulate law odd (represents_jointTerm law odd hH hG hne) _

end Law

end Curve

end Ecdsa
