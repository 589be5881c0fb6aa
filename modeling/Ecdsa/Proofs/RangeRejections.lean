import Ecdsa.Curve.Named
import Ecdsa.Recovery
import Ecdsa.RecoverableSignature
import Mathlib.Tactic

/-!
# Numbers out of range

A number out of range is refused with a cause that shows it, in decimal unless it is a large
coordinate. A number of more than 4300 digits has no decimal text: then the error is not the refusal
but the one about the digits, which is of another kind (`refusesOutOfRange`).
-/

namespace Ecdsa

/-! ### Refusals -/

section Refuses

variable {α β : Type} {cause : Error} {writable : Prop} {x : Except Error α}

/-- The outcome is the refusal for this cause if its message can be written, and otherwise the error
about the digits. -/
structure Refuses {α : Type} (cause : Error) (writable : Prop) (x : Except Error α) : Prop where
  kind_eq : cause.kind = .rejected
  of_writable : writable → x = .error cause
  of_not_writable : ¬ writable → x = .error .tooManyDigits

/-- The error about the digits is no refusal. -/
lemma Refuses.not_rejected (h : Refuses cause writable x) (hw : ¬ writable) :
    ¬ ∃ e, x = .error e ∧ e.kind = .rejected := by
  rintro ⟨e, he, hkind⟩
  rw [h.of_not_writable hw] at he
  cases he
  cases hkind

/-- What comes after a refusal is not reached. -/
lemma Refuses.bind (h : Refuses cause writable x) (f : α → Except Error β) :
    Refuses cause writable (x >>= f) where
  kind_eq := h.kind_eq
  of_writable hw := by rw [h.of_writable hw, error_bind]
  of_not_writable hw := by rw [h.of_not_writable hw, error_bind]

lemma refuses_reject (hkind : cause.kind = .rejected)
    (hw : (∀ i ∈ cause.decimals, HasDecimal i) ↔ writable) :
    Refuses cause writable (reject cause : Except Error α) where
  kind_eq := hkind
  of_writable h := if_pos (hw.2 h)
  of_not_writable h := if_neg (mt hw.1 h)

/-- Where the text of the number is written first, that fails in place of the refusal. -/
lemma refuses_described {n : Numeral} {cause : String → Error}
    (hkind : (cause n.text).kind = .rejected) :
    Refuses (cause n.text) (HasDecimal n.toInt)
      (n.described >>= fun shown => (.error (cause shown) : Except Error α)) where
  kind_eq := hkind
  of_writable h := by rw [Numeral.described, if_pos h, ok_bind]
  of_not_writable h := by rw [Numeral.described, if_neg h, error_bind]

end Refuses

/-- A number that is displayed has a text if it is not negative, or short. -/
lemma forall_mem_displayedDecimals_iff (i : ℤ) :
    (∀ j ∈ (Numeral.int i).displayedDecimals, HasDecimal j) ↔ 0 ≤ i ∨ HasDecimal i := by
  by_cases hi : 0 ≤ i
  · have hshort (j : ℤ) (hj : j ∈ (Numeral.int i).displayedDecimals) : HasDecimal j :=
      Numeral.hasDecimal_of_mem_displayedDecimals (n := .int i) hi hj
    exact ⟨fun _ => Or.inl hi, fun _ => hshort⟩
  · have hsmall : ¬ i > Numeral.hexThreshold := by
      rw [Numeral.hexThreshold]
      omega
    simp [Numeral.displayedDecimals, hsmall, hi]

/-! ### The checks -/

lemma fixedWidth_refuses (width : Numeral) {i : ℤ} (hi : i < 0) :
    Refuses (.negativeInteger i) (HasDecimal i) (fixedWidth width i) := by
  rw [fixedWidth, if_pos hi]
  exact refuses_reject rfl (by simp [Error.decimals])

section IsOnCurve

variable {c : Curve} {Q : Coordinates} {P : Point} (hQ : Q.point = .ok P)
include hQ

lemma Curve.isOnCurve_eq_contains : c.isOnCurve Q = c.contains P := by
  rw [isOnCurve, hQ, ok_bind]

lemma Curve.isOnCurve_refuses_ordinate (hinfinite : ¬ P.IsInfinite)
    (hy : ¬ (0 < P.y ∧ P.y < c.p)) :
    Refuses (.ordinateOutOfRange P.y) (0 ≤ P.y ∨ HasDecimal P.y) (c.isOnCurve Q) := by
  rw [isOnCurve_eq_contains hQ, contains, if_neg hinfinite, if_pos hy]
  exact refuses_reject rfl (forall_mem_displayedDecimals_iff P.y)

lemma Curve.isOnCurve_refuses_abscissa (hy : 0 < P.y ∧ P.y < c.p)
    (hx : ¬ (0 ≤ P.x ∧ P.x < c.p)) :
    Refuses (.abscissaOutOfRange P.x) (0 ≤ P.x ∨ HasDecimal P.x) (c.isOnCurve Q) := by
  have hinfinite : ¬ P.IsInfinite := hy.1.ne'
  rw [isOnCurve_eq_contains hQ, contains, if_neg hinfinite, if_neg (not_not.2 hy), if_pos hx]
  exact refuses_reject rfl (forall_mem_displayedDecimals_iff P.x)

end IsOnCurve

section Recovery

variable {id r s : ℤ}

lemma assertRecoverable_refuses_id (hid : ¬ (id = 0 ∨ id = 1)) :
    Refuses (.recoveryIdNotBinary (toString id)) (HasDecimal id) (assertRecoverable id r s) := by
  rw [assertRecoverable, if_pos hid]
  simp only [throw_eq_error, error_bind]
  exact refuses_described (n := .int id) rfl

lemma assertRecoverable_refuses_r (hid : id = 0 ∨ id = 1) (hr : r < 0) :
    Refuses (.negativeComponent .r r) (HasDecimal r) (assertRecoverable id r s) := by
  have hreject : assertRecoverable id r s = reject (.negativeComponent .r r) := by
    simp [assertRecoverable, hid, hr]
  rw [hreject]
  exact refuses_reject rfl (by simp [Error.decimals])

lemma assertRecoverable_refuses_s (hid : id = 0 ∨ id = 1) (hr : 0 ≤ r) (hs : s < 0) :
    Refuses (.negativeComponent .s s) (HasDecimal s) (assertRecoverable id r s) := by
  have hreject : assertRecoverable id r s = reject (.negativeComponent .s s) := by
    simp [assertRecoverable, hid, hr.not_gt, hs]
  rw [hreject]
  exact refuses_reject rfl (by simp [Error.decimals])

/-- Recovery refuses what its check refuses. -/
lemma recoverPoint_refuses [PointAddition] {cause : Error} {writable : Prop}
    (h : Refuses cause writable (assertRecoverable id r s)) (digest : Option Octets) (c : Curve) :
    Refuses cause writable (recoverPoint id r s digest c) :=
  h.bind _

end Recovery

lemma RecoverableSignature.assertValid_refuses {sig : RecoverableSignature}
    (hv : ¬ (sig.v.toInt = 0 ∨ sig.v.toInt = 1)) :
    Refuses (.indicatorNotBinary sig.v.text) (HasDecimal sig.v.toInt) sig.assertValid := by
  rw [assertValid, if_pos hv]
  simp only [throw_eq_error, error_bind]
  exact refuses_described rfl

/-! ### Ranges -/

/-- Every number out of range is refused, unless it has too many digits to be shown. -/
structure RefusesOutOfRange [PointAddition] : Prop where
  /-- A negative number has no bytes, whatever their number. -/
  fixedWidth : ∀ (width : Numeral) (i : ℤ), i < 0 →
    Refuses (.negativeInteger i) (HasDecimal i) (fixedWidth width i)
  /-- Coordinates are residues, and the ordinate is checked first. Large ones are shown in
  hexadecimal, so that only negative ones can be too long. -/
  ordinate : ∀ (c : Curve) (Q : Coordinates) (P : Point), Q.point = .ok P → P.y ≠ 0 →
    ¬ (0 < P.y ∧ P.y < c.p) →
      Refuses (.ordinateOutOfRange P.y) (0 ≤ P.y ∨ HasDecimal P.y) (c.isOnCurve Q)
  abscissa : ∀ (c : Curve) (Q : Coordinates) (P : Point), Q.point = .ok P →
    0 < P.y ∧ P.y < c.p → ¬ (0 ≤ P.x ∧ P.x < c.p) →
      Refuses (.abscissaOutOfRange P.x) (0 ≤ P.x ∨ HasDecimal P.x) (c.isOnCurve Q)
  /-- The recovery id is checked before the scalars, and everything else after them. -/
  recoveryId : ∀ (id r s : ℤ) (digest : Option Octets) (c : Curve), ¬ (id = 0 ∨ id = 1) →
    Refuses (.recoveryIdNotBinary (toString id)) (HasDecimal id) (recoverPoint id r s digest c)
  scalarR : ∀ (id r s : ℤ) (digest : Option Octets) (c : Curve), id = 0 ∨ id = 1 → r < 0 →
    Refuses (.negativeComponent .r r) (HasDecimal r) (recoverPoint id r s digest c)
  scalarS : ∀ (id r s : ℤ) (digest : Option Octets) (c : Curve), id = 0 ∨ id = 1 → 0 ≤ r →
    s < 0 → Refuses (.negativeComponent .s s) (HasDecimal s) (recoverPoint id r s digest c)
  /-- The indicator is checked before the sizes. -/
  indicator : ∀ sig : RecoverableSignature, ¬ (sig.v.toInt = 0 ∨ sig.v.toInt = 1) →
    Refuses (.indicatorNotBinary sig.v.text) (HasDecimal sig.v.toInt) sig.assertValid

theorem refusesOutOfRange [PointAddition] : RefusesOutOfRange where
  fixedWidth width _ hi := fixedWidth_refuses width hi
  ordinate _ _ _ hQ hinfinite hy := Curve.isOnCurve_refuses_ordinate hQ hinfinite hy
  abscissa _ _ _ hQ hy hx := Curve.isOnCurve_refuses_abscissa hQ hy hx
  recoveryId _ _ _ digest c hid := recoverPoint_refuses (assertRecoverable_refuses_id hid) digest c
  scalarR _ _ _ digest c hid hr :=
    recoverPoint_refuses (assertRecoverable_refuses_r hid hr) digest c
  scalarS _ _ _ digest c hid hr hs :=
    recoverPoint_refuses (assertRecoverable_refuses_s hid hr hs) digest c
  indicator _ hv := RecoverableSignature.assertValid_refuses hv

/-! ### Too many digits -/

/-- The first negative number that has no decimal text. -/
def unwritable : ℤ :=
  -10 ^ decimalDigitLimit

lemma unwritable_neg : unwritable < 0 := by
  rw [unwritable, neg_lt_zero]
  positivity

lemma not_hasDecimal_unwritable : ¬ HasDecimal unwritable := by
  have hten : Int.natAbs 10 = 10 := rfl
  rw [HasDecimal, unwritable, Int.natAbs_neg, Int.natAbs_pow, hten]
  exact lt_irrefl _

/-- In the places of all these numbers the same one fails in another way. -/
theorem not_forall_rejected :
    (¬ ∀ (width : Numeral) (i : ℤ), i < 0 →
      ∃ e, fixedWidth width i = .error e ∧ e.kind = .rejected) ∧
    (¬ ∀ (c : Curve) (P : Point), P.y ≠ 0 → ¬ ((0 < P.y ∧ P.y < c.p) ∧ 0 ≤ P.x ∧ P.x < c.p) →
      ∃ e, c.isOnCurve P = .error e ∧ e.kind = .rejected) ∧
    (¬ ∀ (id r s : ℤ) (digest : Option Octets) (c : Curve), ¬ (id = 0 ∨ id = 1) ∨ r < 0 ∨ s < 0 →
      ∃ e, recoverPoint id r s digest c = .error e ∧ e.kind = .rejected) ∧
    ¬ ∀ sig : RecoverableSignature, ¬ (sig.v.toInt = 0 ∨ sig.v.toInt = 1) →
      ∃ e, sig.assertValid = .error e ∧ e.kind = .rejected := by
  have hneg := unwritable_neg
  have hlong := not_hasDecimal_unwritable
  have hparity : ¬ (unwritable = 0 ∨ unwritable = 1) := by omega
  refine ⟨?_, ?_, ?_, ?_⟩
  · intro h
    exact (fixedWidth_refuses 32 hneg).not_rejected hlong (h 32 unwritable hneg)
  · intro h
    have hy : ¬ (0 < unwritable ∧ unwritable < Curve.secp256k1.p) := fun hy => hy.1.not_gt hneg
    have hrefuses := Curve.isOnCurve_refuses_ordinate (c := .secp256k1)
      (Coordinates.point_coordinates ⟨1, unwritable⟩) hneg.ne hy
    refine hrefuses.not_rejected ?_ (h .secp256k1 ⟨1, unwritable⟩ hneg.ne fun hP => hy hP.1)
    rintro (hnonneg | hdecimal)
    · exact hnonneg.not_gt hneg
    · exact hlong hdecimal
  · intro h
    have hrefuses := recoverPoint_refuses (assertRecoverable_refuses_id (r := 1) (s := 1) hparity)
      (some (.bytes [])) .secp256k1
    exact hrefuses.not_rejected hlong (h unwritable 1 1 _ _ (Or.inl hparity))
  · intro h
    let sig : RecoverableSignature := ⟨.int unwritable, List.replicate 32 0, List.replicate 32 0⟩
    have hrefuses := @RecoverableSignature.assertValid_refuses sig hparity
    exact hrefuses.not_rejected hlong (h sig hparity)

end Ecdsa
