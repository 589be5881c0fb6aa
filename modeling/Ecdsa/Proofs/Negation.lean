import Ecdsa.Proofs.Recovery
import Ecdsa.Proofs.Verification

/-!
# Negation

Opposite points have the same abscissa, so that a signature with the scalar `s` negated is one with
the opposite ephemeral point. No step prefers one of the two: signing, verification and recovery
follow the negation, recovery where a coordinate takes two bytes or more.
-/

namespace Ecdsa

open Ecdsa.Modular Curve

/-- The signature with the scalar `s` negated. -/
def Signature.negate (sig : Signature) : Signature :=
  ⟨sig.r, .int (sig.curve.n - sig.s.toInt), sig.curve⟩

/-- If the key gives a finite point on the curve, this is in the subgroup of the generator. -/
def PublicKeyForm.IsInSubgroup (key : PublicKeyForm) (c : Curve) [Fact c.p.toNat.Prime] : Prop :=
  ∀ Q P, c.publicKeyOf key = .ok Q → Q.point = .ok P → c.HasPoint P → c.n • c.element P = 0

section Negation

variable {c : Curve} [Fact c.p.toNat.Prime] {e d r s k id : ℤ}

lemma PublicKeyForm.isInSubgroup_coordinates {P : Point} (hn : c.n • c.element P = 0) :
    (PublicKeyForm.coordinates P).IsInSubgroup c := by
  intro Q R hQ hR _
  rw [publicKeyOf, bind_eq_ok_iff] at hQ
  obtain ⟨P', -, hQ⟩ := hQ
  rw [requireFinite] at hQ
  split_ifs at hQ
  cases hQ
  cases hR
  exact hn

/-- The ephemeral point of a recovered key may be replaced by its opposite. -/
lemma IsRecovered.negate (hc : c.HasOddPrimeOrder) {Q : Point} (h : IsRecovered id e r s c Q) :
    IsRecovered (1 - id) e r (c.n - s) c Q := by
  obtain ⟨K, hK, hKn, hx, hparity, heq⟩ := h.ephemeral
  have hneg := hK.element_opposite hc.p_ne_two
  refine ⟨h.finite, h.subgroup, h.invertible, ⟨K.x, c.p - K.y⟩, hK.opposite, ?_, hx, ?_, ?_⟩
  · rw [hneg, zsmul_neg, hKn, neg_zero]
  · have := emod_two_of_odd hc.p_ne_two
    dsimp only
    omega
  · rw [hneg, heq, zsmul_neg, sub_zsmul, hKn, zero_add, neg_neg]

variable [PointAddition] (law : c.ComputesInGroup) (hc : c.HasOddPrimeOrder)

section Law

include law hc

/-- The verification point of the negated scalar is the opposite one. -/
lemma assertEquation_sub {Q : Coordinates} {P : Point} (hQ : Q.point = .ok P)
    (hP : P.IsInfinite ∨ c.HasPoint P) (hn : c.n • c.element P = 0) (e r : ℤ)
    (hs : 0 < s ∧ s < c.n) :
    assertEquation e Q r (c.n - s) c = .ok () ↔ assertEquation e Q r s c = .ok () := by
  have hverifies := verifiesUnder law hc hQ hP hn
  obtain ⟨w, hw, hpoint⟩ := hverifies e r (not_dvd_of_pos_lt hs)
  obtain ⟨w', hw', hpoint'⟩ := hverifies e r (not_dvd_of_pos_lt (sub_pos_lt hs))
  rw [zsmul_eq_of_modEq (hc.n_zsmul_combination hn e r) (modEq_neg_of_inverse_sub hw hw'),
    neg_zsmul] at hpoint'
  rw [assertEquation_of_verificationPoint hc.n_pos hpoint,
    assertEquation_of_verificationPoint hc.n_pos hpoint', isInfinite_pointOf_neg hc.p_ne_two,
    x_pointOf_neg]

/-- A signature that holds also holds with the scalar `s` negated. -/
lemma verifyDigest_negate {hash : HashFunction} {digest : Octets} {key : PublicKeyForm}
    (hkey : key.IsInSubgroup c) (h : verifyDigest digest key ⟨r, s, c⟩ hash = true) :
    verifyDigest digest key ⟨r, c.n - s, c⟩ hash = true := by
  obtain ⟨e, Q, P, he, hQ, hP, hcontains⟩ := exists_point_of_verifyDigest h
  rw [contains_iff hc.hasArithmetic] at hcontains
  have hn : c.n • c.element P = 0 := by
    rcases hcontains with hinfinite | hpoint
    · exact zsmul_element_eq_zero (Or.inr hinfinite)
    · exact hkey Q P hQ hP hpoint
  rw [verifyDigest_iff (c := c) he hQ] at h ⊢
  obtain ⟨⟨hr, hs⟩, h⟩ := h
  exact ⟨⟨hr, sub_pos_lt hs⟩, (assertEquation_sub law hc hP hcontains hn e r hs).2 h⟩

lemma verifyDigest_sub {hash : HashFunction} {digest : Octets} {key : PublicKeyForm}
    (hkey : key.IsInSubgroup c) (r s : ℤ) :
    verifyDigest digest key ⟨r, c.n - s, c⟩ hash = verifyDigest digest key ⟨r, s, c⟩ hash := by
  rw [Bool.eq_iff_iff]
  constructor
  · intro h
    have h' := verifyDigest_negate law hc hkey h
    rwa [sub_sub_cancel] at h'
  · exact verifyDigest_negate law hc hkey

omit law [PointAddition] in
lemma nonceScalar_sub (k : ℤ) : c.nonceScalar (c.n - k) = c.nonceScalar k := by
  have hmod : c.n - k ≡ -k [ZMOD c.n] := by
    rw [Int.modEq_iff_dvd]
    exact ⟨-1, by ring⟩
  rw [nonceScalar, hc.baseMultiple_eq_of_modEq hmod, baseMultiple, neg_zsmul, x_pointOf_neg]
  rfl

/-- The opposite nonce gives the signature with the scalar `s` negated, or fails in the same way. -/
lemma signWithNonce_sub (e d : ℤ) (hk : 0 < k ∧ k < c.n) :
    signWithNonce e d (c.n - k) c = Signature.negate <$> signWithNonce e d k c := by
  have hG := law.multipliesGenerator hc
  obtain ⟨i, hi, heq⟩ := exists_signWithNonce_eq hG hc e d hk
  obtain ⟨j, hj, heq'⟩ := exists_signWithNonce_eq hG hc e d (sub_pos_lt hk)
  rw [nonceScalar_sub hc] at heq'
  have hmod := (modEq_neg_of_inverse_sub hi hj).mul_right (e + c.nonceScalar k * d)
  rw [neg_mul] at hmod
  rw [heq, heq', hmod]
  set m := i * (e + c.nonceScalar k * d)
  by_cases hr : c.nonceScalar k = 0
  · simp [hr]
  by_cases hs : m % c.n = 0
  · have hneg : -m % c.n = 0 := by
      rw [← Int.dvd_iff_emod_eq_zero, dvd_neg]
      exact Int.dvd_of_emod_eq_zero hs
    simp [hr, hs, hneg]
  have hrange := nonceScalar_pos_lt hc hr
  have hsrange := emod_pos_lt hc.n_pos hs
  have hneg := sub_pos_lt hsrange
  rw [neg_emod_of_ne_zero hc.n_pos hs, if_neg hr, if_neg hr, if_neg hs, if_neg hneg.1.ne',
    make_eq_ok hrange hneg, make_eq_ok hrange hsrange, map_ok]
  rfl

variable (hsize : 2 ≤ c.fieldSize) (hodd : c.HasOddGroup)
include hsize hodd

/-- The other recovery id recovers the same key from the negated scalar. -/
lemma recoverUnchecked_sub (hid : id = 0 ∨ id = 1) (hr : 0 ≤ r) (e s : ℤ) :
    recoverUnchecked (1 - id) e r (c.n - s) c = recoverUnchecked id e r s c := by
  have hid' : 1 - id = 0 ∨ 1 - id = 1 := by
    omega
  obtain ⟨Q?, hQ?, hspec⟩ := recoverUnchecked_spec law hc hsize hodd hid hr e s
  obtain ⟨R?, hR?, hspec'⟩ := recoverUnchecked_spec law hc hsize hodd hid' hr e (c.n - s)
  rw [hQ?, hR?]
  congr 1
  ext Q
  rw [hspec, hspec']
  constructor
  · intro h
    have hneg := h.negate hc
    rwa [sub_sub_cancel, sub_sub_cancel] at hneg
  · intro h
    exact h.negate hc

lemma recoverPoint_sub (hid : id = 0 ∨ id = 1) (hr : 0 ≤ r) (hs : 0 ≤ s ∧ s ≤ c.n)
    (digest : Option Octets) :
    recoverPoint (1 - id) r (c.n - s) digest c = recoverPoint id r s digest c := by
  have hid' : 1 - id = 0 ∨ 1 - id = 1 := by
    omega
  have hassert := assertRecoverable_eq_ok_iff.2 ⟨hid, hr, hs.1⟩
  have hassert' := assertRecoverable_eq_ok_iff.2 ⟨hid', hr, sub_nonneg.2 hs.2⟩
  cases digest with
  | none => rw [recoverPoint, recoverPoint, hassert, hassert']
  | some digest =>
    rw [recoverPoint, recoverPoint, hassert, hassert', ok_bind, ok_bind]
    simp only [recoverUnchecked_sub law hc hsize hodd hid hr]

end Law

/-- Negating the scalar `s` or the nonce changes nothing but the ephemeral point, which becomes its
opposite. -/
structure FollowsNegation (c : Curve) [Fact c.p.toNat.Prime] [PointAddition] : Prop where
  verification : ∀ (hash : HashFunction) (digest : Octets) (key : PublicKeyForm) (r s : ℤ),
    key.IsInSubgroup c →
      verifyDigest digest key ⟨r, c.n - s, c⟩ hash = verifyDigest digest key ⟨r, s, c⟩ hash
  /-- The opposite ephemeral point is found if a coordinate takes two bytes or more. -/
  recovery : 2 ≤ c.fieldSize → ∀ (id r s : ℤ) (digest : Option Octets), id = 0 ∨ id = 1 → 0 ≤ r →
    0 ≤ s ∧ s ≤ c.n → recoverPoint (1 - id) r (c.n - s) digest c = recoverPoint id r s digest c
  signing : ∀ e d k : ℤ, 0 < k ∧ k < c.n →
    signWithNonce e d (c.n - k) c = Signature.negate <$> signWithNonce e d k c

include law hc in
/-- Signing, verification and recovery follow the negation of a signature. -/
theorem followsNegation (hodd : c.HasOddGroup) : FollowsNegation c where
  verification := fun _ _ _ r s hkey => verifyDigest_sub law hc hkey r s
  recovery := fun hsize _ _ _ digest hid hr hs =>
    recoverPoint_sub law hc hsize hodd hid hr hs digest
  signing := fun e d _ hk => signWithNonce_sub law hc e d hk

end Negation

/-- The signature with the nonce 12, its verification and its recovery. -/
theorem followsNegation_small :
    letI := reducedAddition
    verifyDigest (.bytes (List.replicate 32 1)) (⟨114, 46⟩ : Point)
        ⟨(125 : ℤ), (128 : ℤ), small⟩ .sha256 = true ∧
    verifyDigest (.bytes (List.replicate 32 1)) (⟨114, 46⟩ : Point)
        ⟨(125 : ℤ), (small.n - 128 : ℤ), small⟩ .sha256 =
      verifyDigest (.bytes (List.replicate 32 1)) (⟨114, 46⟩ : Point)
        ⟨(125 : ℤ), (128 : ℤ), small⟩ .sha256 ∧
    recoverPoint (1 - 0) 125 (small.n - 128) (some (.bytes (List.replicate 32 1))) small =
      recoverPoint 0 125 128 (some (.bytes (List.replicate 32 1))) small ∧
    signWithNonce 68 5 (small.n - 12) small = Signature.negate <$> signWithNonce 68 5 12 small := by
  let _ := reducedAddition
  have h := followsNegation small_computesInGroup small_hasOddPrimeOrder small_hasOddGroup
  have hn := small_hasOddPrimeOrder.n_zsmul_element_baseMultiple 5
  rw [small_baseMultiple_five] at hn
  exact ⟨by decide +kernel, h.verification _ _ _ _ _ (PublicKeyForm.isInSubgroup_coordinates hn),
    h.recovery small_two_le_fieldSize _ _ _ _ (Or.inl rfl) (by decide) (by decide),
    h.signing _ _ _ (by decide)⟩

/-- Where a coordinate takes one byte, the ephemeral point is the same for both recovery ids. -/
theorem not_forall_recoverPoint_sub :
    ¬ ∀ (c : Curve) [Fact c.p.toNat.Prime] (id r s : ℤ) (digest : List UInt8),
      c.HasOddPrimeOrder → c.HasOddGroup → id = 0 ∨ id = 1 → 0 ≤ r → 0 ≤ s ∧ s ≤ c.n →
        recoverPoint (1 - id) r (c.n - s) (some (.bytes digest)) c =
          recoverPoint id r s (some (.bytes digest)) c := by
  intro h
  have hsub := h oneByte 0 8 1 [7] oneByte_hasOddPrimeOrder oneByte_hasOddGroup (Or.inl rfl)
    (by decide) (by decide)
  have hdiffer : (recoverPoint (1 - 0) 8 (oneByte.n - 1) (some (.bytes [7])) oneByte).toOption ≠
      (recoverPoint 0 8 1 (some (.bytes [7])) oneByte).toOption := by
    decide +kernel
  exact hdiffer (congrArg Except.toOption hsub)

end Ecdsa
