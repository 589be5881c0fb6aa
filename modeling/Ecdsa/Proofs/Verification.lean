import Ecdsa.Proofs.Signing
import Ecdsa.Verification

/-!
# Verification

A signature holds under a public key exactly if signing can give it with some nonce.
-/

namespace Ecdsa

open Ecdsa.Modular Curve

variable {c : Curve}

lemma verifyDigest_eq_true_iff [PointAddition] {digest : Octets} {key : PublicKeyForm}
    {sig : Signature} {hash : HashFunction} :
    verifyDigest digest key sig hash = true ↔ assertDigestSigned digest key sig hash = .ok () := by
  rw [verifyDigest]
  cases assertDigestSigned digest key sig hash <;> simp [Except.isOk, Except.toBool]

lemma checkScalar_eq_ok_iff {component : Component} {i : ℤ} :
    Signature.checkScalar c component i = .ok () ↔ 0 < i ∧ i < c.n := by
  constructor
  · intro h
    rw [Signature.checkScalar] at h
    split_ifs at h with hi
    · exact hi
    · exact absurd h reject_ne_ok
  · exact checkScalar_eq_ok

lemma assertValid_eq_ok_iff {r s : ℤ} :
    (⟨r, s, c⟩ : Signature).assertValid = .ok () ↔ (0 < r ∧ r < c.n) ∧ 0 < s ∧ s < c.n := by
  rw [Signature.assertValid, check_bind_eq_ok_iff, checkScalar_eq_ok_iff, checkScalar_eq_ok_iff]

/-! ### The verification point -/

section Point

variable [PointAddition]

/-- The point `(e / s) G + (r / s) Q`, whose abscissa is compared with `r`. -/
def verificationPoint (e : ℤ) (Q : Coordinates) (r s : ℤ) (c : Curve) : Except Error Point := do
  let w ← Modular.inverse s c.n
  let u ← c.reduce (e * w)
  let v ← c.reduce (r * w)
  (← c.sumOfMultiples v Q u c.G).point

lemma assertEquation_eq (e : ℤ) (Q : Coordinates) (r s : ℤ) (c : Curve) :
    assertEquation e Q r s c = (do
      let K ← verificationPoint e Q r s c
      if K.IsInfinite then throw .infiniteEphemeralPoint
      if r ≠ (← c.reduce K.x) then throw .verificationFailed) := by
  simp only [assertEquation, verificationPoint, bind_assoc]

lemma assertEquation_of_verificationPoint (hn : 0 < c.n) {e r s : ℤ} {Q : Coordinates} {K : Point}
    (hK : verificationPoint e Q r s c = .ok K) :
    assertEquation e Q r s c = .ok () ↔ ¬ K.IsInfinite ∧ r = K.x % c.n := by
  rw [assertEquation_eq, hK, ok_bind, reduce_eq_ok hn, ok_bind]
  by_cases hinfinite : K.IsInfinite
  · simp [hinfinite]
  · by_cases hr : r = K.x % c.n <;> simp [hinfinite, hr]

/-- With the challenge and the public key at hand, only the scalars remain to be checked. -/
lemma verifyDigest_iff {hash : HashFunction} {digest : Octets} {e : ℤ}
    (he : c.challenge hash digest = .ok e) {key : PublicKeyForm} {Q : Coordinates}
    (hkey : c.publicKeyOf key = .ok Q) {r s : ℤ} :
    verifyDigest digest key ⟨r, s, c⟩ hash = true ↔
      ((0 < r ∧ r < c.n) ∧ 0 < s ∧ s < c.n) ∧ assertEquation e Q r s c = .ok () := by
  simp only [verifyDigest_eq_true_iff, assertDigestSigned, check_bind_eq_ok_iff,
    assertValid_eq_ok_iff, he, hkey, ok_bind, Numeral.toInt_int]

/-- Only scalars in range hold under a key. -/
lemma range_of_verifyDigest {digest : Octets} {key : PublicKeyForm} {r s : ℤ} {hash : HashFunction}
    (h : verifyDigest digest key ⟨r, s, c⟩ hash = true) :
    (0 < r ∧ r < c.n) ∧ 0 < s ∧ s < c.n := by
  rw [verifyDigest_eq_true_iff, assertDigestSigned, check_bind_eq_ok_iff,
    assertValid_eq_ok_iff] at h
  exact h.1

/-- A signature holds under a key only if the point of the key is on the curve. -/
lemma exists_point_of_verifyDigest {digest : Octets} {key : PublicKeyForm} {sig : Signature}
    {hash : HashFunction} (h : verifyDigest digest key sig hash = true) :
    ∃ e Q P, sig.curve.challenge hash digest = .ok e ∧ sig.curve.publicKeyOf key = .ok Q ∧
      Q.point = .ok P ∧ sig.curve.contains P = .ok true := by
  rw [verifyDigest_eq_true_iff, assertDigestSigned, check_bind_eq_ok_iff] at h
  simp only [bind_eq_ok_iff] at h
  obtain ⟨-, e, he, Q, hQ, h⟩ := h
  simp only [assertEquation, bind_eq_ok_iff] at h
  obtain ⟨w, -, u, -, v, -, R, hR, -⟩ := h
  rw [sumOfMultiples, bind_eq_ok_iff] at hR
  obtain ⟨P, hP, -⟩ := hR
  obtain ⟨hpoint, hcontains⟩ := of_requireOnCurve_eq_ok hP
  exact ⟨e, Q, P, he, hQ, hpoint, hcontains⟩

end Point

variable [Fact c.p.toNat.Prime]

lemma publicKeyOf_coordinates (hc : c.HasOddPrimeOrder) {Q : Coordinates} {P : Point}
    (hQ : Q.point = .ok P) (hP : c.HasPoint P) :
    c.publicKeyOf (.coordinates Q) = .ok Q := by
  have hon := requireOnCurve_eq_ok hQ ((contains_iff hc.hasArithmetic).2 (Or.inr hP))
  rw [publicKeyOf, hon, ok_bind, requireFinite, if_neg hP.not_isInfinite]

section Keys

variable [PointAddition] {Q : Coordinates} {P : Point} {d : ℤ}

/-- Under the coordinates the verification point is `(e G + r A) / s`. -/
def VerifiesUnder (Q : Coordinates) (c : Curve) [Fact c.p.toNat.Prime] (A : c.Element) : Prop :=
  ∀ (e r : ℤ) {s : ℤ}, ¬ c.n ∣ s → ∃ w, w * s ≡ 1 [ZMOD c.n] ∧
    verificationPoint e Q r s c = .ok (c.pointOf (w • (e • c.element c.G + r • A)))

lemma verifiesUnder (law : c.ComputesInGroup) (hc : c.HasOddPrimeOrder) (hQ : Q.point = .ok P)
    (hP : P.IsInfinite ∨ c.HasPoint P) (hn : c.n • c.element P = 0) :
    VerifiesUnder Q c (c.element P) := by
  intro e r s hs
  obtain ⟨w, hw, -, hinv⟩ := inverse_eq_ok (by linarith [hc.two_lt_n])
    (gcd_eq_one_of_prime hc.prime hs)
  obtain ⟨R, hR, hpoint⟩ := exists_sumOfMultiples law hc hQ (Coordinates.point_coordinates c.G)
    hP (Or.inr hc.generator) (r * w % c.n) (e * w % c.n)
  rw [Int.emod_emod, Int.emod_emod, emod_zsmul hn, emod_zsmul hc.n_zsmul_generator] at hpoint
  refine ⟨w, hinv, ?_⟩
  simp only [verificationPoint, hw, reduce_eq_ok hc.n_pos, hR, hpoint, ok_bind]
  rw [zsmul_add, ← mul_zsmul, ← mul_zsmul, add_comm, mul_comm w, mul_comm w]

variable (hG : c.MultipliesGenerator) (hc : c.HasOddPrimeOrder)
include hG hc

/-- Under the infinite point only a multiple of the generator is computed. -/
lemma verifiesUnder_of_isInfinite (hQ : Q.point = .ok P) (hP : P.IsInfinite) :
    VerifiesUnder Q c ((0 : ℤ) • c.element c.G) := by
  intro e r s hs
  obtain ⟨w, hw, -, hinv⟩ := inverse_eq_ok (by linarith [hc.two_lt_n])
    (gcd_eq_one_of_prime hc.prime hs)
  have hon := requireOnCurve_eq_ok hQ ((contains_iff hc.hasArithmetic).2 (Or.inl hP))
  have honG := requireOnCurve_eq_ok (Coordinates.point_coordinates c.G)
    ((contains_iff hc.hasArithmetic).2 (Or.inr hc.generator))
  have hmult : c.sumOfMultiples (.number (.int (r * w % c.n))) Q
      (.number (.int (e * w % c.n))) c.G = .ok (c.baseMultiple (e * w)) := by
    simp only [sumOfMultiples, hon, honG, value_number, reduce_eq_ok hc.n_pos, ok_bind, hP, or_true,
      if_true]
    rw [mult_generator, hG, map_ok,
      hc.baseMultiple_eq_of_modEq ((Int.mod_modEq _ _).trans (Int.mod_modEq _ _))]
  refine ⟨w, hinv, ?_⟩
  simp only [verificationPoint, hw, reduce_eq_ok hc.n_pos, hmult, ok_bind,
    Coordinates.point_coordinates]
  rw [zero_zsmul, zsmul_zero, add_zero, ← mul_zsmul, mul_comm w, baseMultiple]

omit hG in
/-- Under the public key `d G` the check looks for the nonce with which `r` and `s` were made. -/
lemma assertEquation_eq_ok_iff (hverifies : VerifiesUnder Q c (d • c.element c.G)) (e r : ℤ)
    {s : ℤ} (hs : 0 < s ∧ s < c.n) :
    assertEquation e Q r s c = .ok () ↔
      ∃ k, (0 < k ∧ k < c.n) ∧ r = c.nonceScalar k ∧ s * k ≡ e + r * d [ZMOD c.n] := by
  obtain ⟨w, hw, hpoint⟩ := hverifies e r (not_dvd_of_pos_lt hs)
  have hK : verificationPoint e Q r s c = .ok (c.baseMultiple (w * (e + r * d))) := by
    rw [hpoint, ← mul_zsmul, ← add_zsmul, ← mul_zsmul, baseMultiple]
  rw [assertEquation_of_verificationPoint hc.n_pos hK]
  constructor
  · rintro ⟨hinfinite, hr⟩
    have hmod := Int.mod_modEq (w * (e + r * d)) c.n
    rw [hc.isInfinite_baseMultiple_iff, Int.dvd_iff_emod_eq_zero] at hinfinite
    refine ⟨w * (e + r * d) % c.n, emod_pos_lt hc.n_pos hinfinite, ?_, ?_⟩
    · rwa [nonceScalar, hc.baseMultiple_eq_of_modEq hmod]
    · calc s * (w * (e + r * d) % c.n)
        _ ≡ s * (w * (e + r * d)) [ZMOD c.n] := hmod.mul_left s
        _ = w * s * (e + r * d) := by ring
        _ ≡ 1 * (e + r * d) [ZMOD c.n] := hw.mul_right _
        _ = e + r * d := one_mul _
  · rintro ⟨k, hk, hr, hquotient⟩
    have hmod : w * (e + r * d) ≡ k [ZMOD c.n] :=
      calc w * (e + r * d)
        _ ≡ w * (s * k) [ZMOD c.n] := hquotient.symm.mul_left w
        _ = w * s * k := by ring
        _ ≡ 1 * k [ZMOD c.n] := hw.mul_right k
        _ = k := one_mul k
    rw [hc.baseMultiple_eq_of_modEq hmod]
    exact ⟨(hc.hasPoint_baseMultiple (not_dvd_of_pos_lt hk)).not_isInfinite, hr⟩

/-- Under a public key that is `d G` those signatures hold that signing gives with some nonce. -/
lemma verifyDigest_iff_of_publicKeyOf {hash : HashFunction} {digest : Octets} {e : ℤ}
    (he : c.challenge hash digest = .ok e) {key : PublicKeyForm}
    (hkey : c.publicKeyOf key = .ok Q) (hverifies : VerifiesUnder Q c (d • c.element c.G))
    (r s : ℤ) :
    verifyDigest digest key ⟨r, s, c⟩ hash = true ↔
      ∃ k, (0 < k ∧ k < c.n) ∧ signWithNonce e d k c = .ok ⟨r, s, c⟩ := by
  rw [verifyDigest_iff he hkey]
  constructor
  · rintro ⟨⟨hr, hs⟩, h⟩
    obtain ⟨k, hk, hrk, hquotient⟩ := (assertEquation_eq_ok_iff hc hverifies _ r hs).1 h
    refine ⟨k, hk, (signWithNonce_eq_ok_iff hG hc hk).2 ⟨hr, hrk, hs, ?_⟩⟩
    rwa [← hrk]
  · rintro ⟨k, hk, h⟩
    obtain ⟨hr, hrk, hs, hquotient⟩ := (signWithNonce_eq_ok_iff hG hc hk).1 h
    refine ⟨⟨hr, hs⟩, (assertEquation_eq_ok_iff hc hverifies _ r hs).2 ⟨k, hk, hrk, ?_⟩⟩
    rwa [hrk]

end Keys

section Law

variable [PointAddition] (law : c.ComputesInGroup) (hc : c.HasOddPrimeOrder)
include law hc

/-- With the challenge at hand, the coordinates of a public key may be given in any form. -/
lemma verifyDigest_coordinates_iff {hash : HashFunction} {digest : Octets} {e : ℤ}
    (he : c.challenge hash digest = .ok e) {d : ℤ} (hd : 0 < d ∧ d < c.n) {Q : Coordinates}
    (hQ : Q.point = .ok (c.baseMultiple d)) (r s : ℤ) :
    verifyDigest digest (.coordinates Q) ⟨r, s, c⟩ hash = true ↔
      ∃ k, (0 < k ∧ k < c.n) ∧ signWithNonce e d k c = .ok ⟨r, s, c⟩ := by
  have hP := hc.hasPoint_baseMultiple (not_dvd_of_pos_lt hd)
  have hverifies := verifiesUnder law hc hQ (Or.inr hP) (hc.n_zsmul_element_baseMultiple d)
  rw [hc.element_baseMultiple] at hverifies
  exact verifyDigest_iff_of_publicKeyOf (law.multipliesGenerator hc) hc he
    (publicKeyOf_coordinates hc hQ hP) hverifies r s

/-- The signatures that hold under a public key are those that signing gives with some nonce. -/
theorem verifyDigest_iff_exists_nonce {hash : HashFunction} {digest : Octets} {bytes : List UInt8}
    (hread : digest.read = .ok bytes) (hsize : bytes.length = hash.digestSize) {d : ℤ}
    (hd : 0 < d ∧ d < c.n) (r s : ℤ) :
    ∃ e, c.challenge hash digest = .ok e ∧
      (verifyDigest digest (.coordinates (c.baseMultiple d)) ⟨r, s, c⟩ hash = true ↔
        ∃ k, (0 < k ∧ k < c.n) ∧ signWithNonce e d k c = .ok ⟨r, s, c⟩) := by
  have he := challenge_eq_ok hc.n_pos hread hsize
  exact ⟨_, he, verifyDigest_coordinates_iff law hc he hd (Coordinates.point_coordinates _) r s⟩

end Law

/-- The signature with the nonce 12, under five times the generator. -/
theorem verifyDigest_iff_exists_nonce_small :
    letI := reducedAddition
    ∃ e, small.challenge .sha256 (.bytes (List.replicate 32 1)) = .ok e ∧
      (verifyDigest (.bytes (List.replicate 32 1)) (.coordinates (small.baseMultiple 5))
        ⟨(125 : ℤ), (128 : ℤ), small⟩ .sha256 = true ↔
        ∃ k, (0 < k ∧ k < small.n) ∧
          signWithNonce e 5 k small = .ok ⟨(125 : ℤ), (128 : ℤ), small⟩) ∧
      verifyDigest (.bytes (List.replicate 32 1)) (⟨114, 46⟩ : Point)
        ⟨(125 : ℤ), (128 : ℤ), small⟩ .sha256 = true := by
  let _ := reducedAddition
  have hread : (Octets.bytes (List.replicate 32 1)).read = .ok (List.replicate 32 1) := rfl
  have hlength : (List.replicate 32 (1 : UInt8)).length = HashFunction.sha256.digestSize := rfl
  have hd : (0 : ℤ) < 5 ∧ 5 < small.n := by decide
  obtain ⟨e, he, hiff⟩ := verifyDigest_iff_exists_nonce small_computesInGroup
    small_hasOddPrimeOrder hread hlength hd 125 128
  exact ⟨e, he, hiff, by decide +kernel⟩

end Ecdsa
