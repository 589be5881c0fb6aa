import Ecdsa.Proofs.Curve.Arithmetic
import Ecdsa.Proofs.Octets
import Ecdsa.Proofs.Supply
import Ecdsa.Signing

/-!
# Signing with a nonce

A nonce gives a signature unless it is degenerate, that is unless one of the scalars is zero.
-/

namespace Ecdsa

open Ecdsa.Modular Curve

variable {c : Curve}

/-- The challenge of a digest of the right size is its number modulo the order. -/
lemma challenge_eq_ok (hn : 0 < c.n) {hash : HashFunction} {digest : Octets} {bytes : List UInt8}
    (hread : digest.read = .ok bytes) (hsize : bytes.length = hash.digestSize) :
    c.challenge hash digest = .ok (BigEndian.decode bytes % c.n) := by
  rw [challenge, Octets.sized_exactly_eq_ok_iff.2 ⟨hread, hsize⟩, ok_bind, reduce_eq_ok hn]

lemma privateKey_number_eq_ok_iff {d key : Numeral} :
    c.privateKey (.number key) = .ok d ↔ (0 < key.toInt ∧ key.toInt < c.n) ∧ key = d := by
  rw [privateKey, readPrivateKey, ok_bind]
  split_ifs with h <;> simp [h]

lemma checkScalar_eq_ok {component : Component} {i : ℤ} (hi : 0 < i ∧ i < c.n) :
    Signature.checkScalar c component i = .ok () :=
  if_pos hi

lemma make_eq_ok {r s : ℤ} (hr : 0 < r ∧ r < c.n) (hs : 0 < s ∧ s < c.n) :
    Signature.make r s c true = .ok ⟨r, s, c⟩ := by
  simp only [Signature.make, Signature.assertValid, checkScalar_eq_ok hr, checkScalar_eq_ok hs]
  rfl

/-! ### Drawn nonces -/

section Drawn

variable [PointAddition] {e d : ℤ} {supply : Supply} {ks : ℕ → ℤ}

/-- Without a nonce a digest is signed with drawn ones. -/
lemma signDigest_none {hash : HashFunction} {digest : Octets} {key : IntegerForm} {number : Numeral}
    (hkey : c.privateKey key = .ok number) (he : c.challenge hash digest = .ok e) :
    signDigest digest key none c hash supply =
      tryNonces e number.toInt c nonceAttempts supply := by
  rw [signDigest, hkey, he]
  rfl

lemma tryNonces_succ_of_eq_ok (hsupply : supply.Gives ks) (left : ℕ) {sig : Signature}
    (h : signWithNonce e d (ks 0) c = .ok sig) :
    ∃ supply', tryNonces e d c (left + 1) supply = (.ok sig, supply') ∧
      supply.Advances 1 supply' := by
  obtain ⟨supply', hdraw, hadvance⟩ := hsupply.drawScalar
  refine ⟨supply', ?_, hadvance⟩
  rw [tryNonces, run_bind_ok hdraw, h]
  rfl

/-- A nonce of no use is replaced by the next. -/
lemma tryNonces_succ_of_zeroComponent (hsupply : supply.Gives ks) (left : ℕ)
    {component : Component} (h : signWithNonce e d (ks 0) c = .error (.zeroComponent component)) :
    ∃ supply', tryNonces e d c (left + 1) supply = tryNonces e d c left supply' ∧
      supply.Advances 1 supply' := by
  obtain ⟨supply₁, hdraw, hadvance⟩ := hsupply.drawScalar
  obtain ⟨supply₂, hrecord, hadvance'⟩ := supply₁.advances_record
    (.nonceDiscarded (nonceAttempts - left) (.zeroComponent component))
  refine ⟨supply₂, ?_, hadvance.trans hadvance'⟩
  rw [tryNonces, run_bind_ok hdraw, h]
  exact run_bind_ok hrecord _

end Drawn

/-! ### Nonces -/

variable [Fact c.p.toNat.Prime]

/-- The scalar `r` that comes of a nonce. -/
noncomputable def Curve.nonceScalar (c : Curve) [Fact c.p.toNat.Prime] (k : ℤ) : ℤ :=
  (c.baseMultiple k).x % c.n

/-- One of the two scalars that come of a nonce is zero. -/
def IsDegenerate (e d k : ℤ) (c : Curve) [Fact c.p.toNat.Prime] : Prop :=
  c.nonceScalar k = 0 ∨ (e + c.nonceScalar k * d) % c.n = 0

/-- The scalar is `(e + r d) / k` modulo the order, and not zero. -/
structure IsNonceQuotient (e d k : ℤ) (c : Curve) [Fact c.p.toNat.Prime] (s : ℤ) : Prop where
  range : 0 < s ∧ s < c.n
  quotient : s * k ≡ e + c.nonceScalar k * d [ZMOD c.n]

lemma IsNonceQuotient.of_modEq {e e' d k s : ℤ} (h : e ≡ e' [ZMOD c.n])
    (hs : IsNonceQuotient e d k c s) : IsNonceQuotient e' d k c s :=
  ⟨hs.range, hs.quotient.trans (h.add_right _)⟩

variable {e d k : ℤ}

lemma nonceScalar_nonneg_lt (hc : c.HasOddPrimeOrder) (k : ℤ) :
    0 ≤ c.nonceScalar k ∧ c.nonceScalar k < c.n :=
  emod_nonneg_lt hc.n_pos _

lemma nonceScalar_pos_lt (hc : c.HasOddPrimeOrder) (h : c.nonceScalar k ≠ 0) :
    0 < c.nonceScalar k ∧ c.nonceScalar k < c.n :=
  emod_pos_lt hc.n_pos h

/-- There is only one such scalar. -/
lemma IsNonceQuotient.eq (hc : c.HasOddPrimeOrder) {s t : ℤ} (hk : 0 < k ∧ k < c.n)
    (hs : IsNonceQuotient e d k c s) (ht : IsNonceQuotient e d k c t) : s = t := by
  have hgcd := gcd_eq_one_of_prime hc.prime (not_dvd_of_pos_lt hk)
  rw [Int.gcd_comm] at hgcd
  refine eq_of_modEq ⟨hs.range.1.le, hs.range.2⟩ ⟨ht.range.1.le, ht.range.2⟩ ?_
  have h := Int.ModEq.cancel_right_div_gcd hc.n_pos (hs.quotient.trans ht.quotient.symm)
  rwa [hgcd, Int.natCast_one, Int.ediv_one] at h

section Nonce

variable [PointAddition] (hG : c.MultipliesGenerator) (hc : c.HasOddPrimeOrder)
include hG hc

lemma exists_signWithNonce_eq (e d : ℤ) (hk : 0 < k ∧ k < c.n) :
    ∃ i, i * k ≡ 1 [ZMOD c.n] ∧ signWithNonce e d k c =
      if c.nonceScalar k = 0 then .error (.zeroComponent .r)
      else if i * (e + c.nonceScalar k * d) % c.n = 0 then .error (.zeroComponent .s)
      else Signature.make (c.nonceScalar k) (i * (e + c.nonceScalar k * d) % c.n) c true := by
  obtain ⟨i, hi, -, hinv⟩ := inverse_eq_ok (by linarith [hc.two_lt_n])
    (gcd_eq_one_of_prime hc.prime (not_dvd_of_pos_lt hk))
  refine ⟨i, hinv, ?_⟩
  simp only [signWithNonce, hG _, reduce_eq_ok hc.n_pos, hi, ok_bind,
    throw_eq_error, error_bind]
  rfl

/-- A degenerate nonce fails in the way that a drawn nonce may fail. -/
lemma signWithNonce_of_isDegenerate (hk : 0 < k ∧ k < c.n) (h : IsDegenerate e d k c) :
    ∃ component, signWithNonce e d k c = .error (.zeroComponent component) := by
  obtain ⟨i, -, heq⟩ := exists_signWithNonce_eq hG hc e d hk
  rw [heq]
  split_ifs with hr hs
  · exact ⟨.r, rfl⟩
  · exact ⟨.s, rfl⟩
  · exfalso
    apply hs
    rw [Int.mul_emod, h.resolve_left hr, mul_zero, Int.zero_emod]

/-- Any other gives the only signature there is with it. -/
lemma signWithNonce_of_not_isDegenerate (hk : 0 < k ∧ k < c.n) (h : ¬ IsDegenerate e d k c) :
    ∃ s : ℤ, signWithNonce e d k c = .ok ⟨c.nonceScalar k, s, c⟩ ∧ IsNonceQuotient e d k c s := by
  obtain ⟨hr, hd⟩ := not_or.1 h
  obtain ⟨i, hinv, heq⟩ := exists_signWithNonce_eq hG hc e d hk
  have hquotient : i * (e + c.nonceScalar k * d) % c.n * k ≡ e + c.nonceScalar k * d [ZMOD c.n] :=
    calc i * (e + c.nonceScalar k * d) % c.n * k
      _ ≡ i * (e + c.nonceScalar k * d) * k [ZMOD c.n] := (Int.mod_modEq _ _).mul_right k
      _ = i * k * (e + c.nonceScalar k * d) := by ring
      _ ≡ 1 * (e + c.nonceScalar k * d) [ZMOD c.n] := hinv.mul_right _
      _ = e + c.nonceScalar k * d := one_mul _
  have hs : i * (e + c.nonceScalar k * d) % c.n ≠ 0 := by
    intro hs
    rw [hs, zero_mul] at hquotient
    exact hd hquotient.symm
  have hsrange := emod_pos_lt hc.n_pos hs
  refine ⟨_, ?_, hsrange, hquotient⟩
  rw [heq, if_neg hr, if_neg hs]
  exact make_eq_ok (nonceScalar_pos_lt hc hr) hsrange

/-- There is no other way to fail. -/
lemma isDegenerate_of_signWithNonce_eq_error (hk : 0 < k ∧ k < c.n) {error : Error}
    (h : signWithNonce e d k c = .error error) :
    IsDegenerate e d k c ∧ error.kind = .unsuccessful := by
  by_cases hdeg : IsDegenerate e d k c
  · obtain ⟨component, heq⟩ := signWithNonce_of_isDegenerate hG hc hk hdeg
    obtain rfl := Except.error.inj (heq.symm.trans h)
    exact ⟨hdeg, rfl⟩
  · obtain ⟨s, heq, -⟩ := signWithNonce_of_not_isDegenerate hG hc hk hdeg
    cases heq.symm.trans h

/-- A signature is made of the scalars that come of its nonce. -/
lemma exists_scalar_of_signWithNonce (hk : 0 < k ∧ k < c.n) {sig : Signature}
    (h : signWithNonce e d k c = .ok sig) :
    ∃ s : ℤ, sig = ⟨c.nonceScalar k, s, c⟩ ∧ (0 < c.nonceScalar k ∧ c.nonceScalar k < c.n) ∧
      IsNonceQuotient e d k c s := by
  by_cases hdeg : IsDegenerate e d k c
  · obtain ⟨component, heq⟩ := signWithNonce_of_isDegenerate hG hc hk hdeg
    rw [heq] at h
    cases h
  · obtain ⟨s, heq, hs⟩ := signWithNonce_of_not_isDegenerate hG hc hk hdeg
    exact ⟨s, Except.ok.inj (h.symm.trans heq), nonceScalar_pos_lt hc (not_or.1 hdeg).1, hs⟩

/-- The signatures that a nonce can give. -/
lemma signWithNonce_eq_ok_iff (hk : 0 < k ∧ k < c.n) {r s : ℤ} :
    signWithNonce e d k c = .ok ⟨r, s, c⟩ ↔
      (0 < r ∧ r < c.n) ∧ r = c.nonceScalar k ∧ IsNonceQuotient e d k c s := by
  constructor
  · intro h
    obtain ⟨t, heq, hr, ht⟩ := exists_scalar_of_signWithNonce hG hc hk h
    cases heq
    exact ⟨hr, rfl, ht⟩
  · rintro ⟨hr, rfl, hs⟩
    have hdeg : ¬ IsDegenerate e d k c := by
      rintro (hzero | hzero)
      · exact hr.1.ne' hzero
      · have hdvd : c.n ∣ s * k := Int.modEq_zero_iff_dvd.1 (hs.quotient.trans hzero)
        have hgcd := gcd_eq_one_of_prime hc.prime (not_dvd_of_pos_lt hk)
        rw [Int.gcd_comm] at hgcd
        exact not_dvd_of_pos_lt hs.range (Int.dvd_of_dvd_mul_left_of_gcd_one hdvd hgcd)
    obtain ⟨t, heq, ht⟩ := signWithNonce_of_not_isDegenerate hG hc hk hdeg
    rw [heq, hs.eq hc hk ht]

/-- Signing takes the first nonce that is not degenerate, and fails if all it may draw are. -/
lemma tryNonces_spec {supply : Supply} {ks : ℕ → ℤ} (hks : ∀ i, 0 < ks i ∧ ks i < c.n)
    (hsupply : supply.Gives ks) (left : ℕ) :
    (∃ i < left, (∀ j < i, IsDegenerate e d (ks j) c) ∧ ¬ IsDegenerate e d (ks i) c ∧
      ∃ (s : ℤ) (supply' : Supply), tryNonces e d c left supply =
        (.ok ⟨c.nonceScalar (ks i), s, c⟩, supply') ∧ IsNonceQuotient e d (ks i) c s ∧
        supply.Advances (i + 1) supply') ∨
    (∀ j < left, IsDegenerate e d (ks j) c) ∧
      ∃ supply', tryNonces e d c left supply = (.error (.noUsableNonce nonceAttempts), supply') ∧
        supply.Advances left supply' := by
  induction left generalizing supply ks with
  | zero => exact Or.inr ⟨fun j hj => absurd hj j.not_lt_zero, supply, rfl, Supply.Advances.refl⟩
  | succ left ih =>
    by_cases hdeg : IsDegenerate e d (ks 0) c
    · obtain ⟨component, hsign⟩ := signWithNonce_of_isDegenerate hG hc (hks 0) hdeg
      obtain ⟨supply₁, heq, hadvance⟩ := tryNonces_succ_of_zeroComponent hsupply left hsign
      rw [heq]
      have hfirst : ∀ {k}, (∀ j < k, IsDegenerate e d (ks (1 + j)) c) →
          ∀ j < k + 1, IsDegenerate e d (ks j) c := by
        intro k h j hj
        cases j with
        | zero => exact hdeg
        | succ j =>
          rw [Nat.add_comm]
          exact h j (by omega)
      rcases ih (fun i => hks (1 + i)) (hsupply.advance hadvance) with
        ⟨i, hi, hbefore, hnot, s, supply₂, heq', hs, hadvance'⟩ | ⟨hall, supply₂, heq', hadvance'⟩
      · rw [Nat.add_comm 1] at hnot hs heq'
        exact Or.inl ⟨i + 1, by omega, hfirst hbefore, hnot, s, supply₂, heq', hs,
          (Nat.add_comm 1 _) ▸ hadvance.trans hadvance'⟩
      · exact Or.inr ⟨hfirst hall, supply₂, heq', (Nat.add_comm 1 _) ▸ hadvance.trans hadvance'⟩
    · obtain ⟨s, hsign, hs⟩ := signWithNonce_of_not_isDegenerate hG hc (hks 0) hdeg
      obtain ⟨supply₁, heq, hadvance⟩ := tryNonces_succ_of_eq_ok hsupply left hsign
      exact Or.inl ⟨0, by omega, fun j hj => absurd hj j.not_lt_zero, hdeg, s, supply₁, heq, hs,
        hadvance⟩

end Nonce

end Ecdsa
