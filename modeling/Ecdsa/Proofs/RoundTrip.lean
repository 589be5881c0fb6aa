import Ecdsa.Proofs.CompactFormat
import Ecdsa.Proofs.KeyPair
import Ecdsa.Proofs.MessageSignature
import Ecdsa.Proofs.Verification

/-!
# The round trip of recoverable signatures

Whatever signing a message gives leads back to the key of the signer, in every form that it can be
given in, and holds under it.
-/

namespace Ecdsa

open Ecdsa.Modular Curve

section Inversion

variable [PointAddition] {c : Curve} {supply supply' : Supply}

/-- A signature with a drawn nonce is one with a nonce in range. -/
lemma exists_nonce_of_tryNonces {e d : ℤ} {left : ℕ} {sig : Signature}
    (hsupply : supply.InRange c.n) (h : tryNonces e d c left supply = (.ok sig, supply')) :
    (∃ k, (0 < k ∧ k < c.n) ∧ signWithNonce e d k c = .ok sig) ∧ supply'.InRange c.n := by
  induction left generalizing supply with
  | zero => cases h
  | succ left ih =>
    rw [tryNonces, run_bind_eq_ok_iff] at h
    obtain ⟨k, supply₁, hdraw, h⟩ := h
    obtain ⟨hk, hsupply₁⟩ := hsupply.of_drawScalar hdraw
    cases hsign : signWithNonce e d k c with
    | ok sig' =>
      rw [hsign] at h
      cases h
      exact ⟨⟨k, hk, hsign⟩, hsupply₁⟩
    | error cause =>
      rw [hsign] at h
      dsimp only at h
      split_ifs at h
      · rw [run_bind_eq_ok_iff] at h
        obtain ⟨_, supply₂, hrecord, h⟩ := h
        exact ih (hsupply₁.of_record hrecord) h
      · cases h

/-- A recovery id that is found recovers the key. -/
lemma recoverKeyInteger_of_tryRecoveryIds {key r s id : ℤ} {digest : List UInt8} {candidates : ℕ}
    {ids : List ℤ} (h : tryRecoveryIds key r s digest c candidates ids = .ok (.found id)) :
    recoverKeyInteger id r s (some (.bytes digest)) c = .ok (some key) := by
  induction ids generalizing candidates with
  | nil => cases h
  | cons i ids ih =>
    rw [tryRecoveryIds, bind_eq_ok_iff] at h
    obtain ⟨result, hresult, h⟩ := h
    cases result with
    | none => exact ih h
    | some candidate =>
      dsimp only at h
      split_ifs at h with heq
      · cases h
        rw [hresult, heq]
      · exact ih h

/-- The attempt that a recoverable signature comes from. -/
lemma exists_attempt_of_trySignatures {pair : KeyPair} {key : ℤ} {digest : List UInt8}
    {mismatches left : ℕ} {sig : RecoverableSignature} (hsupply : supply.InRange pair.curve.n)
    (h : trySignatures pair key digest mismatches left supply = (.ok sig, supply')) :
    ∃ e k made id, pair.curve.challenge .blake2b256 digest = .ok e ∧
      (0 < k ∧ k < pair.curve.n) ∧
      signWithNonce e pair.privateKey.toInt k pair.curve = .ok made ∧
      recoverKeyInteger id made.r.toInt made.s.toInt (some (.bytes digest)) pair.curve =
        .ok (some key) ∧
      RecoverableSignature.ofIntegers (.int id) made.r.toInt made.s.toInt = .ok sig := by
  induction left generalizing supply mismatches with
  | zero => cases h
  | succ left ih =>
    rw [trySignatures, run_bind_eq_ok_iff] at h
    obtain ⟨made, supply₁, hmade, h⟩ := h
    rw [signDigest, run_bind_eq_ok_iff] at hmade
    obtain ⟨d, supply₂, hd, hmade⟩ := hmade
    rw [run_bind_eq_ok_iff] at hmade
    obtain ⟨e, supply₃, he, hmade⟩ := hmade
    obtain ⟨hkey, rfl⟩ := run_lift_eq_ok_iff.1 hd
    obtain ⟨-, rfl⟩ := privateKey_number_eq_ok_iff.1 hkey
    obtain ⟨hchallenge, rfl⟩ := run_lift_eq_ok_iff.1 he
    obtain ⟨⟨k, hk, hsign⟩, hsupply₁⟩ := exists_nonce_of_tryNonces hsupply hmade
    rw [run_bind_eq_ok_iff] at h
    obtain ⟨trial, supply₄, htrial, h⟩ := h
    obtain ⟨htried, rfl⟩ := run_lift_eq_ok_iff.1 htrial
    cases trial with
    | found id =>
      obtain ⟨hsig, -⟩ := run_lift_eq_ok_iff.1 h
      exact ⟨e, k, made, id, hchallenge, hk, hsign, recoverKeyInteger_of_tryRecoveryIds htried,
        hsig⟩
    | mismatched candidates =>
      rw [run_bind_eq_ok_iff] at h
      obtain ⟨_, supply₅, hrecord, h⟩ := h
      exact ih (hsupply₁.of_record hrecord) h

end Inversion

/-! ### Signatures that are read back -/

section Forms

variable {sig : RecoverableSignature}

/-- The forms of a signature with these bytes. -/
def SignatureForm.all (sig : RecoverableSignature) (bytes : List UInt8) : List SignatureForm :=
  [.parts sig, .octets bytes, .octets (.hex (Octets.hexText bytes)), .stream (.ofBytes bytes)]

lemma SignatureForm.read_eq_ok {bytes : List UInt8} (hvalid : sig.assertValid = .ok ())
    (hlength : bytes.length = RecoverableSignature.compactSize)
    (hread : RecoverableSignature.ofCompact bytes true = .ok sig) :
    ∀ form ∈ all sig bytes, form.read.1 = .ok sig := by
  have hparse : (RecoverableSignature.parse (.ofBytes bytes) true).1 = .ok sig :=
    (RecoverableSignature.parse_ofBytes hlength.le).trans hread
  simp only [all, List.forall_mem_cons, List.not_mem_nil, false_implies, implies_true, and_true]
  refine ⟨?_, ?_, ?_, hparse⟩
  · rw [SignatureForm.read, hvalid, map_ok]
  · exact hparse
  · exact (RecoverableSignature.parseOctets_of_read (Octets.read_hexText bytes)).trans hparse

end Forms

/-! ### Signers -/

section Signer

/-- The curve that a signer signs on. -/
def Signer.curve : Signer → Curve
  | keyPair k => k.curve
  | privateKey _ => .secp256k1

instance {k : KeyPair} [prime : Fact k.curve.p.toNat.Prime] :
    Fact (Signer.keyPair k).curve.p.toNat.Prime := prime

variable [PointAddition] {signer : Signer} {pair : KeyPair}

lemma Signer.curve_of_validKeyPair (h : signer.validKeyPair = .ok pair) :
    pair.curve = signer.curve := by
  cases signer with
  | keyPair k =>
    rw [validKeyPair, check_bind_eq_ok_iff] at h
    rw [← Except.ok.inj h.2]
    rfl
  | privateKey key =>
    rw [validKeyPair, KeyPair.ofPrivateKey, bind_eq_ok_iff] at h
    obtain ⟨d, -, h⟩ := h
    rw [bind_eq_ok_iff] at h
    obtain ⟨Q, -, h⟩ := h
    rw [← Except.ok.inj h]
    rfl

lemma Signer.isValid_of_validKeyPair [Fact pair.curve.p.toNat.Prime]
    (law : pair.curve.ComputesInGroup) (hc : pair.curve.HasOddPrimeOrder)
    (h : signer.validKeyPair = .ok pair) : pair.IsValid := by
  have hcurve := curve_of_validKeyPair h
  cases signer with
  | keyPair k =>
    rw [validKeyPair, check_bind_eq_ok_iff] at h
    obtain ⟨hvalid, hpair⟩ := h
    obtain rfl := Except.ok.inj hpair
    exact (KeyPair.assertValid_eq_ok_iff (law.multipliesGenerator hc) hc).1 hvalid
  | privateKey key =>
    have hpair : KeyPair.ofPrivateKey key pair.curve = .ok pair := by
      rw [hcurve]
      exact h
    exact KeyPair.isValid_of_ofPrivateKey_eq_ok (law.multipliesGenerator hc) hc hpair

end Signer

/-! ### The round trip -/

section RoundTrip

variable [PointAddition]

/-- The signature is of the right size, leads back to the key in all its forms, and holds under
it. -/
structure LeadsBack (message : Octets) (hashFirst : Bool) (pair : KeyPair)
    (sig : RecoverableSignature) : Prop where
  indicator : sig.v.toInt = 0 ∨ sig.v.toInt = 1
  r : 0 < (sig.rInteger : ℤ) ∧ (sig.rInteger : ℤ) < pair.curve.n
  s : 0 < (sig.sInteger : ℤ) ∧ (sig.sInteger : ℤ) < pair.curve.n
  recovered : ∃ bytes key, sig.serialize true = .ok bytes ∧ bytes.length = 65 ∧
    pair.publicKeyInteger = .ok key ∧ ∀ form ∈ SignatureForm.all sig bytes,
      (recoverSigner form message hashFirst pair.curve).1 = .ok key
  verified : ∃ digest, messageDigest message hashFirst = .ok digest ∧
    verifyDigest digest (.coordinates pair.publicKey)
      ⟨(sig.rInteger : ℤ), (sig.sInteger : ℤ), pair.curve⟩ .blake2b256 = true

variable {message : Octets} {hashFirst : Bool} {pair : KeyPair} {sig : RecoverableSignature}

lemma recoverSigner_eq_ok {form : SignatureForm} {digest : List UInt8} {key : ℤ} {c : Curve}
    (hread : form.read.1 = .ok sig) (hdigest : messageDigest message hashFirst = .ok digest)
    (hkey : recoverKeyInteger sig.v.toInt sig.rInteger sig.sInteger (some (.bytes digest)) c =
      .ok (some key)) :
    (recoverSigner form message hashFirst c).1 = .ok key := by
  have hof : recoverSignerOf sig message hashFirst c = .ok key := by
    rw [recoverSignerOf, hdigest, ok_bind, hkey]
    rfl
  calc (recoverSigner form message hashFirst c).1
    _ = form.read.1.bind (recoverSignerOf · message hashFirst c) := rfl
    _ = .ok key := by rw [hread, ← hof]; rfl

lemma LeadsBack.of_trySignatures [Fact pair.curve.p.toNat.Prime] (law : pair.curve.ComputesInGroup)
    (hc : pair.curve.HasOddPrimeOrder) (hpair : pair.IsValid) {key : ℤ} {digest : List UInt8}
    (hkey : pair.publicKeyInteger = .ok key)
    (hdigest : messageDigest message hashFirst = .ok digest) {mismatches left : ℕ}
    {supply supply' : Supply} (hsupply : supply.InRange pair.curve.n)
    (h : trySignatures pair key digest mismatches left supply = (.ok sig, supply')) :
    LeadsBack message hashFirst pair sig := by
  obtain ⟨e, k, made, id, he, hk, hsign, hrecover, hmade⟩ :=
    exists_attempt_of_trySignatures hsupply h
  obtain ⟨s, rfl, hr, hs⟩ :=
    exists_scalar_of_signWithNonce (law.multipliesGenerator hc) hc hk hsign
  simp only [Numeral.toInt_int] at hrecover hmade
  obtain ⟨hvalid, hv, hrint, hsint⟩ := RecoverableSignature.of_ofIntegers_eq_ok hmade
  obtain ⟨bytes, hserialize, hlength, hread⟩ := RecoverableSignature.exists_serialize hvalid
  have hv' : (⟨.int sig.v.toInt, sig.r, sig.s⟩ : RecoverableSignature) = sig := by
    cases sig
    cases hv
    rfl
  rw [hv'] at hread
  refine ⟨(RecoverableSignature.assertValid_eq_ok_iff.1 hvalid).1, hrint ▸ hr, hsint ▸ hs.range,
    ⟨bytes, key, hserialize, hlength, hkey, fun form hform => ?_⟩, ⟨digest, hdigest, ?_⟩⟩
  · refine recoverSigner_eq_ok (SignatureForm.read_eq_ok hvalid hlength hread form hform) hdigest ?_
    rwa [hv, Numeral.toInt_int, hrint, hsint]
  · rw [hrint, hsint, verifyDigest_coordinates_iff law hc he hpair.privateKey hpair.publicKey]
    exact ⟨k, hk, hsign⟩

/-- Whatever signing a message gives leads back to the key of the signer. -/
theorem signMessage_leadsBack {signer : Signer} [Fact signer.curve.p.toNat.Prime]
    (law : signer.curve.ComputesInGroup) (hc : signer.curve.HasOddPrimeOrder)
    {supply : Supply} (hsupply : supply.InRange signer.curve.n)
    (h : (signMessage message signer hashFirst supply).1 = .ok sig) :
    ∃ pair, signer.validKeyPair = .ok pair ∧ pair.curve = signer.curve ∧
      LeadsBack message hashFirst pair sig := by
  obtain ⟨supply', h⟩ : ∃ supply', signMessage message signer hashFirst supply =
      (.ok sig, supply') := ⟨_, Prod.ext h rfl⟩
  rw [signMessage, run_bind_eq_ok_iff] at h
  obtain ⟨pair, supply₁, hpair, h⟩ := h
  rw [run_bind_eq_ok_iff] at h
  obtain ⟨digest, supply₂, hdigest, h⟩ := h
  rw [run_bind_eq_ok_iff] at h
  obtain ⟨key, supply₃, hkey, h⟩ := h
  obtain ⟨hvalid, rfl⟩ := run_lift_eq_ok_iff.1 hpair
  obtain ⟨hdigest', rfl⟩ := run_lift_eq_ok_iff.1 hdigest
  obtain ⟨hkey', rfl⟩ := run_lift_eq_ok_iff.1 hkey
  have hcurve := Signer.curve_of_validKeyPair hvalid
  refine ⟨pair, hvalid, hcurve, ?_⟩
  simp only [← hcurve] at law hc hsupply
  have : Fact pair.curve.p.toNat.Prime := hcurve ▸ inferInstance
  exact .of_trySignatures law hc (Signer.isValid_of_validKeyPair law hc hvalid) hkey' hdigest'
    hsupply h

end RoundTrip

theorem signMessage_leadsBack_small :
    letI := reducedAddition
    ∃ sig pair, (signMessage (List.replicate 32 (7 : UInt8)) (.keyPair .small) false
        (.ofNumbers fun _ => some 11)).1 = .ok sig ∧
      (Signer.keyPair .small).validKeyPair = .ok pair ∧ pair.curve = Curve.small ∧
      LeadsBack (List.replicate 32 (7 : UInt8)) false pair sig := by
  let _ := reducedAddition
  have hsigned : (signMessage (List.replicate 32 (7 : UInt8)) (.keyPair .small) false
      (.ofNumbers fun _ => some 11)).1.isOk = true := by
    decide +kernel
  cases hsig : (signMessage (List.replicate 32 (7 : UInt8)) (.keyPair .small) false
      (.ofNumbers fun _ => some 11)).1 with
  | error e =>
    rw [hsig] at hsigned
    cases hsigned
  | ok sig =>
    have law : (Signer.keyPair .small).curve.ComputesInGroup := small_computesInGroup
    obtain ⟨pair, hpair⟩ :=
      signMessage_leadsBack law small_hasOddPrimeOrder (fun _ _ h => by cases h; decide) hsig
    exact ⟨sig, pair, rfl, hpair⟩

end Ecdsa
