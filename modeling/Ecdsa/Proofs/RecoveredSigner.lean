import Ecdsa.Proofs.Candidates
import Ecdsa.Proofs.Curve.Secp256k1
import Ecdsa.Proofs.KeyInteger
import Ecdsa.Proofs.MessageSignature

/-!
# Recovered signers

The compact format has room for numbers that are no scalars of a valid signature, and recovery takes
them as they are: it asks only whether `r` has an inverse modulo the order. The key that it gives is
one under which the reduced signature holds, and so does the signature itself if its scalars are in
range.
-/

namespace Ecdsa

open Ecdsa.Modular Curve

section RecoveredSigner

variable {c : Curve} {sig : RecoverableSignature} {form : SignatureForm} {digest : Octets} {key : ℤ}

/-- A finite point on the curve is the public key of its key integer. -/
lemma publicKeyOf_keyNumber (ha : c.hasArithmetic = true) {Q : Point} (hQ : c.HasPoint Q) :
    c.publicKeyOf (.integer (c.keyNumber Q)) = .ok Q := by
  rw [publicKeyOf, pointOfKeyInteger_keyNumber ha hQ, ok_bind, requireFinite,
    if_neg hQ.not_isInfinite]

variable [PointAddition]

/-- The steps of a recovery of the signer of a digest. -/
lemma recoverKeyInteger_of_recoverSigner (hread : form.read.1 = .ok sig)
    (h : (recoverSigner form digest false c).1 = .ok key) :
    ∃ bytes, digest.read = .ok bytes ∧ bytes.length = HashFunction.blake2b256.digestSize ∧
      recoverKeyInteger sig.v.toInt sig.rInteger sig.sInteger (some (.bytes bytes)) c =
        .ok (some key) := by
  have hof : recoverSignerOf sig digest false c = .ok key := by
    calc recoverSignerOf sig digest false c
      _ = form.read.1.bind (recoverSignerOf · digest false c) := by rw [hread]; rfl
      _ = .ok key := h
  rw [recoverSignerOf, bind_eq_ok_iff] at hof
  obtain ⟨bytes, hbytes, hof⟩ := hof
  obtain ⟨hdigest, hsize⟩ := Octets.sized_exactly_eq_ok_iff.1 hbytes
  rw [bind_eq_ok_iff] at hof
  obtain ⟨result, hresult, hof⟩ := hof
  refine ⟨bytes, hdigest, hsize, ?_⟩
  cases result with
  | none => cases hof
  | some key' =>
    obtain rfl := Except.ok.inj hof
    exact hresult

variable [Fact c.p.toNat.Prime] (law : c.ComputesInGroup) (hc : c.HasOddPrimeOrder)
  (hsize : 2 ≤ c.fieldSize) (hodd : c.HasOddGroup)
include law hc hsize hodd

/-- The key integer of a recovery that came to a result is that of a recovered key. -/
lemma exists_isRecovered_of_recoverKeyInteger {id r s : ℤ} {bytes : List UInt8}
    (h : recoverKeyInteger id r s (some (.bytes bytes)) c = .ok (some key)) :
    ∃ Q, IsRecovered id (BigEndian.decode bytes) r s c Q ∧ c.keyNumber Q = key := by
  rcases recoverPoint_of_recoverKeyInteger h with ⟨-, hnone⟩ | ⟨Q, i, hresult, hi, hkey⟩
  · cases hnone
  have hassert : assertRecoverable id r s = .ok () := by
    rw [recoverPoint, check_bind_eq_ok_iff] at hresult
    exact hresult.1
  obtain ⟨hid, hr, hs⟩ := assertRecoverable_eq_ok_iff.1 hassert
  rw [recoverPoint_eq_some_iff_isRecovered law hc hsize hodd hid hr hs rfl] at hresult
  obtain rfl := Option.some.inj hkey
  obtain ⟨-, -, hnumber⟩ := keyInteger_point_eq_ok_iff.1 hi
  exact ⟨Q, hresult, hnumber.symm⟩

/-- The reduced signature holds under the recovered key unless its scalar `s` is zero. -/
lemma verifyDigest_emod_of_recoverSigner (hread : form.read.1 = .ok sig)
    (h : (recoverSigner form digest false c).1 = .ok key) (hs : ¬ c.n ∣ sig.sInteger) :
    verifyDigest digest (.integer key) ⟨(sig.rInteger % c.n : ℤ), (sig.sInteger % c.n : ℤ), c⟩
      .blake2b256 = true := by
  obtain ⟨bytes, hdigest, hlength, hrecover⟩ := recoverKeyInteger_of_recoverSigner hread h
  obtain ⟨Q, hQ, rfl⟩ := exists_isRecovered_of_recoverKeyInteger law hc hsize hodd hrecover
  exact hQ.verifyDigest_emod law hc hs (challenge_eq_ok hc.n_pos hdigest hlength)
    (publicKeyOf_keyNumber hc.hasArithmetic hQ.finite)

end RecoveredSigner

/-! ### Recovery on secp256k1 -/

section Secp256k1

variable {sig : RecoverableSignature} {form : SignatureForm} {digest : Octets} {key : ℤ}

/-- A signature holds under the key that it recovers exactly if its scalars are in range; reduced it
always does, unless `s` is zero then. -/
theorem verifyDigest_iff_of_recoverSigner [PointAddition] (law : secp256k1.ComputesInGroup)
    (hread : form.read.1 = .ok sig)
    (h : (recoverSigner form digest false secp256k1).1 = .ok key) :
    (verifyDigest digest (.integer key) ⟨(sig.rInteger : ℤ), (sig.sInteger : ℤ), secp256k1⟩
        .blake2b256 = true ↔
      sig.rInteger < secp256k1.n ∧ 0 < sig.sInteger ∧ sig.sInteger < secp256k1.n) ∧
    (¬ secp256k1.n ∣ sig.sInteger →
      verifyDigest digest (.integer key) ⟨(sig.rInteger % secp256k1.n : ℤ),
        (sig.sInteger % secp256k1.n : ℤ), secp256k1⟩ .blake2b256 = true) := by
  have hreduced := verifyDigest_emod_of_recoverSigner law Secp256k1.hasOddPrimeOrder
    Secp256k1.two_le_fieldSize Secp256k1.hasOddGroup hread h
  refine ⟨?_, hreduced⟩
  constructor
  · intro hverify
    obtain ⟨⟨-, hr⟩, hs, hs'⟩ := range_of_verifyDigest hverify
    exact ⟨hr, Int.natCast_pos.1 hs, hs'⟩
  · rintro ⟨hr, hs, hs'⟩
    have hpos := Int.natCast_pos.2 hs
    have hverify := hreduced (not_dvd_of_pos_lt ⟨hpos, hs'⟩)
    rwa [Int.emod_eq_of_lt (Int.natCast_nonneg _) hr, Int.emod_eq_of_lt hpos.le hs'] at hverify

end Secp256k1

lemma exists_eq_ok {x : Except Error ℤ} (h : x.isOk = true) : ∃ i, x = .ok i := by
  cases x with
  | error e => cases h
  | ok i => exact ⟨i, rfl⟩

/-- The compact format of two numbers and the indicator zero. -/
def compactOf (r s : ℕ) : List UInt8 :=
  BigEndian.encode 32 r ++ BigEndian.encode 32 s ++ [0]

theorem verifyDigest_iff_of_recoverSigner_one :
    letI := reducedAddition
    ∃ key, (recoverSigner (.octets (compactOf 1 1)) (BigEndian.encode 32 0) false
        secp256k1).1 = .ok key ∧
      (verifyDigest (BigEndian.encode 32 0) (.integer key) ⟨(1 : ℤ), (1 : ℤ), secp256k1⟩
          .blake2b256 = true ↔ 1 < secp256k1.n ∧ 0 < 1 ∧ 1 < secp256k1.n) ∧
      (¬ secp256k1.n ∣ 1 → verifyDigest (BigEndian.encode 32 0) (.integer key)
        ⟨(1 % secp256k1.n : ℤ), (1 % secp256k1.n : ℤ), secp256k1⟩ .blake2b256 = true) := by
  let _ := reducedAddition
  have hread : (SignatureForm.octets (compactOf 1 1)).read.1 =
      .ok ⟨.int 0, BigEndian.encode 32 1, BigEndian.encode 32 1⟩ := rfl
  obtain ⟨key, hkey⟩ := exists_eq_ok (x := (recoverSigner (.octets (compactOf 1 1))
    (BigEndian.encode 32 0) false secp256k1).1) (by decide +kernel)
  exact ⟨key, hkey, verifyDigest_iff_of_recoverSigner Secp256k1.computesInGroup hread hkey⟩

theorem not_forall_verifyDigest_of_recoverSigner :
    ¬ ∀ (bytes : List UInt8) (sig : RecoverableSignature) (digest : List UInt8) (key : ℤ),
      bytes.length = 65 → (SignatureForm.octets bytes).read.1 = .ok sig → digest.length = 32 →
      (recoverSigner (.octets bytes) digest false secp256k1).1 = .ok key →
        verifyDigest digest (.integer key) ⟨(sig.rInteger : ℤ), (sig.sInteger : ℤ), secp256k1⟩
          .blake2b256 = true := by
  intro h
  obtain ⟨key, hkey⟩ := exists_eq_ok (x := (recoverSigner (.octets (compactOf 1 0))
    (BigEndian.encode 32 (secp256k1.n.toNat - 1)) false secp256k1).1) (by decide +kernel)
  have hverify := h (compactOf 1 0) ⟨.int 0, BigEndian.encode 32 1, BigEndian.encode 32 0⟩ _ key
    rfl rfl (BigEndian.length_encode _ _) hkey
  exact absurd (range_of_verifyDigest hverify).2.1 (by decide)

end Ecdsa
