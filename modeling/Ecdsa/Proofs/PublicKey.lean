import Ecdsa.Proofs.Curve.Arithmetic
import Ecdsa.Proofs.Curve.Secp256k1
import Ecdsa.Proofs.KeyPair
import Ecdsa.Proofs.Verification

/-!
# Public keys

The point of a public key is checked whichever form it has, except for that of a key pair, which is
taken as it is. Verification itself then looks whether the point is on the curve, but not whether it
is finite: under a key pair at infinity everybody can sign, with the private key zero.
-/

namespace Ecdsa

open Ecdsa.Modular Curve

section PublicKey

variable {c : Curve} {key : PublicKeyForm} {Q : Coordinates} {P : Point}

/-- Whatever coordinates are required to be finite are so. -/
lemma not_isInfinite_of_requireFinite {R : Coordinates} {P' : Point} (h : requireFinite P R = .ok Q)
    (hR : R.point = .ok P) (hQ : Q.point = .ok P') : ¬ P'.IsInfinite := by
  rw [requireFinite] at h
  split_ifs at h with hinfinite
  obtain rfl := Except.ok.inj h
  rwa [← Except.ok.inj (hR.symm.trans hQ)]

/-- Only a key pair gives a point at infinity. -/
lemma exists_keyPair_of_isInfinite (hkey : c.publicKeyOf key = .ok Q) (hQ : Q.point = .ok P)
    (hP : P.IsInfinite) : ∃ k, key = .keyPair k ∧ k.publicKey = Q := by
  cases key with
  | keyPair k =>
    rw [publicKeyOf] at hkey
    split_ifs at hkey
    exact ⟨k, rfl, Except.ok.inj hkey⟩
  | coordinates R =>
    rw [publicKeyOf, bind_eq_ok_iff] at hkey
    obtain ⟨P', hP', hkey⟩ := hkey
    have hR := (of_requireOnCurve_eq_ok hP').1
    exact absurd hP (not_isInfinite_of_requireFinite hkey hR hQ)
  | integer i =>
    rw [publicKeyOf, bind_eq_ok_iff] at hkey
    obtain ⟨P', -, hkey⟩ := hkey
    exact absurd hP (not_isInfinite_of_requireFinite hkey (Coordinates.point_coordinates P') hQ)
  | octets octets =>
    rw [publicKeyOf, bind_eq_ok_iff] at hkey
    obtain ⟨P', -, hkey⟩ := hkey
    exact absurd hP (not_isInfinite_of_requireFinite hkey (Coordinates.point_coordinates P') hQ)

variable [PointAddition]

/-- The check of a key pair refuses the point at infinity. -/
lemma KeyPair.assertValid_ne_ok {k : KeyPair} (hQ : k.publicKey.point = .ok P)
    (hP : P.IsInfinite) : k.assertValid ≠ .ok () := by
  intro h
  simp only [assertValid, throw_eq_error, error_bind] at h
  split_ifs at h
  rw [bind_eq_ok_iff] at h
  obtain ⟨P', hP', h⟩ := h
  obtain rfl : P' = P := Except.ok.inj ((of_requireOnCurve_eq_ok hP').1.symm.trans hQ)
  rw [if_pos hP] at h
  cases h

/-- The signatures that hold under a key pair at infinity are those of the private key zero. -/
lemma verifyDigest_iff_of_isInfinite [Fact c.p.toNat.Prime] (hG : c.MultipliesGenerator)
    (hc : c.HasOddPrimeOrder) (hkey : c.publicKeyOf key = .ok Q) (hQ : Q.point = .ok P)
    (hP : P.IsInfinite) {hash : HashFunction} {digest : Octets} {e : ℤ}
    (he : c.challenge hash digest = .ok e) (r s : ℤ) :
    verifyDigest digest key ⟨r, s, c⟩ hash = true ↔
      ∃ nonce, (0 < nonce ∧ nonce < c.n) ∧ signWithNonce e 0 nonce c = .ok ⟨r, s, c⟩ :=
  verifyDigest_iff_of_publicKeyOf hG hc he hkey (verifiesUnder_of_isInfinite hG hc hQ hP) r s

/-- A signature holds under finite points on the curve only, and under key pairs at infinity, which
were not checked. Under those everybody can sign: with multiples of the generator as they should be,
the signatures of the private key zero hold and no others. -/
theorem point_of_verifyDigest {digest : Octets} {sig : Signature} {hash : HashFunction}
    (h : verifyDigest digest key sig hash = true) :
    ∃ Q P, sig.curve.publicKeyOf key = .ok Q ∧ Q.point = .ok P ∧
      (sig.curve.HasPoint P ∨
        P.IsInfinite ∧ (∃ k, key = .keyPair k ∧ k.publicKey = Q ∧ k.assertValid ≠ .ok ()) ∧
          ∀ [Fact sig.curve.p.toNat.Prime], sig.curve.MultipliesGenerator →
            sig.curve.HasOddPrimeOrder → ∃ e, sig.curve.challenge hash digest = .ok e ∧
              ∀ r s : ℤ, verifyDigest digest key ⟨r, s, sig.curve⟩ hash = true ↔
                ∃ nonce, (0 < nonce ∧ nonce < sig.curve.n) ∧
                  signWithNonce e 0 nonce sig.curve = .ok ⟨r, s, sig.curve⟩) := by
  obtain ⟨e, Q, P, he, hkey, hQ, hcontains⟩ := exists_point_of_verifyDigest h
  refine ⟨Q, P, hkey, hQ, ?_⟩
  rcases contains_eq_ok_true_iff.1 hcontains with hinfinite | ⟨hy, hx, -, hsatisfies⟩
  · right
    refine ⟨hinfinite, ?_, ?_⟩
    · obtain ⟨k, rfl, rfl⟩ := exists_keyPair_of_isInfinite hkey hQ hinfinite
      exact ⟨k, rfl, rfl, KeyPair.assertValid_ne_ok hQ hinfinite⟩
    · intro _ hG hc
      exact ⟨e, he, verifyDigest_iff_of_isInfinite hG hc hkey hQ hinfinite he⟩
  · exact Or.inl ⟨hy, hx, hsatisfies⟩

end PublicKey

/-! ### A key pair at infinity -/

/-- A key pair on secp256k1 that was made without the check. -/
def KeyPair.infinite : KeyPair :=
  ⟨(1 : ℤ), Point.infinity, secp256k1⟩

/-- Under it the digest one has the signature of the nonce one. -/
lemma verifyDigest_infinite :
    verifyDigest (.bytes (List.replicate 31 0 ++ [1])) (.keyPair .infinite)
      ⟨secp256k1.G.x, (1 : ℤ), secp256k1⟩ .blake2b256 = true := by
  decide +kernel

theorem point_of_verifyDigest_infinite :
    ∃ Q P, secp256k1.publicKeyOf (.keyPair .infinite) = .ok Q ∧ Q.point = .ok P ∧
      (secp256k1.HasPoint P ∨ P.IsInfinite ∧
        (∃ k, PublicKeyForm.keyPair .infinite = .keyPair k ∧ k.publicKey = Q ∧
          k.assertValid ≠ .ok ()) ∧
        ∃ e, secp256k1.challenge .blake2b256 (.bytes (List.replicate 31 0 ++ [1])) = .ok e ∧
          ∀ r s : ℤ, verifyDigest (.bytes (List.replicate 31 0 ++ [1])) (.keyPair .infinite)
              ⟨r, s, secp256k1⟩ .blake2b256 = true ↔
            ∃ nonce, (0 < nonce ∧ nonce < secp256k1.n) ∧
              signWithNonce e 0 nonce secp256k1 = .ok ⟨r, s, secp256k1⟩) := by
  obtain ⟨Q, P, hkey, hQ, h⟩ := point_of_verifyDigest verifyDigest_infinite
  refine ⟨Q, P, hkey, hQ, h.imp_right ?_⟩
  rintro ⟨hinfinite, hpair, hsigns⟩
  exact ⟨hinfinite, hpair,
    hsigns (multBase_eq Secp256k1.hasOddPrimeOrder) Secp256k1.hasOddPrimeOrder⟩

theorem not_forall_verifyDigest_eq_false_of_isInfinite :
    ¬ ∀ (digest : Octets) (k : KeyPair) (P : Point) (sig : Signature) (hash : HashFunction),
      k.publicKey.point = .ok P → P.IsInfinite →
        verifyDigest digest (.keyPair k) sig hash = false := by
  intro h
  cases verifyDigest_infinite.symm.trans (h _ .infinite .infinity _ _ rfl rfl)

end Ecdsa
