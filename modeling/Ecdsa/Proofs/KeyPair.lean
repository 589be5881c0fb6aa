import Ecdsa.KeyPair
import Ecdsa.Proofs.PrivateKey
import Ecdsa.Proofs.Secp256k1

/-!
# Key pairs

A key pair is valid exactly if its coordinates are those of the private key times the generator, by
whichever way the curve computes public keys.
-/

namespace Ecdsa

open Ecdsa.Modular

/-- A curve with arithmetic that has the parameters of secp256k1 is secp256k1. -/
lemma Curve.eq_secp256k1 {c : Curve} (ha : c.hasArithmetic = true)
    (h : c.toDomain = Curve.secp256k1.toDomain) : c = .secp256k1 := by
  cases c
  cases ha
  cases h
  rfl

section PublicKey

variable [PointAddition] {c : Curve} [Fact c.p.toNat.Prime]

lemma Curve.publicKey_eq_ok (hG : c.MultipliesGenerator) (hc : c.HasOddPrimeOrder) {d : ℤ}
    (hd : 0 < d ∧ d < c.n) : c.publicKey d = .ok (c.baseMultiple d) := by
  rw [Curve.publicKey]
  split_ifs with h
  · obtain rfl := eq_secp256k1 hc.hasArithmetic h
    exact Secp256k1.multBase_eq_ok (Secp256k1.writesMultiples_tableWriter hc) hc d
  · exact hG d

end PublicKey

namespace KeyPair

variable {k : KeyPair} [Fact k.curve.p.toNat.Prime]

/-- The coordinates are those of the private key times the generator. -/
structure IsValid (k : KeyPair) [Fact k.curve.p.toNat.Prime] : Prop where
  privateKey : 0 < k.privateKey.toInt ∧ k.privateKey.toInt < k.curve.n
  publicKey : k.publicKey.point = .ok (k.curve.baseMultiple k.privateKey.toInt)

lemma IsValid.hasPoint (hc : k.curve.HasOddPrimeOrder) (hk : k.IsValid) :
    k.curve.HasPoint (k.curve.baseMultiple k.privateKey.toInt) :=
  hc.hasPoint_baseMultiple (not_dvd_of_pos_lt hk.privateKey)

lemma IsValid.publicKeyInteger_eq_ok (hc : k.curve.HasOddPrimeOrder) (hk : k.IsValid) :
    k.publicKeyInteger = .ok (k.curve.keyNumber (k.curve.baseMultiple k.privateKey.toInt)) :=
  Curve.keyInteger_eq_ok hc.hasArithmetic hk.publicKey (hk.hasPoint hc)

section Check

variable [PointAddition] (hG : k.curve.MultipliesGenerator) (hc : k.curve.HasOddPrimeOrder)
include hG hc

/-- The check of a key pair tells exactly the valid ones. -/
lemma assertValid_eq_ok_iff : k.assertValid = .ok () ↔ k.IsValid := by
  constructor
  · intro h
    simp only [assertValid, throw_eq_error, error_bind] at h
    split_ifs at h with hd
    rw [bind_eq_ok_iff] at h
    obtain ⟨Q, hQ, h⟩ := h
    split_ifs at h with hinfinite
    rw [Curve.publicKey_eq_ok hG hc hd, ok_bind] at h
    split_ifs at h with hne
    rw [not_ne_iff.1 hne] at hQ
    exact ⟨hd, (Curve.of_requireOnCurve_eq_ok hQ).1⟩
  · rintro ⟨hd, hQ⟩
    have hpoint := hc.hasPoint_baseMultiple (not_dvd_of_pos_lt hd)
    have hon := Curve.requireOnCurve_eq_ok hQ
      ((Curve.contains_iff hc.hasArithmetic).2 (Or.inr hpoint))
    simp [assertValid, hd, hon, hpoint.not_isInfinite, Curve.publicKey_eq_ok hG hc hd]

/-- The key pair of a private key is valid. -/
lemma isValid_of_ofPrivateKey_eq_ok {key : IntegerForm} (h : ofPrivateKey key k.curve = .ok k) :
    k.IsValid := by
  rw [ofPrivateKey, bind_eq_ok_iff] at h
  obtain ⟨d, hd, h⟩ := h
  have hrange := Curve.of_privateKey_eq_ok hd
  rw [Curve.publicKey_eq_ok hG hc hrange, ok_bind, pure_eq_ok] at h
  have hkey : d = k.privateKey := congrArg KeyPair.privateKey (Except.ok.inj h)
  have hpublic := congrArg KeyPair.publicKey (Except.ok.inj h)
  exact ⟨hkey ▸ hrange, by rw [← hpublic, ← hkey]; rfl⟩

end Check

end KeyPair

/-! ### Making key pairs -/

section Make

variable {c : Curve} [Fact c.p.toNat.Prime] {key : IntegerForm} {d : Numeral} {Q : Coordinates}
  {k : KeyPair}

lemma KeyPair.isValid_of_privateKey_eq_ok (h : c.privateKey key = .ok d) :
    IsValid ⟨d, c.baseMultiple d.toInt, c⟩ where
  privateKey := Curve.of_privateKey_eq_ok h
  publicKey := Coordinates.point_coordinates _

variable [PointAddition] (hG : c.MultipliesGenerator) (hc : c.HasOddPrimeOrder)
include hG hc

/-- With the check, parts make a key pair exactly if they belong together. -/
lemma KeyPair.make_eq_ok_iff :
    make d Q c true = .ok k ↔ IsValid ⟨d, Q, c⟩ ∧ ⟨d, Q, c⟩ = k := by
  rw [make, if_pos rfl, check_bind_eq_ok_iff, assertValid_eq_ok_iff hG hc, pure_eq_ok,
    Except.ok.injEq]

lemma KeyPair.ofPrivateKey_eq_ok (h : c.privateKey key = .ok d) :
    ofPrivateKey key c = .ok ⟨d, c.baseMultiple d.toInt, c⟩ := by
  rw [ofPrivateKey, h, ok_bind, Curve.publicKey_eq_ok hG hc (Curve.of_privateKey_eq_ok h)]
  rfl

end Make

namespace KeyPair

/-- The key pair of the private key 5 on the small curve. -/
def small : KeyPair :=
  ⟨(5 : ℤ), (⟨114, 46⟩ : Point), Curve.small⟩

instance : Fact small.curve.p.toNat.Prime :=
  inferInstanceAs (Fact Curve.small.p.toNat.Prime)

lemma isValid_small : small.IsValid where
  privateKey := by decide
  publicKey := congrArg Except.ok Curve.small_baseMultiple_five.symm

end KeyPair

end Ecdsa
