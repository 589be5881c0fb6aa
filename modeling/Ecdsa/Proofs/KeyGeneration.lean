import Ecdsa.KeyGeneration
import Ecdsa.Proofs.Curve.Arithmetic
import Ecdsa.Proofs.KeyPair
import Ecdsa.Proofs.Supply

/-!
# Key generation

A private key has one public key, and the key pairs that pass the check are made of the two. The key
pair that is computed from a private key, without a check, is the same, and different private keys
have different public key integers. Nothing is assumed of the sums, as all that is computed is a
multiple of the generator.
-/

namespace Ecdsa

open Ecdsa.Modular

variable {c : Curve} [Fact c.p.toNat.Prime]

/-- The private keys in range have different key numbers. -/
lemma keyNumber_baseMultiple_inj (hc : c.HasOddPrimeOrder) {i j : ℤ} (hi : 0 < i ∧ i < c.n)
    (hj : 0 < j ∧ j < c.n) :
    c.keyNumber (c.baseMultiple i) = c.keyNumber (c.baseMultiple j) ↔ i = j := by
  rw [← hc.baseMultiple_inj hi hj]
  constructor
  · exact (hc.hasPoint_baseMultiple (not_dvd_of_pos_lt hi)).eq_of_keyNumber_eq
      (hc.hasPoint_baseMultiple (not_dvd_of_pos_lt hj))
  · exact congrArg c.keyNumber

section Keys

variable [PointAddition] {key : IntegerForm} {d : Numeral}

omit [Fact c.p.toNat.Prime] in
/-- The key pair of a private key that is given. -/
lemma KeyPair.run_generate_some (key : IntegerForm) (c : Curve) (supply : Supply) :
    KeyPair.generate (some key) c supply = (KeyPair.ofPrivateKey key c, supply) := by
  rw [KeyPair.generate]
  exact run_bind_ok (run_pure key) _

/-- A private key that is given leads to its public key integer, and nothing is drawn. -/
lemma publicKeyIntegerOf_eq_ok (hG : c.MultipliesGenerator) (hc : c.HasOddPrimeOrder)
    (h : c.privateKey key = .ok d) (supply : Supply) :
    publicKeyIntegerOf (some key) c supply =
      (.ok (c.keyNumber (c.baseMultiple d.toInt)), supply) := by
  have hpair := KeyPair.run_generate_some key c supply
  rw [KeyPair.ofPrivateKey_eq_ok hG hc h] at hpair
  rw [publicKeyIntegerOf, run_bind_ok hpair, run_lift,
    (KeyPair.isValid_of_privateKey_eq_ok h).publicKeyInteger_eq_ok hc]

end Keys

/-- Private keys, key pairs and public key integers of the curve correspond. -/
structure Curve.HasExactKeys (c : Curve) [Fact c.p.toNat.Prime] : Prop where
  /-- The check passes exactly the private keys in range with their multiples of the generator. -/
  exists_make_iff : ∀ (d : Numeral) (Q : Coordinates),
    (∃ k, KeyPair.make d Q c true = .ok k) ↔
      (0 < d.toInt ∧ d.toInt < c.n) ∧ Q.point = .ok (c.baseMultiple d.toInt)
  /-- The key pair of a private key passes the check, and is the one that is made with it. -/
  ofPrivateKey : ∀ (key : IntegerForm) (d : Numeral), c.privateKey key = .ok d →
    ∃ k, KeyPair.ofPrivateKey key c = .ok k ∧ k.assertValid = .ok () ∧
      KeyPair.make d (c.baseMultiple d.toInt) c true = .ok k
  /-- Private keys have public key integers, and those of different ones are different. -/
  publicKeyInteger : ∀ (key key' : IntegerForm) (d d' : Numeral) (supply : Supply),
    c.privateKey key = .ok d → c.privateKey key' = .ok d' →
      ∃ i i', publicKeyIntegerOf (some key) c supply = (.ok i, supply) ∧
        publicKeyIntegerOf (some key') c supply = (.ok i', supply) ∧
        (i = i' ↔ d.toInt = d'.toInt)

theorem Curve.hasExactKeys (hc : c.HasOddPrimeOrder) : c.HasExactKeys where
  exists_make_iff d Q := by
    simp only [KeyPair.make_eq_ok_iff (multBase_eq hc) hc, exists_and_left, exists_eq', and_true]
    constructor
    · intro h
      exact ⟨h.privateKey, h.publicKey⟩
    · rintro ⟨hd, hQ⟩
      exact ⟨hd, hQ⟩
  ofPrivateKey key d h := by
    have hvalid := KeyPair.isValid_of_privateKey_eq_ok h
    refine ⟨_, KeyPair.ofPrivateKey_eq_ok (multBase_eq hc) hc h, ?_, ?_⟩
    · exact (KeyPair.assertValid_eq_ok_iff (multBase_eq hc) hc).2 hvalid
    · exact (KeyPair.make_eq_ok_iff (multBase_eq hc) hc).2 ⟨hvalid, rfl⟩
  publicKeyInteger key key' d d' supply h h' := by
    refine ⟨_, _, publicKeyIntegerOf_eq_ok (multBase_eq hc) hc h supply,
      publicKeyIntegerOf_eq_ok (multBase_eq hc) hc h' supply, ?_⟩
    exact keyNumber_baseMultiple_inj hc (Curve.of_privateKey_eq_ok h)
      (Curve.of_privateKey_eq_ok h')

theorem Curve.hasExactKeys_small : Curve.small.HasExactKeys :=
  Curve.hasExactKeys Curve.small_hasOddPrimeOrder

end Ecdsa
