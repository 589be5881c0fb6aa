import Ecdsa.Proofs.Curve.Arithmetic
import Ecdsa.Proofs.KeyPair

/-!
# Two ways to a public key

On secp256k1 a public key is read from the octets that a writer gives, and on a curve of the same
parameters under another name it is computed by the curve. A writer of the multiples leads to the
same points, octets and key pairs as the curve (`agreesWithCurve`).
-/

namespace Ecdsa

namespace Curve

/-! ### Names -/

/-- The curve under another name. -/
def renamed (c : Curve) (name : String) : Curve :=
  { c with name := name }

/-- The name counts for nothing that is computed. -/
lemma doublings_renamed (c : Curve) (name : String) (count : ℕ) (D : Point) :
    (c.renamed name).doublings count D = c.doublings count D := by
  induction count generalizing D with
  | zero => rfl
  | succ count ih =>
    simp only [doublings, ih]
    rfl

lemma multBase_renamed [PointAddition] (c : Curve) (name : String) (m : ℤ) :
    (c.renamed name).multBase m = c.multBase m := by
  have htable : (c.renamed name).generatorTable = c.generatorTable := doublings_renamed ..
  have hmultiple : ∀ k Q, (c.renamed name).multiple k Q = c.multiple k Q := by
    intro k Q
    rw [multiple, htable]
    rfl
  rw [multBase, funext₂ hmultiple]
  rfl

lemma privateKey_renamed (c : Curve) (name : String) (key : IntegerForm) :
    (c.renamed name).privateKey key = c.privateKey key := rfl

lemma keyInteger_renamed (c : Curve) (name : String) (Q : Coordinates) :
    (c.renamed name).keyInteger Q = c.keyInteger Q := rfl

end Curve

namespace Secp256k1

open Curve Ecdsa.Modular

/-- With the standard sums, which are right for the generator. -/
lemma multBase_secp256k1 (m : ℤ) : secp256k1.multBase m = .ok (secp256k1.baseMultiple m) :=
  multBase_eq hasOddPrimeOrder m

section Writer

variable [KeyWriter]

/-- What is read from the octets of the writer is what the curve computes. -/
structure AgreesWithCurve : Prop where
  /-- The multiple of the generator by any integer is the same. -/
  multBase_eq : ∀ m : ℤ, ∃ Q : Point, multBase m = .ok Q ∧ secp256k1.multBase m = .ok Q ∧
    secp256k1.mult (.number (.int m)) secp256k1.G = .ok Q
  /-- The octets of a public key are those of the multiple, in both formats. -/
  publicKeyOctets_eq : ∀ (d : ℤ) (compressed : Bool), 0 < d ∧ d < secp256k1.n →
    ∃ Q bytes, secp256k1.multBase d = .ok Q ∧ secp256k1.encodePoint Q compressed = .ok bytes ∧
      publicKeyOctets d compressed = .ok bytes
  /-- A private key has the same public key under another name of the curve. -/
  publicKey_eq : ∀ (key : IntegerForm) (d : Numeral) (name : String), name ≠ secp256k1.name →
    secp256k1.privateKey key = .ok d →
      ∃ k k' i, KeyPair.ofPrivateKey key secp256k1 = .ok k ∧
        KeyPair.ofPrivateKey key (secp256k1.renamed name) = .ok k' ∧
        k'.publicKey = k.publicKey ∧ k.publicKeyInteger = .ok i ∧ k'.publicKeyInteger = .ok i

/-! ### Public keys -/

lemma publicKey_secp256k1 (hw : WritesMultiples) (d : ℤ) :
    secp256k1.publicKey d = .ok (secp256k1.baseMultiple d) := by
  rw [publicKey, if_pos rfl, multBase_eq_ok hw hasOddPrimeOrder]

/-- Under another name nothing is read from octets. -/
lemma publicKey_renamed {name : String} (hname : name ≠ secp256k1.name) (d : ℤ) :
    (secp256k1.renamed name).publicKey d = .ok (secp256k1.baseMultiple d) := by
  have hne : (secp256k1.renamed name).toDomain ≠ secp256k1.toDomain := by
    intro heq
    exact hname (congrArg Domain.name heq)
  rw [publicKey, if_neg hne, multBase_renamed, multBase_secp256k1]

/-- A writer of the multiples and the curve agree. -/
theorem agreesWithCurve (hw : WritesMultiples) : AgreesWithCurve where
  multBase_eq m := by
    refine ⟨_, multBase_eq_ok hw hasOddPrimeOrder m, multBase_secp256k1 m, ?_⟩
    rw [mult_generator, multBase_secp256k1, map_ok]
  publicKeyOctets_eq d compressed hd := by
    have hQ := hasOddPrimeOrder.hasPoint_baseMultiple (not_dvd_of_pos_lt hd)
    refine ⟨_, _, multBase_secp256k1 d, ?_, publicKeyOctets_eq_ok hw hd compressed⟩
    exact (encodePoint_eq_ok_iff rfl).2 ⟨_, Coordinates.point_coordinates _, hQ, rfl⟩
  publicKey_eq key d name hname hkey := by
    have hQ := hasOddPrimeOrder.hasPoint_baseMultiple (not_dvd_of_pos_lt (of_privateKey_eq_ok hkey))
    have hinteger := keyInteger_eq_ok rfl (Coordinates.point_coordinates _) hQ
    have hpair : KeyPair.ofPrivateKey key secp256k1 =
        .ok ⟨d, secp256k1.baseMultiple d.toInt, secp256k1⟩ := by
      rw [KeyPair.ofPrivateKey, hkey, ok_bind, publicKey_secp256k1 hw]
      rfl
    have hpair' : KeyPair.ofPrivateKey key (secp256k1.renamed name) =
        .ok ⟨d, secp256k1.baseMultiple d.toInt, secp256k1.renamed name⟩ := by
      rw [KeyPair.ofPrivateKey, privateKey_renamed, hkey, ok_bind, publicKey_renamed hname]
      rfl
    exact ⟨_, _, _, hpair, hpair', rfl, hinteger, (keyInteger_renamed ..).trans hinteger⟩

end Writer

theorem agreesWithCurve_tableWriter : AgreesWithCurve :=
  agreesWithCurve (writesMultiples_tableWriter hasOddPrimeOrder)

end Secp256k1

end Ecdsa
