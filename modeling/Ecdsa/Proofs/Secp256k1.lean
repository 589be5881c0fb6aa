import Ecdsa.Proofs.Curve.Jacobian
import Ecdsa.Proofs.PointOctets
import Ecdsa.Secp256k1

/-!
# Multiples from the table of secp256k1

The points of the table whose binary digit is one add up to the multiple. All triples on the way are
reduced, so that none of them collide.
-/

namespace Ecdsa.Secp256k1

open Curve Ecdsa.Modular

lemma fieldSize_secp256k1 : secp256k1.fieldSize = 32 := by
  decide +kernel

variable [Fact secp256k1.p.toNat.Prime] {P S : Jacobian} {A B : secp256k1.Element}

/-- The element is not its own opposite however often it is doubled. -/
def DoublesFinite (B : secp256k1.Element) : Prop :=
  ∀ k : ℕ, 2 ^ k • B ≠ 0

lemma DoublesFinite.double (hB : DoublesFinite B) : DoublesFinite (B + B) := fun k => by
  rw [← two_nsmul, ← mul_nsmul', ← pow_succ]
  exact hB (k + 1)

lemma DoublesFinite.add_self_ne_zero (hB : DoublesFinite B) : B + B ≠ 0 := by
  simpa only [pow_one, two_nsmul] using hB 1

/-- The sum of the points picked from the table by the binary digits of `m`. -/
lemma represents_accumulate (odd : secp256k1.p ≠ 2) (count : ℕ) {m : ℕ} (hm : m < 2 ^ count)
    (hP : secp256k1.Represents P B) (hPred : P.IsReduced secp256k1.p) (hB : DoublesFinite B)
    (hS : secp256k1.Represents S A) (hSred : S.IsReduced secp256k1.p) :
    secp256k1.Represents (accumulate (doublingsFrom count P) m S) (A + m • B) ∧
      (accumulate (doublingsFrom count P) m S).IsReduced secp256k1.p := by
  induction count generalizing m P S A B with
  | zero =>
    obtain rfl : m = 0 := by omega
    rw [zero_nsmul, add_zero]
    exact ⟨hS, hSred⟩
  | succ count ih =>
    have hD := hasPoint_pointOf odd hB.add_self_ne_zero
    have hDB : secp256k1.element (secp256k1.pointOf B) = B :=
      element_pointOf odd fun h => absurd h hB.add_self_ne_zero
    have hdouble := hP.double odd
    have hdoublered := Jacobian.isReduced_double (p_pos (p := secp256k1.p)) secp256k1.a P
    have hhalf : m / 2 < 2 ^ count := by
      rw [pow_succ] at hm
      omega
    rw [doublingsFrom, hP.toPoint hPred]
    simp only [Except.toOption, accumulate]
    have hsplit : m • B = (m % 2) • B + (m / 2) • (B + B) := by
      rw [← two_nsmul, ← mul_nsmul', ← add_nsmul, mul_comm, Nat.mod_add_div]
    split_ifs with hone
    · have hadd := hS.add odd (hDB ▸ hD.represents odd)
        (not_collides_of_isReduced odd hSred hD.isReduced)
      obtain ⟨hsum, hred⟩ :=
        ih hhalf hdouble hdoublered hB.double hadd (Jacobian.isReduced_add p_pos _ _ _)
      refine ⟨hsum.of_eq ?_, hred⟩
      rw [hsplit, hone, one_nsmul, add_assoc]
    · obtain ⟨hsum, hred⟩ := ih hhalf hdouble hdoublered hB.double hS hSred
      refine ⟨hsum.of_eq ?_, hred⟩
      rw [hsplit, Nat.mod_two_ne_one.1 hone, zero_nsmul, zero_add]

variable (hc : secp256k1.HasOddPrimeOrder)
include hc

lemma tableMultiple_eq_ok {m : ℕ} (hm : m < 2 ^ 256) :
    tableMultiple m = .ok (secp256k1.baseMultiple m) := by
  have hG := hc.generator
  have hfinite : DoublesFinite (secp256k1.element secp256k1.G) := hc.two_pow_nsmul_generator_ne_zero
  obtain ⟨hsum, hred⟩ := represents_accumulate hc.p_ne_two 256 hm (hG.represents hc.p_ne_two)
    hG.isReduced hfinite (represents_zero (P := .infinity).2 rfl) (Jacobian.isReduced_infinity p_pos)
  rw [zero_add, ← natCast_zsmul] at hsum
  exact hsum.affine hred

/-- The octets that are written are those of the multiples. -/
def WritesMultiples [KeyWriter] : Prop :=
  ∀ (m : ℕ) (compressed : Bool), 0 < m → m < secp256k1.n →
    KeyWriter.octets m compressed = .ok (secp256k1.octetsOf compressed (secp256k1.baseMultiple m))

lemma writesMultiples_tableWriter : WritesMultiples := by
  intro m compressed _ hm
  have hsize : m < 2 ^ 256 := by
    have : secp256k1.n < 2 ^ 256 := by decide
    omega
  show tableOctets m compressed = _
  rw [tableOctets, tableMultiple_eq_ok hc hsize]
  rfl

omit hc

section Written

variable [KeyWriter] (hw : WritesMultiples)
include hw

/-- The octets of a public key. -/
lemma publicKeyOctets_eq_ok {d : ℤ} (hd : 0 < d ∧ d < secp256k1.n) (compressed : Bool) :
    publicKeyOctets d compressed =
      .ok (secp256k1.octetsOf compressed (secp256k1.baseMultiple d)) := by
  have hrange : ¬ ¬ (0 < d ∧ d < order) := not_not.2 hd
  have hnat : (d.toNat : ℤ) = d := Int.toNat_of_nonneg hd.1.le
  have hwritten := hw d.toNat compressed (by omega) (by omega)
  rw [hnat] at hwritten
  rw [publicKeyOctets, if_neg hrange, hwritten]

/-- The coordinates are read back from the octets. -/
lemma multBase_eq_ok (hc : secp256k1.HasOddPrimeOrder) (m : ℤ) :
    multBase m = .ok (secp256k1.baseMultiple m) := by
  have hmod : m % order = m % secp256k1.n := rfl
  have hreduced : secp256k1.baseMultiple (m % secp256k1.n) = secp256k1.baseMultiple m :=
    hc.baseMultiple_eq_of_modEq (Int.mod_modEq m _)
  by_cases hzero : m % secp256k1.n = 0
  · rw [← hreduced, hzero, baseMultiple, zero_zsmul, pointOf_zero]
    simp [multBase, hmod, hzero]
  have hd := emod_pos_lt hc.n_pos hzero
  have hQ := hc.hasPoint_baseMultiple (not_dvd_of_pos_lt hd)
  have hx := BigEndian.decode_encode_of_lt (toNat_lt_pow_fieldSize hQ.abscissa)
  have hy := BigEndian.decode_encode_of_lt
    (toNat_lt_pow_fieldSize ⟨hQ.ordinate.1.le, hQ.ordinate.2⟩)
  have hlength := BigEndian.length_encode 32 (secp256k1.baseMultiple (m % secp256k1.n)).x.toNat
  rw [fieldSize_secp256k1] at hx hy
  simp only [multBase, hmod, hzero, publicKeyOctets_eq_ok hw hd, octetsOf, ok_bind, pure_eq_ok,
    if_false, encodeUncompressed, fieldSize_secp256k1, List.cons_append, Bool.false_eq_true,
    List.drop_succ_cons, List.drop_zero]
  rw [List.take_left' hlength, List.drop_left' hlength, hx, hy,
    Int.toNat_of_nonneg hQ.abscissa.1, Int.toNat_of_nonneg hQ.ordinate.1.le, hreduced]

end Written

end Ecdsa.Secp256k1
