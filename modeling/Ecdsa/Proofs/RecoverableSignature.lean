import Ecdsa.Proofs.FixedWidth
import Ecdsa.RecoverableSignature

/-!
# Recoverable signatures

A recoverable signature holds any two numbers of 32 bytes and a parity.
-/

namespace Ecdsa

namespace RecoverableSignature

variable {sig : RecoverableSignature}

lemma assertValid_eq_ok_iff :
    sig.assertValid = .ok () ↔
      (sig.v.toInt = 0 ∨ sig.v.toInt = 1) ∧ sig.r.length = scalarSize ∧
        sig.s.length = scalarSize := by
  by_cases hv : sig.v.toInt = 0 ∨ sig.v.toInt = 1
  · by_cases hr : sig.r.length = scalarSize
    · by_cases hs : sig.s.length = scalarSize <;> simp [assertValid, hv, hr, hs]
    · simp [assertValid, hv, hr]
  · cases hshown : sig.v.described <;> simp [assertValid, hv, hshown]

lemma make_eq_ok_iff {v : Numeral} {r s : List UInt8} :
    make v r s true = .ok sig ↔
      (v.toInt = 0 ∨ v.toInt = 1) ∧ r.length = scalarSize ∧ s.length = scalarSize ∧
        sig = ⟨v, r, s⟩ := by
  simp only [make, if_true, check_bind_eq_ok_iff, assertValid_eq_ok_iff, pure_eq_ok,
    Except.ok.injEq, and_assoc, eq_comm (a := sig)]

/-- The numbers that a valid signature can be made of. -/
lemma ofIntegers_eq_ok_iff {v : Numeral} {r s : ℤ} :
    ofIntegers v r s = .ok sig ↔
      (v.toInt = 0 ∨ v.toInt = 1) ∧ (0 ≤ r ∧ r < 256 ^ scalarSize) ∧
        (0 ≤ s ∧ s < 256 ^ scalarSize) ∧
        sig = ⟨v, BigEndian.encode scalarSize r.toNat, BigEndian.encode scalarSize s.toNat⟩ := by
  have hwidth : scalarSize < 2 ^ 40 := by decide
  have hlength := BigEndian.length_encode scalarSize
  rw [ofIntegers, bind_eq_ok_iff]
  simp only [bind_eq_ok_iff, fixedWidth_eq_ok_iff hwidth, make_eq_ok_iff]
  constructor
  · rintro ⟨_, ⟨hr, rfl⟩, _, ⟨hs, rfl⟩, hv, -, -, rfl⟩
    exact ⟨hv, hr, hs, rfl⟩
  · rintro ⟨hv, hr, hs, rfl⟩
    exact ⟨_, ⟨hr, rfl⟩, _, ⟨hs, rfl⟩, hv, hlength _, hlength _, rfl⟩

/-- A scalar of 32 bytes is read back. -/
lemma decode_encode_toNat {i : ℤ} (hi : 0 ≤ i ∧ i < 256 ^ scalarSize) :
    (BigEndian.decode (BigEndian.encode scalarSize i.toNat) : ℤ) = i :=
  (BigEndian.eq_encode_toNat_iff.1 ⟨hi, rfl⟩).2

/-- The parts are read back from a signature. -/
lemma of_ofIntegers_eq_ok {v : Numeral} {r s : ℤ} (h : ofIntegers v r s = .ok sig) :
    sig.assertValid = .ok () ∧ sig.v = v ∧ (sig.rInteger : ℤ) = r ∧ (sig.sInteger : ℤ) = s := by
  obtain ⟨hv, hr, hs, rfl⟩ := ofIntegers_eq_ok_iff.1 h
  have hlength := BigEndian.length_encode scalarSize
  exact ⟨assertValid_eq_ok_iff.2 ⟨hv, hlength _, hlength _⟩, rfl, decode_encode_toNat hr,
    decode_encode_toNat hs⟩

end RecoverableSignature

end Ecdsa
