import Ecdsa.Proofs.CompactFormat

/-!
# Exact widths

In a width of which there are byte strings, the byte strings are the numbers from zero to
`256 ^ width`: the test of the size refuses no number that fits, and lets none pass that does not
(`hasExactWidths`). So the numbers that a recoverable signature is made of are those of 32 bytes, and
they are known from it. A width beyond all memory has no byte strings, so that not even zero is
written in it (`not_forall_exists_fixedWidth_iff`).
-/

namespace Ecdsa

open RecoverableSignature

/-! ### Signatures of numbers -/

namespace RecoverableSignature

variable {v v' : Numeral} {r r' s s' i j : ℤ} {sig sig' : RecoverableSignature}

lemma pow_scalarSize : (256 : ℤ) ^ scalarSize = 2 ^ 256 := by
  norm_num [scalarSize]

lemma exists_ofIntegers_iff :
    (∃ sig, ofIntegers v r s = .ok sig) ↔
      (v.toInt = 0 ∨ v.toInt = 1) ∧ (0 ≤ r ∧ r < 2 ^ 256) ∧ 0 ≤ s ∧ s < 2 ^ 256 := by
  simp only [ofIntegers_eq_ok_iff, pow_scalarSize, exists_and_left, exists_eq, and_true]

/-- Scalars of 32 bytes are the same if their bytes are. -/
lemma encode_toNat_inj (hi : 0 ≤ i ∧ i < 256 ^ scalarSize) (hj : 0 ≤ j ∧ j < 256 ^ scalarSize) :
    BigEndian.encode scalarSize i.toNat = BigEndian.encode scalarSize j.toNat ↔ i = j := by
  constructor
  · intro h
    rw [← decode_encode_toNat hi, h, decode_encode_toNat hj]
  · rintro rfl
    rfl

lemma beq_iff_of_ofIntegers (h : ofIntegers v r s = .ok sig) (h' : ofIntegers v' r' s' = .ok sig') :
    (sig == sig') = true ↔ v.toInt = v'.toInt ∧ r = r' ∧ s = s' := by
  obtain ⟨-, hr, hs, rfl⟩ := ofIntegers_eq_ok_iff.1 h
  obtain ⟨-, hr', hs', rfl⟩ := ofIntegers_eq_ok_iff.1 h'
  rw [beq_iff_parts, encode_toNat_inj hr hr', encode_toNat_inj hs hs']

end RecoverableSignature

/-! ### Widths -/

/-- Numbers correspond to the byte strings of every width that has any, and signatures made of
numbers to the numbers. -/
structure HasExactWidths : Prop where
  /-- The widths that have byte strings. -/
  widthError?_eq_none_iff : ∀ w : ℕ, widthError? w = none ↔ w < 2 ^ 40
  /-- The numbers that fit in one. -/
  exists_iff : ∀ (width : Numeral) (w : ℕ) (i : ℤ), width.toInt = w → widthError? w = none →
    ((∃ bytes, fixedWidth width i = .ok bytes) ↔ 0 ≤ i ∧ i < 256 ^ w)
  /-- The bytes of a number are the only ones that hold it. -/
  eq_ok_iff : ∀ (width : Numeral) (w : ℕ) (i : ℤ) (bytes : List UInt8),
    width.toInt = w → widthError? w = none →
      (fixedWidth width i = .ok bytes ↔ bytes.length = w ∧ (BigEndian.decode bytes : ℤ) = i)
  /-- Other widths are refused, for whatever would fit in them. -/
  eq_error : ∀ (width : Numeral) (w : ℕ) (i : ℤ) (e : Error), width.toInt = w →
    widthError? w = some e → 0 ≤ i ∧ i < 256 ^ w → fixedWidth width i = .error e
  /-- Numbers that do not fit are refused in every width. -/
  refused : ∀ (width : Numeral) (w : ℕ) (i : ℤ), width.toInt = w → ¬ (0 ≤ i ∧ i < 256 ^ w) →
    ∃ e, fixedWidth width i = .error e ∧ e.BlamesValue
  /-- The numbers that a signature can be made of. -/
  exists_ofIntegers_iff : ∀ (v : Numeral) (r s : ℤ), (∃ sig, ofIntegers v r s = .ok sig) ↔
    (v.toInt = 0 ∨ v.toInt = 1) ∧ (0 ≤ r ∧ r < 2 ^ 256) ∧ 0 ≤ s ∧ s < 2 ^ 256
  /-- They are read back from it. -/
  parts_eq : ∀ (v : Numeral) (r s : ℤ) (sig : RecoverableSignature),
    ofIntegers v r s = .ok sig → sig.v = v ∧ (sig.rInteger : ℤ) = r ∧ (sig.sInteger : ℤ) = s
  /-- So they are the same for equal signatures. -/
  beq_iff : ∀ (v v' : Numeral) (r r' s s' : ℤ) (sig sig' : RecoverableSignature),
    ofIntegers v r s = .ok sig → ofIntegers v' r' s' = .ok sig' →
      ((sig == sig') = true ↔ v.toInt = v'.toInt ∧ r = r' ∧ s = s')

theorem hasExactWidths : HasExactWidths where
  widthError?_eq_none_iff _ := Ecdsa.widthError?_eq_none_iff
  exists_iff width w i hw hwidth := by
    simp only [fixedWidth_eq_ok_iff_decode hw, hwidth, true_and, ← BigEndian.eq_encode_toNat_iff,
      exists_and_left, exists_eq, and_true]
  eq_ok_iff width w i bytes hw hwidth := by
    rw [fixedWidth_eq_ok_iff_decode hw, and_iff_right hwidth]
  eq_error _ _ _ _ hw he hi := fixedWidth_eq_widthError hw hi he
  refused _ _ _ hw hi := exists_fixedWidth_eq_error hw hi
  exists_ofIntegers_iff _ _ _ := RecoverableSignature.exists_ofIntegers_iff
  parts_eq _ _ _ _ h := (of_ofIntegers_eq_ok h).2
  beq_iff _ _ _ _ _ _ _ _ h h' := beq_iff_of_ofIntegers h h'

/-- Zero is less than any power, but has no byte string of 2⁶⁴ bytes. -/
theorem not_forall_exists_fixedWidth_iff :
    ¬ ∀ (w : ℕ) (i : ℤ), (∃ bytes, fixedWidth (w : ℤ) i = .ok bytes) ↔ 0 ≤ i ∧ i < 256 ^ w := by
  intro h
  have hfits : (0 : ℤ) ≤ 0 ∧ (0 : ℤ) < 256 ^ (2 ^ 64) := ⟨le_rfl, pow_pos (by decide) _⟩
  obtain ⟨bytes, hbytes⟩ := (h (2 ^ 64) 0).2 hfits
  have hwidth := ((fixedWidth_eq_ok_iff_decode rfl).1 hbytes).1
  exact absurd (widthError?_eq_none_iff.1 hwidth) (by decide)

end Ecdsa
