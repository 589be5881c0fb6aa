import Ecdsa.MessageSignature
import Ecdsa.Proofs.PointOctets

/-!
# Points and their key integers

The points that have a key integer are the finite ones on the curve, and a key integer is read as
the point that has it and as no other. So it makes no difference whether the keys that recovery ids
lead to are compared as points or by their key integers (`hasCanonicalKeyIntegers`). The curve may
be any: one without arithmetic has no key integers.
-/

namespace Ecdsa

namespace Curve

variable {c : Curve} {P : Point} {i : ℤ}

/-! ### Curves without arithmetic -/

/-- Only with arithmetic it is known whether a finite point is on the curve. -/
lemma hasArithmetic_of_contains_eq_ok {b : Bool} (hP : ¬ P.IsInfinite)
    (h : c.contains P = .ok b) : c.hasArithmetic = true := by
  rw [contains, if_neg hP] at h
  split_ifs at h with hy hx ha
  · exact ha
  · exact absurd h reject_ne_ok
  · exact absurd h reject_ne_ok

lemma hasArithmetic_of_encodePoint_eq_ok {Q : Coordinates} {compressed : Bool}
    {bytes : List UInt8} (h : c.encodePoint Q compressed = .ok bytes) :
    c.hasArithmetic = true := by
  rw [encodePoint, bind_eq_ok_iff] at h
  obtain ⟨P, hP, h⟩ := h
  by_cases hinfinite : P.IsInfinite
  · simp [hinfinite] at h
  · exact hasArithmetic_of_contains_eq_ok hinfinite (of_requireOnCurve_eq_ok hP).2

lemma hasArithmetic_of_decodeUncompressed_eq_ok {rest : List UInt8}
    (hlength : rest.length = 2 * c.fieldSize) (h : c.decodeUncompressed rest = .ok P) :
    c.hasArithmetic = true := by
  rw [decodeUncompressed_of_length hlength rfl] at h
  split_ifs at h with hinfinite
  obtain ⟨b, hcontains, -⟩ := bind_eq_ok_iff.1 h
  exact hasArithmetic_of_contains_eq_ok hinfinite hcontains

/-! ### Writing and reading -/

lemma two_pow_eq_pow_fieldSize (c : Curve) : (2 : ℤ) ^ (8 * c.fieldSize) = 256 ^ c.fieldSize := by
  rw [pow_mul]
  norm_num

/-- The points with a key integer. -/
lemma keyInteger_eq_ok_iff {Q : Coordinates} :
    c.keyInteger Q = .ok i ↔
      c.hasArithmetic = true ∧ ∃ P, Q.point = .ok P ∧ c.HasPoint P ∧ i = c.keyNumber P := by
  constructor
  · intro h
    obtain ⟨bytes, hbytes, -⟩ := bind_eq_ok_iff.1 h
    have ha := hasArithmetic_of_encodePoint_eq_ok hbytes
    obtain ⟨P, hQ, hP, -⟩ := (encodePoint_eq_ok_iff ha).1 hbytes
    rw [keyInteger_eq_ok ha hQ hP] at h
    exact ⟨ha, P, hQ, hP, (Except.ok.inj h).symm⟩
  · rintro ⟨ha, P, hQ, hP, rfl⟩
    exact keyInteger_eq_ok ha hQ hP

lemma keyInteger_point_eq_ok_iff :
    c.keyInteger P = .ok i ↔ c.hasArithmetic = true ∧ c.HasPoint P ∧ i = c.keyNumber P := by
  simp only [keyInteger_eq_ok_iff, Coordinates.point_coordinates, Except.ok.injEq, exists_eq_left']

/-- An integer in range is read as the uncompressed octets that it stands for. -/
lemma pointOfKeyInteger_of_range (hi : 0 < i ∧ i < 2 ^ (16 * c.fieldSize)) :
    c.pointOfKeyInteger i =
      c.decodeUncompressed (BigEndian.encode (2 * c.fieldSize) i.toNat) := by
  have hlength : (4 :: BigEndian.encode (2 * c.fieldSize) i.toNat).length =
      2 * c.fieldSize + 1 := by
    rw [List.length_cons, BigEndian.length_encode]
  rw [pointOfKeyInteger, if_pos hi, decodePoint_cons (Or.inr hlength), if_neg (by decide),
    if_pos rfl]

/-- The integers that are read are the key integers. -/
lemma pointOfKeyInteger_eq_ok_iff :
    c.pointOfKeyInteger i = .ok P ↔
      c.hasArithmetic = true ∧ c.HasPoint P ∧ i = c.keyNumber P := by
  constructor
  · intro h
    by_cases hi : 0 < i ∧ i < 2 ^ (16 * c.fieldSize)
    swap
    · rw [pointOfKeyInteger, if_neg hi] at h
      cases h
    rw [pointOfKeyInteger_of_range hi] at h
    have ha := hasArithmetic_of_decodeUncompressed_eq_ok (BigEndian.length_encode _ _) h
    obtain ⟨hP, hbytes⟩ := (decodeUncompressed_eq_ok_iff ha).1 h
    rw [← encode_keyNumber hP, ← two_mul] at hbytes
    have hrange := keyNumber_pos_lt hP
    have hpow : ((256 ^ (2 * c.fieldSize) : ℕ) : ℤ) = 2 ^ (16 * c.fieldSize) := by
      rw [show 16 * c.fieldSize = 8 * (2 * c.fieldSize) by ring, pow_mul 2 8]
      norm_num
    have hnumber := congrArg BigEndian.decode hbytes
    rw [BigEndian.decode_encode_of_lt (by omega), BigEndian.decode_encode_of_lt (by omega)]
      at hnumber
    exact ⟨ha, hP, by omega⟩
  · rintro ⟨ha, hP, rfl⟩
    exact pointOfKeyInteger_keyNumber ha hP

end Curve

/-! ### Recovery ids -/

section Trial

variable [PointAddition] {c : Curve} {r s key : ℤ} {digest : List UInt8}

/-- Recovery gives the key integer of the point that it recovers. -/
lemma recoverPoint_of_recoverKeyInteger {id : ℤ} {digest : Option Octets} {result : Option ℤ}
    (h : recoverKeyInteger id r s digest c = .ok result) :
    (recoverPoint id r s digest c = .ok none ∧ result = none) ∨
      ∃ Q i, recoverPoint id r s digest c = .ok (some Q) ∧ c.keyInteger Q = .ok i ∧
        result = some i := by
  obtain ⟨recovered, hrecovered, h⟩ := bind_eq_ok_iff.1 h
  cases recovered with
  | none => exact Or.inl ⟨hrecovered, (Except.ok.inj h).symm⟩
  | some Q =>
    right
    cases hkey : c.keyInteger Q with
    | error e =>
      simp only [hkey] at h
      cases h
    | ok i =>
      simp only [hkey] at h
      exact ⟨Q, i, hrecovered, hkey, (Except.ok.inj h).symm⟩

/-- Tries the recovery ids in turn for the one that recovers the point. -/
def tryRecoveryPoints (P : Point) (r s : ℤ) (digest : List UInt8) (c : Curve) (candidates : ℕ) :
    List ℤ → Except Error Trial
  | [] => .ok (.mismatched candidates)
  | id :: ids => do
    match ← recoverPoint id r s (some digest) c with
    | none => tryRecoveryPoints P r s digest c candidates ids
    | some Q =>
      if Q = P then pure (.found id)
      else tryRecoveryPoints P r s digest c (candidates + 1) ids

/-- Whatever comes of comparing key integers comes of comparing the points. -/
lemma tryRecoveryPoints_of_tryRecoveryIds {P : Point} (hP : c.HasPoint P) {candidates : ℕ}
    {ids : List ℤ} {trial : Trial}
    (h : tryRecoveryIds (c.keyNumber P) r s digest c candidates ids = .ok trial) :
    tryRecoveryPoints P r s digest c candidates ids = .ok trial := by
  induction ids generalizing candidates with
  | nil => exact h
  | cons id ids ih =>
    rw [tryRecoveryIds, bind_eq_ok_iff] at h
    obtain ⟨result, hresult, h⟩ := h
    rw [tryRecoveryPoints]
    rcases recoverPoint_of_recoverKeyInteger hresult with ⟨hnone, rfl⟩ | ⟨Q, i, hsome, hi, rfl⟩
    · rw [hnone, ok_bind]
      exact ih h
    · obtain ⟨-, hQ, rfl⟩ := Curve.keyInteger_point_eq_ok_iff.1 hi
      have heq : c.keyNumber Q = c.keyNumber P ↔ Q = P :=
        ⟨hQ.eq_of_keyNumber_eq hP, congrArg c.keyNumber⟩
      rw [hsome, ok_bind]
      simp only [heq] at h ⊢
      split_ifs at h ⊢
      · exact h
      · exact ih h

end Trial

/-! ### Canonicity -/

/-- Key integers and the finite points on the curve correspond exactly. -/
structure Curve.HasCanonicalKeyIntegers (c : Curve) [PointAddition] : Prop where
  /-- With arithmetic the finite points on the curve have a key integer, and nothing else has: the
  abscissa in front of the ordinate, which takes as many bytes as the field prime. -/
  keyInteger_eq_ok_iff : ∀ (Q : Coordinates) (i : ℤ), c.keyInteger Q = .ok i ↔
    c.hasArithmetic = true ∧
      ∃ P, Q.point = .ok P ∧ c.HasPoint P ∧ i = P.x * 2 ^ (8 * c.fieldSize) + P.y
  /-- The integers that are read as a point are exactly those that it has. -/
  pointOfKeyInteger_eq_ok_iff : ∀ (i : ℤ) (P : Point),
    c.pointOfKeyInteger i = .ok P ↔ c.keyInteger P = .ok i
  /-- Points with the same key integer are the same. -/
  eq_of_keyInteger_eq : ∀ (Q Q' : Coordinates) (i : ℤ),
    c.keyInteger Q = .ok i → c.keyInteger Q' = .ok i → Q.point = Q'.point
  /-- So recovery ids are tried for the point whose key integer is given. -/
  tryRecoveryPoints_eq : ∀ (Q : Coordinates) (P : Point) (key r s : ℤ) (digest : List UInt8)
    (candidates : ℕ) (ids : List ℤ) (trial : Trial), Q.point = .ok P → c.keyInteger Q = .ok key →
      tryRecoveryIds key r s digest c candidates ids = .ok trial →
        tryRecoveryPoints P r s digest c candidates ids = .ok trial

theorem Curve.hasCanonicalKeyIntegers (c : Curve) [PointAddition] : c.HasCanonicalKeyIntegers where
  keyInteger_eq_ok_iff Q i := by
    rw [two_pow_eq_pow_fieldSize]
    exact Curve.keyInteger_eq_ok_iff
  pointOfKeyInteger_eq_ok_iff i P := by
    rw [keyInteger_point_eq_ok_iff]
    exact Curve.pointOfKeyInteger_eq_ok_iff
  eq_of_keyInteger_eq Q Q' i h h' := by
    obtain ⟨-, P, hQ, hP, rfl⟩ := Curve.keyInteger_eq_ok_iff.1 h
    obtain ⟨-, P', hQ', hP', heq⟩ := Curve.keyInteger_eq_ok_iff.1 h'
    rw [hQ, hQ', hP.eq_of_keyNumber_eq hP' heq]
  tryRecoveryPoints_eq Q P key r s digest candidates ids trial hQ hkey h := by
    obtain ⟨-, P', hQ', hP, rfl⟩ := Curve.keyInteger_eq_ok_iff.1 hkey
    obtain rfl : P' = P := Except.ok.inj (hQ'.symm.trans hQ)
    exact tryRecoveryPoints_of_tryRecoveryIds hP h

end Ecdsa
