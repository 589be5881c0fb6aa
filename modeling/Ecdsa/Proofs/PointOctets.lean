import Ecdsa.Proofs.Curve.Ordinate
import Ecdsa.Proofs.Curve.Secp256k1
import Ecdsa.Proofs.PointEncoding

/-!
# Points as octets

A finite point has two encodings, the compressed and the uncompressed one. On a curve with an odd
group, where a coordinate takes two bytes or more, no other octets are decoded to it
(`decodePoint_eq_ok_iff`). What is not decoded is refused for its value.
-/

namespace Ecdsa.Curve

open Ecdsa.Modular

variable {c : Curve} {P : Point} {bytes rest : List UInt8} {head : UInt8}

/-! ### Formats -/

/-- The octets of a point in either format. -/
def octetsOf (c : Curve) (compressed : Bool) (P : Point) : List UInt8 :=
  if compressed then c.encodeCompressed P else c.encodeUncompressed P

lemma length_octetsOf (compressed : Bool) :
    (c.octetsOf compressed P).length = c.fieldSize + 1 ∨
      (c.octetsOf compressed P).length = 2 * c.fieldSize + 1 := by
  cases compressed with
  | true => exact Or.inl (by simp [octetsOf, encodeCompressed])
  | false => exact Or.inr (by simp [octetsOf, encodeUncompressed, two_mul])

/-- The first byte names the compressed format. -/
def namesCompressed (bytes : List UInt8) : Bool :=
  bytes.head? = some 2 ∨ bytes.head? = some 3

@[simp] lemma namesCompressed_octetsOf (compressed : Bool) :
    namesCompressed (c.octetsOf compressed P) = compressed := by
  cases compressed with
  | false => simp [namesCompressed, octetsOf, encodeUncompressed]
  | true => by_cases hy : P.y % 2 = 0 <;> simp [namesCompressed, octetsOf, encodeCompressed, hy]

/-! ### The parts of octets -/

/-- Octets of another size are refused before anything else. -/
lemma decodePoint_of_wrong_length (h : ¬ (bytes.length = c.fieldSize + 1 ∨
    bytes.length = 2 * c.fieldSize + 1)) :
    c.decodePoint (.bytes bytes) =
      reject (.wrongSize bytes.length (.either (c.fieldSize + 1) (2 * c.fieldSize + 1))) := by
  rw [not_or] at h
  simp [decodePoint, Octets.sized, Octets.read, SizeRule.allows, h]

/-- Octets of a right size are decoded by their first. -/
lemma decodePoint_cons (h : (head :: rest).length = c.fieldSize + 1 ∨
    (head :: rest).length = 2 * c.fieldSize + 1) :
    c.decodePoint (.bytes (head :: rest)) =
      if head = 2 ∨ head = 3 then c.decodeCompressed head rest
      else if head = 4 then c.decodeUncompressed rest
      else .error (.notAPoint (head :: rest)) := by
  have hsized : Octets.sized (.either (c.fieldSize + 1) (2 * c.fieldSize + 1))
      (.bytes (head :: rest)) = .ok (head :: rest) := by
    rcases h with h | h <;> simp [Octets.sized, Octets.read, SizeRule.allows, h]
  rw [decodePoint, hsized, ok_bind]
  rfl

lemma exists_cons_of_length (h : bytes.length = c.fieldSize + 1 ∨
    bytes.length = 2 * c.fieldSize + 1) : ∃ head rest, bytes = head :: rest := by
  apply List.exists_cons_of_length_pos
  rcases h with h | h <;> rw [h] <;> exact Nat.succ_pos _

/-- Uncompressed octets of the right size are both coordinates of a point that is then checked. -/
lemma decodeUncompressed_of_length (hlength : rest.length = 2 * c.fieldSize) {Q : Point}
    (hQ : Q = ⟨BigEndian.decode (rest.take c.fieldSize),
      BigEndian.decode (rest.drop c.fieldSize)⟩) :
    c.decodeUncompressed rest =
      if Q.IsInfinite then .error .infinityHasNoEncoding
      else c.contains Q >>= fun b =>
        if b then .ok Q else reject (.encodedPointNotOnCurve Q) := by
  by_cases hinfinite : Q.IsInfinite <;> simp [decodeUncompressed, hlength, ← hQ, hinfinite]

/-! ### What is encoded and what is decoded -/

section Results

variable (ha : c.hasArithmetic = true)
include ha

/-- The points that are encoded are the finite ones on the curve. -/
lemma encodePoint_eq_ok_iff {Q : Coordinates} {compressed : Bool} :
    c.encodePoint Q compressed = .ok bytes ↔
      ∃ P, Q.point = .ok P ∧ c.HasPoint P ∧ bytes = c.octetsOf compressed P := by
  rw [encodePoint, bind_eq_ok_iff]
  constructor
  · rintro ⟨P, hP, h⟩
    obtain ⟨hpoint, hcontains⟩ := of_requireOnCurve_eq_ok hP
    by_cases hinfinite : P.IsInfinite
    · simp [hinfinite] at h
    · rw [if_neg hinfinite] at h
      exact ⟨P, hpoint, ((contains_iff ha).1 hcontains).resolve_left hinfinite,
        (Except.ok.inj h).symm⟩
  · rintro ⟨P, hpoint, hP, rfl⟩
    refine ⟨P, requireOnCurve_eq_ok hpoint ((contains_iff ha).2 (Or.inr hP)), ?_⟩
    rw [if_neg hP.not_isInfinite]
    rfl

/-- Uncompressed octets after the first are both coordinates. -/
lemma decodeUncompressed_eq_ok_iff :
    c.decodeUncompressed rest = .ok P ↔
      c.HasPoint P ∧ rest = BigEndian.encode c.fieldSize P.x.toNat ++
        BigEndian.encode c.fieldSize P.y.toNat := by
  constructor
  · intro h
    by_cases hlength : rest.length = 2 * c.fieldSize
    swap
    · simp [decodeUncompressed, hlength] at h
    have hencode := BigEndian.encode_take_append_encode_drop (hlength.trans (two_mul _))
    rw [decodeUncompressed_of_length hlength rfl] at h
    split_ifs at h with hinfinite
    rw [bind_eq_ok_iff] at h
    obtain ⟨b, hcontains, h⟩ := h
    split_ifs at h with htrue
    · obtain rfl := Except.ok.inj h
      rw [htrue] at hcontains
      exact ⟨((contains_iff ha).1 hcontains).resolve_left hinfinite, hencode.symm⟩
    · exact absurd h reject_ne_ok
  · rintro ⟨hP, rfl⟩
    exact decodeUncompressed_encode ha hP

variable [Fact c.p.toNat.Prime] (hsize : 2 ≤ c.fieldSize) (hodd : c.HasOddGroup)
include hsize hodd

/-- Compressed octets after the first are the abscissa, and the first tells the parity of the
ordinate. -/
lemma decodeCompressed_eq_ok_iff :
    c.decodeCompressed head rest = .ok P ↔
      c.HasPoint P ∧ rest = BigEndian.encode c.fieldSize P.x.toNat ∧
        P.y % 2 = (head.toNat % 2 : ℕ) := by
  rw [decodeCompressed]
  constructor
  · intro h
    split_ifs at h with hlength
    cases hy : c.ordinate (BigEndian.decode rest : ℤ) (head.toNat % 2 : ℕ) with
    | error e =>
      rw [hy] at h
      cases h
    | ok y =>
      rw [hy] at h
      obtain rfl := Except.ok.inj h
      obtain ⟨hpoint, hparity⟩ := (ordinate_eq_ok_iff hsize ha hodd).1 hy
      refine ⟨hpoint, ?_, hparity⟩
      rw [Int.toNat_natCast, ← not_ne_iff.1 hlength, BigEndian.encode_decode]
  · rintro ⟨hP, rfl, hparity⟩
    have hx : (BigEndian.decode (BigEndian.encode c.fieldSize P.x.toNat) : ℤ) = P.x := by
      rw [BigEndian.decode_encode_of_lt (toNat_lt_pow_fieldSize hP.abscissa),
        Int.toNat_of_nonneg hP.abscissa.1]
    have hy := (ordinate_eq_ok_iff hsize ha hodd).2 ⟨hP, hparity⟩
    rw [if_neg (not_ne_iff.2 (BigEndian.length_encode _ _)), hx, hy]

/-- The octets that are decoded to a point are its two encodings. -/
lemma decodePoint_eq_ok_iff :
    c.decodePoint (.bytes bytes) = .ok P ↔
      c.HasPoint P ∧ ∃ compressed, bytes = c.octetsOf compressed P := by
  by_cases hlength : bytes.length = c.fieldSize + 1 ∨ bytes.length = 2 * c.fieldSize + 1
  swap
  · rw [decodePoint_of_wrong_length hlength]
    simp only [reject_ne_ok, false_iff, not_and, not_exists]
    rintro - compressed rfl
    exact hlength (length_octetsOf compressed)
  obtain ⟨head, rest, rfl⟩ := exists_cons_of_length hlength
  rw [decodePoint_cons hlength]
  constructor
  · intro h
    split_ifs at h with hcompressed huncompressed
    · obtain ⟨hP, rfl, hparity⟩ := (decodeCompressed_eq_ok_iff ha hsize hodd).1 h
      refine ⟨hP, true, ?_⟩
      rcases hcompressed with rfl | rfl <;> simp [octetsOf, encodeCompressed, hparity]
    · obtain ⟨hP, rfl⟩ := (decodeUncompressed_eq_ok_iff ha).1 h
      exact ⟨hP, false, by rw [huncompressed]; rfl⟩
  · rintro ⟨hP, compressed, hbytes⟩
    cases compressed with
    | false =>
      obtain ⟨rfl, rfl⟩ := List.cons.inj hbytes
      exact (decodeUncompressed_eq_ok_iff ha).2 ⟨hP, rfl⟩
    | true =>
      obtain ⟨rfl, rfl⟩ := List.cons.inj hbytes
      rw [if_pos (by split_ifs <;> simp)]
      refine (decodeCompressed_eq_ok_iff ha hsize hodd).2 ⟨hP, rfl, ?_⟩
      rcases Int.emod_two_eq_zero_or_one P.y with hy | hy <;> simp [hy]

end Results

/-! ### What is refused -/

section Refused

variable {e : Error} (ha : c.hasArithmetic = true)
include ha

lemma blamesValue_of_decodeCompressed_eq_error (h : c.decodeCompressed head rest = .error e) :
    e.BlamesValue := by
  rw [decodeCompressed] at h
  split_ifs at h with hlength
  · cases h
    exact Or.inl rfl
  cases hy : c.ordinate (BigEndian.decode rest : ℤ) (head.toNat % 2 : ℕ) with
  | ok y =>
    rw [hy] at h
    cases h
  | error cause =>
    rw [hy] at h
    obtain rfl := Except.error.inj h
    split_ifs
    · exact Or.inl rfl
    · exact blamesValue_of_ordinate_eq_error ha hy

lemma blamesValue_of_decodeUncompressed_eq_error (h : c.decodeUncompressed rest = .error e) :
    e.BlamesValue := by
  by_cases hlength : rest.length = 2 * c.fieldSize
  swap
  · rw [decodeUncompressed, if_pos hlength] at h
    cases h
    exact Or.inl rfl
  obtain ⟨Q, hQ⟩ : ∃ Q : Point, Q = ⟨BigEndian.decode (rest.take c.fieldSize),
    BigEndian.decode (rest.drop c.fieldSize)⟩ := ⟨_, rfl⟩
  rw [decodeUncompressed_of_length hlength hQ] at h
  split_ifs at h with hinfinite
  · cases h
    exact Or.inl rfl
  · cases hcontains : c.contains Q with
    | error cause =>
      rw [hcontains] at h
      cases h
      exact blamesValue_of_contains_eq_error ha hcontains
    | ok b =>
      rw [hcontains, ok_bind] at h
      split_ifs at h
      exact blamesValue_of_reject h (Or.inl rfl)

/-- Octets that are not decoded are blamed. -/
lemma blamesValue_of_decodePoint_eq_error (h : c.decodePoint (.bytes bytes) = .error e) :
    e.BlamesValue := by
  by_cases hsize : bytes.length = c.fieldSize + 1 ∨ bytes.length = 2 * c.fieldSize + 1
  swap
  · rw [decodePoint_of_wrong_length hsize] at h
    exact blamesValue_of_reject h (Or.inl rfl)
  obtain ⟨head, rest, rfl⟩ := exists_cons_of_length hsize
  rw [decodePoint_cons hsize] at h
  split_ifs at h with hcompressed huncompressed
  · exact blamesValue_of_decodeCompressed_eq_error ha h
  · exact blamesValue_of_decodeUncompressed_eq_error ha h
  · cases h
    exact Or.inl rfl

end Refused

/-! ### The codec -/

/-- Encoding and decoding undo each other, and whatever else there is they refuse. -/
structure HasExactOctets (c : Curve) : Prop where
  /-- The points that have octets are the finite ones on the curve. -/
  encoded : ∀ (Q : Coordinates) (compressed : Bool),
    (∃ bytes, c.encodePoint Q compressed = .ok bytes) ↔ ∃ P, Q.point = .ok P ∧ c.HasPoint P
  /-- The octets of a point in either format are decoded to it. -/
  decode_encode : ∀ (P : Point) (compressed : Bool), c.HasPoint P →
    ∃ bytes, c.encodePoint P compressed = .ok bytes ∧ c.decodePoint (.bytes bytes) = .ok P
  /-- Octets that are decoded are those of the point in the format that they name. -/
  encode_decode : ∀ (bytes : List UInt8) (P : Point), c.decodePoint (.bytes bytes) = .ok P →
    ¬ P.IsInfinite ∧ c.requireOnCurve P = .ok P ∧
      c.encodePoint P (namesCompressed bytes) = .ok bytes
  /-- Octets that are not decoded are refused for their value. -/
  refused : ∀ bytes : List UInt8, (∃ P, c.decodePoint (.bytes bytes) = .ok P) ∨
    ∃ e, c.decodePoint (.bytes bytes) = .error e ∧ e.BlamesValue

/-- On a curve with an odd group finite points and octets correspond exactly, if a coordinate takes
two bytes or more. -/
theorem hasExactOctets [Fact c.p.toNat.Prime] (hsize : 2 ≤ c.fieldSize)
    (ha : c.hasArithmetic = true) (hodd : c.HasOddGroup) : c.HasExactOctets where
  encoded Q compressed := by
    simp only [encodePoint_eq_ok_iff ha]
    constructor
    · rintro ⟨_, P, hQ, hP, -⟩
      exact ⟨P, hQ, hP⟩
    · rintro ⟨P, hQ, hP⟩
      exact ⟨_, P, hQ, hP, rfl⟩
  decode_encode P compressed hP := by
    refine ⟨c.octetsOf compressed P, ?_, ?_⟩
    · exact (encodePoint_eq_ok_iff ha).2 ⟨P, Coordinates.point_coordinates P, hP, rfl⟩
    · exact (decodePoint_eq_ok_iff ha hsize hodd).2 ⟨hP, compressed, rfl⟩
  encode_decode bytes P h := by
    obtain ⟨hP, compressed, rfl⟩ := (decodePoint_eq_ok_iff ha hsize hodd).1 h
    have hon := requireOnCurve_eq_ok (Coordinates.point_coordinates P)
      ((contains_iff ha).2 (Or.inr hP))
    refine ⟨hP.not_isInfinite, hon, ?_⟩
    rw [namesCompressed_octetsOf]
    exact (encodePoint_eq_ok_iff ha).2 ⟨P, Coordinates.point_coordinates P, hP, rfl⟩
  refused bytes := by
    cases h : c.decodePoint (.bytes bytes) with
    | ok P => exact Or.inl ⟨P, rfl⟩
    | error e => exact Or.inr ⟨e, rfl, blamesValue_of_decodePoint_eq_error ha h⟩

theorem hasExactOctets_secp256k1 : secp256k1.HasExactOctets :=
  hasExactOctets Secp256k1.two_le_fieldSize rfl Secp256k1.hasOddGroup

end Ecdsa.Curve
