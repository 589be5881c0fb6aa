import Ecdsa.PrivateKey
import Ecdsa.Proofs.Octets

/-!
# Private keys

A private key is a number in range, given as such or by exactly the octets of a scalar. Whatever
else is given is refused, for its range or for its form, and nothing else about it is told
(`tellsPrivateKeys`).
-/

namespace Ecdsa.Curve

variable {c : Curve} {key : IntegerForm} {d : Numeral}

/-- The number that a private key is given by, in range or not: itself, or as many bytes as a scalar
has, most significant first, or a hexadecimal text of them. -/
inductive Denotes (c : Curve) : IntegerForm → Numeral → Prop where
  | number (d : Numeral) : c.Denotes (.number d) d
  | bytes {bytes : List UInt8} (hlength : bytes.length = c.orderSize) :
    c.Denotes (.octets (.bytes bytes)) (.int (BigEndian.decode bytes))
  | hex {text : String} {bytes : List UInt8} (htext : Octets.IsHexText bytes text.toList)
    (hlength : bytes.length = c.orderSize) :
    c.Denotes (.octets (.hex text)) (.int (BigEndian.decode bytes))

/-! ### Reading -/

lemma readPrivateKey_octets_eq_ok_iff {octets : Octets} :
    c.readPrivateKey (.octets octets) = .ok d ↔ ∃ bytes, octets.read = .ok bytes ∧
      bytes.length = c.orderSize ∧ d = .int (BigEndian.decode bytes) := by
  constructor
  · intro h
    rw [readPrivateKey] at h
    split at h
    · next bytes hsized =>
      obtain ⟨hread, hsize⟩ := Octets.sized_exactly_eq_ok_iff.1 hsized
      exact ⟨bytes, hread, hsize, (Except.ok.inj h).symm⟩
    · cases h
  · rintro ⟨bytes, hread, hsize, rfl⟩
    rw [readPrivateKey, Octets.sized_exactly_eq_ok_iff.2 ⟨hread, hsize⟩]

lemma readPrivateKey_eq_ok_iff : c.readPrivateKey key = .ok d ↔ c.Denotes key d := by
  constructor
  · intro h
    cases key with
    | number d' =>
      obtain rfl := Except.ok.inj h
      exact .number d'
    | octets octets =>
      obtain ⟨bytes, hread, hlength, rfl⟩ := readPrivateKey_octets_eq_ok_iff.1 h
      cases octets with
      | bytes bytes' =>
        obtain rfl := Except.ok.inj hread
        exact .bytes hlength
      | hex text => exact .hex (Octets.readHex_eq_ok_iff.1 hread) hlength
  · intro h
    cases h with
    | number => rfl
    | bytes hlength => exact readPrivateKey_octets_eq_ok_iff.2 ⟨_, rfl, hlength, rfl⟩
    | hex htext hlength =>
      exact readPrivateKey_octets_eq_ok_iff.2
        ⟨_, Octets.readHex_eq_ok_iff.2 htext, hlength, rfl⟩

/-- Why octets are not read is not told. -/
lemma readPrivateKey_eq_error {e : Error} (h : c.readPrivateKey key = .error e) :
    e = .notAPrivateKey := by
  cases key with
  | number d => cases h
  | octets octets =>
    rw [readPrivateKey] at h
    split at h
    · cases h
    · exact (Except.error.inj h).symm

/-! ### Accepting -/

lemma privateKey_eq_ok_iff :
    c.privateKey key = .ok d ↔ c.readPrivateKey key = .ok d ∧ 0 < d.toInt ∧ d.toInt < c.n := by
  rw [privateKey, bind_eq_ok_iff]
  constructor
  · rintro ⟨d', hread, h⟩
    split_ifs at h with hrange
    obtain rfl : d' = d := Except.ok.inj h
    exact ⟨hread, hrange⟩
  · rintro ⟨hread, hrange⟩
    exact ⟨d, hread, if_pos hrange⟩

/-- What is accepted as a private key is in range. -/
lemma of_privateKey_eq_ok (h : c.privateKey key = .ok d) : 0 < d.toInt ∧ d.toInt < c.n :=
  (privateKey_eq_ok_iff.1 h).2

/-- A key is refused because it is not read, or because its number is out of range. -/
lemma privateKey_eq_error_iff {e : Error} :
    c.privateKey key = .error e ↔
      (e = .notAPrivateKey ∧ ∀ d, ¬ c.Denotes key d) ∨
        e = .privateKeyOutOfRange ∧ ∃ d, c.Denotes key d ∧ ¬ (0 < d.toInt ∧ d.toInt < c.n) := by
  cases hread : c.readPrivateKey key with
  | error cause =>
    obtain rfl := readPrivateKey_eq_error hread
    have hnone (d : Numeral) : ¬ c.Denotes key d := by
      rw [← readPrivateKey_eq_ok_iff, hread]
      rintro ⟨⟩
    simp [privateKey, hread, hnone, eq_comm]
  | ok d =>
    have hd := readPrivateKey_eq_ok_iff.1 hread
    have hunique (d' : Numeral) : c.Denotes key d' ↔ d' = d := by
      rw [← readPrivateKey_eq_ok_iff, hread, Except.ok.injEq, eq_comm]
    by_cases hrange : 0 < d.toInt ∧ d.toInt < c.n
    · simp [privateKey, hread, hunique, hrange]
    · rw [privateKey, hread, ok_bind, if_neg hrange, throw_eq_error, Except.error.injEq]
      constructor
      · rintro rfl
        exact Or.inr ⟨rfl, d, hd, hrange⟩
      · rintro (⟨-, hnone⟩ | ⟨rfl, -⟩)
        · exact absurd hd (hnone d)
        · rfl

/-- Private keys are accepted in all their forms, and of a refused one only the kind of fault is
told. -/
structure TellsPrivateKeys (c : Curve) : Prop where
  /-- The keys that are accepted. -/
  eq_ok_iff : ∀ (key : IntegerForm) (d : Numeral),
    c.privateKey key = .ok d ↔ c.Denotes key d ∧ 0 < d.toInt ∧ d.toInt < c.n
  /-- All keys with a number out of range are refused with the same error. -/
  outOfRange_iff : ∀ key : IntegerForm, c.privateKey key = .error .privateKeyOutOfRange ↔
    ∃ d, c.Denotes key d ∧ ¬ (0 < d.toInt ∧ d.toInt < c.n)
  /-- All octets that are malformed are refused with another. -/
  notAPrivateKey_iff : ∀ key : IntegerForm,
    c.privateKey key = .error .notAPrivateKey ↔ ∀ d, ¬ c.Denotes key d
  /-- There are no others, and their texts do not depend on the key. -/
  refused : ∀ (key : IntegerForm) (e : Error), c.privateKey key = .error e →
    e.kind = .rejected ∧
      (e = .privateKeyOutOfRange ∧ e.message = "private key not in 1..n-1" ∨
        e = .notAPrivateKey ∧ e.message = "not a private key")

theorem tellsPrivateKeys (c : Curve) : c.TellsPrivateKeys where
  eq_ok_iff key d := by
    rw [privateKey_eq_ok_iff, readPrivateKey_eq_ok_iff]
  outOfRange_iff key := by
    simp [privateKey_eq_error_iff]
  notAPrivateKey_iff key := by
    simp [privateKey_eq_error_iff]
  refused key e h := by
    rcases privateKey_eq_error_iff.1 h with ⟨rfl, -⟩ | ⟨rfl, -⟩
    · exact ⟨rfl, Or.inr ⟨rfl, rfl⟩⟩
    · exact ⟨rfl, Or.inl ⟨rfl, rfl⟩⟩

end Ecdsa.Curve
