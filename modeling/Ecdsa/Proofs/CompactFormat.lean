import Ecdsa.Proofs.Octets
import Ecdsa.Proofs.RecoverableSignature

/-!
# The compact format

The 65 bytes of the compact format are the 32 bytes of `r`, those of `s`, and the indicator. Taken
without the check of the indicator, byte strings of this length and signatures with an indicator of
one byte correspond; with the check, those that end in a parity and the valid signatures do.
-/

namespace Ecdsa.RecoverableSignature

variable {sig sig' : RecoverableSignature} {r s bytes : List UInt8} {v : UInt8} {check : Bool}

/-- Signatures are equal when their parts are, the indicators as numbers. -/
lemma beq_iff_parts :
    (sig == sig') = true ↔ sig.v.toInt = sig'.v.toInt ∧ sig.r = sig'.r ∧ sig.s = sig'.s := by
  have hparts : (sig == sig') = (sig.v == sig'.v && (sig.r == sig'.r && sig.s == sig'.s)) := rfl
  rw [hparts, Bool.and_eq_true, Bool.and_eq_true, Numeral.beq_iff, beq_iff_eq, beq_iff_eq]

/-! ### Bytes and their parts -/

lemma exists_parts (h : bytes.length = compactSize) :
    ∃ r s v, bytes = r ++ s ++ [v] ∧ r.length = scalarSize ∧ s.length = scalarSize := by
  have hne : bytes ≠ [] := List.ne_nil_of_length_eq_add_one h
  have hfront : bytes.dropLast.length = scalarSize + scalarSize := by
    rw [List.length_dropLast, h]
    rfl
  refine ⟨bytes.dropLast.take scalarSize, bytes.dropLast.drop scalarSize, bytes.getLast hne,
    ?_, ?_, ?_⟩
  · rw [List.take_append_drop, List.dropLast_concat_getLast hne]
  · rw [List.length_take, hfront, Nat.min_eq_left (Nat.le_add_right _ _)]
  · rw [List.length_drop, hfront, Nat.add_sub_cancel]

lemma length_parts (hr : r.length = scalarSize) (hs : s.length = scalarSize) :
    (r ++ s ++ [v]).length = compactSize := by
  rw [List.length_append, List.length_append, hr, hs]
  rfl

lemma ofCompact_parts (hr : r.length = scalarSize) (hs : s.length = scalarSize) :
    ofCompact (r ++ s ++ [v]) check = make (.int v.toNat) r s check := by
  have hlast : (r ++ s ++ [v]).getLastD 0 = v := List.getLastD_concat ..
  rw [ofCompact, if_neg (not_ne_iff.2 (length_parts hr hs)), hlast, List.append_assoc,
    List.take_left' hr, List.drop_left' hr, List.take_left' hs]

lemma ofCompact_of_length_lt (h : bytes.length < compactSize) :
    ofCompact bytes check = .error (.wrongSignatureLength bytes.length compactSize) :=
  if_pos h.ne

/-- Octets are read like a stream over their bytes. -/
lemma parseOctets_of_read {octets : Octets} (h : octets.read = .ok bytes) :
    parseOctets octets check = (parse (.ofBytes bytes) check).1 := by
  rw [parseOctets, ByteStream.ofOctets, h, map_ok, ok_bind]

/-- A stream at its start is read as far as the compact format reaches. -/
lemma parse_ofBytes_take (bytes : List UInt8) (check : Bool) :
    (parse (.ofBytes bytes) check).1 = ofCompact (bytes.take compactSize) check := by
  rw [parse, ByteStream.take, ByteStream.rest, ByteStream.ofBytes, List.drop_zero]

lemma parse_ofBytes (h : bytes.length ≤ compactSize) :
    (parse (.ofBytes bytes) check).1 = ofCompact bytes check := by
  rw [parse_ofBytes_take, List.take_of_length_le h]

lemma parseOctets_bytes (h : bytes.length ≤ compactSize) :
    parseOctets bytes check = ofCompact bytes check :=
  (parseOctets_of_read rfl).trans (parse_ofBytes h)

/-! ### Writing -/

lemma indicatorByte_toNat (v : UInt8) : indicatorByte v.toNat = .ok v := by
  have hv := v.toNat_lt
  rw [indicatorByte, if_neg (by omega), if_neg (by omega), Int.toNat_natCast, UInt8.ofNat_toNat]

/-- Without the check any two byte strings are written, with the indicator after them. -/
lemma serialize_false (r s : List UInt8) (v : UInt8) :
    serialize ⟨.int v.toNat, r, s⟩ false = .ok (r ++ s ++ [v]) := by
  simp only [serialize, Numeral.toInt_int, indicatorByte_toNat, ok_bind, pure_eq_ok,
    Bool.false_eq_true, if_false]

lemma serialize_true (h : sig.assertValid = .ok ()) :
    sig.serialize true = sig.serialize false := by
  simp only [serialize, h, ok_bind, if_true, Bool.false_eq_true, if_false]

/-- The indicator of a valid signature is a byte. -/
lemma exists_indicator (hv : sig.v.toInt = 0 ∨ sig.v.toInt = 1) :
    ∃ v : UInt8, sig.v.toInt = v.toNat := by
  rcases hv with hv | hv
  · exact ⟨0, hv⟩
  · exact ⟨1, hv⟩

/-- The bytes of a valid signature are its parts, and they are read back from them. -/
lemma exists_serialize_parts (h : sig.assertValid = .ok ()) :
    ∃ v : UInt8, sig.v.toInt = v.toNat ∧ sig.serialize true = .ok (sig.r ++ sig.s ++ [v]) ∧
      (sig.r ++ sig.s ++ [v]).length = compactSize ∧
      ofCompact (sig.r ++ sig.s ++ [v]) true = .ok ⟨.int sig.v.toInt, sig.r, sig.s⟩ := by
  obtain ⟨hv, hr, hs⟩ := assertValid_eq_ok_iff.1 h
  obtain ⟨v, hsigv⟩ := exists_indicator hv
  refine ⟨v, hsigv, ?_, length_parts hr hs, ?_⟩
  · rw [serialize_true h]
    have hbyte := indicatorByte_toNat v
    rw [← hsigv] at hbyte
    simp only [serialize, hbyte, ok_bind, pure_eq_ok, Bool.false_eq_true, if_false]
  · rw [ofCompact_parts hr hs, make_eq_ok_iff, ← hsigv]
    exact ⟨hv, hr, hs, rfl⟩

/-- The compact format of a valid signature, and what is read back from it. -/
lemma exists_serialize (h : sig.assertValid = .ok ()) :
    ∃ bytes, sig.serialize true = .ok bytes ∧ bytes.length = compactSize ∧
      ofCompact bytes true = .ok ⟨.int sig.v.toInt, sig.r, sig.s⟩ := by
  obtain ⟨v, -, hserialize⟩ := exists_serialize_parts h
  exact ⟨_, hserialize⟩

/-! ### Reading and writing -/

/-- What is read from bytes of the right length is written as the same bytes. -/
lemma serialize_of_ofCompact (hlength : bytes.length = compactSize)
    (h : ofCompact bytes check = .ok sig) : sig.serialize check = .ok bytes := by
  obtain ⟨r, s, v, rfl, hr, hs⟩ := exists_parts hlength
  rw [ofCompact_parts hr hs] at h
  cases check with
  | false =>
    obtain rfl := Except.ok.inj h
    exact serialize_false r s v
  | true =>
    obtain ⟨hv, -, -, rfl⟩ := make_eq_ok_iff.1 h
    rw [serialize_true (assertValid_eq_ok_iff.2 ⟨hv, hr, hs⟩), serialize_false]

/-- Bytes of the right length are read if the last is a parity. -/
lemma exists_ofCompact_iff (hlength : bytes.length = compactSize) :
    (∃ sig, ofCompact bytes true = .ok sig) ↔
      bytes.getLast? = some 0 ∨ bytes.getLast? = some 1 := by
  obtain ⟨r, s, v, rfl, hr, hs⟩ := exists_parts hlength
  have hparity : (v.toNat : ℤ) = 0 ∨ (v.toNat : ℤ) = 1 ↔ v = 0 ∨ v = 1 := by
    rw [← UInt8.toNat_inj, ← UInt8.toNat_inj]
    norm_cast
  simp only [ofCompact_parts hr hs, make_eq_ok_iff, Numeral.toInt_int, hparity, hr, hs,
    List.getLast?_concat, Option.some.injEq, true_and, exists_and_left, exists_eq, and_true]

/-- The compact format and the signatures in it correspond exactly. -/
structure IsExactFormat : Prop where
  /-- A valid signature is read back from its bytes, in whichever form they are given. They are
  those of `r`, those of `s`, and the indicator. -/
  parse_serialize : ∀ sig : RecoverableSignature, sig.assertValid = .ok () →
    ∃ (v : UInt8) (bytes : List UInt8) (parsed : RecoverableSignature),
      sig.v.toInt = v.toNat ∧ bytes = sig.r ++ sig.s ++ [v] ∧ bytes.length = 65 ∧
      sig.serialize true = .ok bytes ∧ (parsed == sig) = true ∧
      (parse (.ofBytes bytes) true).1 = .ok parsed ∧
      ∀ octets : Octets, octets.read = .ok bytes → parseOctets octets true = .ok parsed
  /-- Of 65 bytes those are read of which the last is a parity. -/
  exists_parse_iff : ∀ bytes : List UInt8, bytes.length = 65 →
    ((∃ sig, parseOctets bytes true = .ok sig) ↔
      bytes.getLast? = some 0 ∨ bytes.getLast? = some 1)
  /-- What is read from 65 bytes is written as the same bytes. -/
  serialize_parse : ∀ (bytes : List UInt8) (sig : RecoverableSignature) (check : Bool),
    bytes.length = 65 → parseOctets bytes check = .ok sig → sig.serialize check = .ok bytes
  /-- Without the check every 65 bytes are read. -/
  exists_parse_unchecked : ∀ bytes : List UInt8, bytes.length = 65 →
    ∃ sig, parseOctets bytes false = .ok sig
  /-- Fewer bytes are refused, with the check and without. -/
  refused : ∀ (bytes : List UInt8) (check : Bool), bytes.length < 65 →
    ∃ e, parseOctets bytes check = .error e ∧ e.kind = .rejected

theorem isExactFormat : IsExactFormat where
  parse_serialize sig h := by
    obtain ⟨v, hv, hserialize, hlength, hread⟩ := exists_serialize_parts h
    have hparse := (parse_ofBytes hlength.le).trans hread
    refine ⟨v, _, ⟨.int sig.v.toInt, sig.r, sig.s⟩, hv, rfl, hlength, hserialize, ?_, hparse, ?_⟩
    · exact beq_iff_parts.2 ⟨rfl, rfl, rfl⟩
    intro octets hoctets
    exact (parseOctets_of_read hoctets).trans hparse
  exists_parse_iff bytes hlength := by
    rw [parseOctets_bytes hlength.le]
    exact exists_ofCompact_iff hlength
  serialize_parse bytes sig check hlength h := by
    rw [parseOctets_bytes hlength.le] at h
    exact serialize_of_ofCompact hlength h
  exists_parse_unchecked bytes hlength := by
    obtain ⟨r, s, v, rfl, hr, hs⟩ := exists_parts hlength
    rw [parseOctets_bytes hlength.le, ofCompact_parts hr hs]
    exact ⟨_, rfl⟩
  refused bytes check hlength := by
    rw [parseOctets_bytes hlength.le, ofCompact_of_length_lt hlength]
    exact ⟨_, rfl, rfl⟩

end Ecdsa.RecoverableSignature
