import Ecdsa.MessageSignature
import Ecdsa.Proofs.CompactFormat

/-!
# Octets beyond the compact format

Octets are read like a stream, so of more than 65 bytes the first 65 are a signature and the others
are not looked at. The compact format of a signature is therefore not the only form that it is read
from: all octets that start with it are others (`readsLeadingBytes`). Among octets of 65 bytes it is
the only one.
-/

namespace Ecdsa

namespace RecoverableSignature

variable {sig sig' : RecoverableSignature} {octets octets' : Octets}
  {bytes bytes' rest : List UInt8} {check : Bool}

/-! ### The bytes that are read -/

lemma parseOctets_eq (h : octets.read = .ok bytes) :
    parseOctets octets check = ofCompact (bytes.take compactSize) check := by
  rw [parseOctets_of_read h, parse_ofBytes_take]

/-- Bytes after the compact format change nothing. -/
lemma parseOctets_append (h : compactSize ≤ bytes.length) :
    parseOctets (bytes ++ rest : List UInt8) check = parseOctets bytes check := by
  have hread : (Octets.bytes (bytes ++ rest)).read = .ok (bytes ++ rest) := rfl
  have hread' : (Octets.bytes bytes).read = .ok bytes := rfl
  rw [parseOctets_eq hread, parseOctets_eq hread', List.take_append_of_le_length h]

lemma length_take_compactSize (h : compactSize ≤ bytes.length) :
    (bytes.take compactSize).length = compactSize := by
  rw [List.length_take, Nat.min_eq_left h]

/-- Only octets that reach as far as the compact format are read. -/
lemma compactSize_le_of_parseOctets (h : octets.read = .ok bytes)
    (hsig : parseOctets octets check = .ok sig) : compactSize ≤ bytes.length := by
  rw [parseOctets_eq h] at hsig
  by_contra hlt
  rw [not_le] at hlt
  rw [List.take_of_length_le hlt.le, ofCompact_of_length_lt hlt] at hsig
  cases hsig

/-- What is read is written as the leading bytes. -/
lemma serialize_of_parseOctets (h : octets.read = .ok bytes)
    (hsig : parseOctets octets check = .ok sig) :
    sig.serialize check = .ok (bytes.take compactSize) := by
  have hlength := length_take_compactSize (compactSize_le_of_parseOctets h hsig)
  rw [parseOctets_eq h] at hsig
  exact serialize_of_ofCompact hlength hsig

/-- Octets are read if the byte in the place of the indicator is a parity. -/
lemma exists_parseOctets_iff (h : octets.read = .ok bytes) :
    (∃ sig, parseOctets octets true = .ok sig) ↔ bytes[64]? = some 0 ∨ bytes[64]? = some 1 := by
  by_cases hlength : compactSize ≤ bytes.length
  · have hlast : (bytes.take compactSize).getLast? = bytes[64]? := by
      rw [List.getLast?_eq_getElem?, length_take_compactSize hlength]
      exact List.getElem?_take_of_lt (by decide)
    rw [parseOctets_eq h, exists_ofCompact_iff (length_take_compactSize hlength), hlast]
  · have hnone : bytes[64]? = none := by
      apply List.getElem?_eq_none
      exact Nat.le_of_lt_succ (not_le.1 hlength)
    rw [hnone]
    constructor
    · rintro ⟨sig, hsig⟩
      exact absurd (compactSize_le_of_parseOctets h hsig) hlength
    · rintro (h | h) <;> cases h

/-! ### Signatures that are equal -/

/-- Equal signatures are written alike. -/
lemma serialize_false_of_beq (h : (sig == sig') = true) :
    sig.serialize false = sig'.serialize false := by
  obtain ⟨hv, hr, hs⟩ := beq_iff_parts.1 h
  simp only [serialize, hv, hr, hs, Bool.false_eq_true, if_false]

lemma serialize_false_of_serialize (h : sig.serialize check = .ok bytes) :
    sig.serialize false = .ok bytes := by
  cases check with
  | false => exact h
  | true =>
    rw [serialize, if_pos rfl, check_bind_eq_ok_iff] at h
    exact h.2

/-- Equal signatures are read from octets with the same leading bytes, and only from those. -/
lemma beq_iff_take_eq (h : octets.read = .ok bytes) (h' : octets'.read = .ok bytes')
    (hsig : parseOctets octets check = .ok sig) (hsig' : parseOctets octets' check = .ok sig') :
    (sig == sig') = true ↔ bytes.take compactSize = bytes'.take compactSize := by
  constructor
  · intro heq
    have hwritten := serialize_false_of_serialize (serialize_of_parseOctets h hsig)
    have hwritten' := serialize_false_of_serialize (serialize_of_parseOctets h' hsig')
    rw [serialize_false_of_beq heq, hwritten'] at hwritten
    exact (Except.ok.inj hwritten).symm
  · intro htake
    rw [parseOctets_eq h, htake, ← parseOctets_eq h', hsig'] at hsig
    obtain rfl := Except.ok.inj hsig
    exact beq_iff_parts.2 ⟨rfl, rfl, rfl⟩

end RecoverableSignature

/-! ### Reading and recovering -/

open RecoverableSignature

/-- What is read of octets, and whose signature is recovered from them, depends on their leading 65
bytes alone. -/
structure ReadsLeadingBytes [PointAddition] : Prop where
  /-- The bytes after the indicator do not matter for whether octets are read. -/
  exists_parse_iff : ∀ (octets : Octets) (bytes : List UInt8), octets.read = .ok bytes →
    ((∃ sig, parseOctets octets true = .ok sig) ↔ bytes[64]? = some 0 ∨ bytes[64]? = some 1)
  /-- What is read is written as the leading bytes, and so as all of them only if there are no
  others. -/
  serialize_parse : ∀ (octets : Octets) (bytes : List UInt8) (sig : RecoverableSignature),
    octets.read = .ok bytes → parseOctets octets true = .ok sig →
      sig.serialize true = .ok (bytes.take 65) ∧
        (sig.serialize true = .ok bytes ↔ bytes.length = 65)
  /-- Equal signatures are read exactly from octets with the same leading bytes. -/
  parse_eq_iff : ∀ (octets octets' : Octets) (bytes bytes' : List UInt8)
    (sig sig' : RecoverableSignature), octets.read = .ok bytes → octets'.read = .ok bytes' →
      parseOctets octets true = .ok sig → parseOctets octets' true = .ok sig' →
        ((sig == sig') = true ↔ bytes.take 65 = bytes'.take 65)
  /-- The signer that is recovered is that of the leading bytes. -/
  recoverSigner_eq : ∀ (octets : Octets) (bytes : List UInt8) (message : Octets)
    (hashFirst : Bool) (c : Curve), octets.read = .ok bytes →
      (recoverSigner (.octets octets) message hashFirst c).1 =
        (recoverSigner (.octets (bytes.take 65)) message hashFirst c).1

theorem readsLeadingBytes [PointAddition] : ReadsLeadingBytes where
  exists_parse_iff octets bytes h := exists_parseOctets_iff h
  serialize_parse octets bytes sig h hsig := by
    have hwritten := serialize_of_parseOctets h hsig
    have hlength := compactSize_le_of_parseOctets h hsig
    refine ⟨hwritten, ?_⟩
    rw [hwritten, Except.ok.injEq, List.take_eq_self_iff]
    exact ⟨fun hle => le_antisymm hle hlength, le_of_eq⟩
  parse_eq_iff octets octets' bytes bytes' sig sig' h h' hsig hsig' :=
    beq_iff_take_eq h h' hsig hsig'
  recoverSigner_eq octets bytes message hashFirst c h := by
    have hread : (Octets.bytes (bytes.take compactSize)).read = .ok (bytes.take compactSize) := rfl
    have hparse : parseOctets octets true = parseOctets (bytes.take compactSize) true := by
      rw [parseOctets_eq h, parseOctets_eq hread, List.take_take, Nat.min_self]
    show _ = (recoverSigner (.octets (bytes.take compactSize)) message hashFirst c).1
    simp only [recoverSigner, SignatureForm.read, hparse]

/-- The compact format of zeros is read with another byte after it as the same signature, which is
written without that byte. -/
theorem not_forall_eq_of_parseOctets :
    (¬ ∀ (bytes bytes' : List UInt8) (sig sig' : RecoverableSignature),
      parseOctets bytes true = .ok sig → parseOctets bytes' true = .ok sig' →
        (sig == sig') = true → bytes = bytes') ∧
    ¬ ∀ (bytes : List UInt8) (sig : RecoverableSignature),
      parseOctets bytes true = .ok sig → sig.serialize true = .ok bytes := by
  have hread : parseOctets (List.replicate 65 0 : List UInt8) true =
      .ok ⟨.int 0, List.replicate 32 0, List.replicate 32 0⟩ := rfl
  have hlonger : parseOctets (List.replicate 65 0 ++ [0] : List UInt8) true =
      .ok ⟨.int 0, List.replicate 32 0, List.replicate 32 0⟩ :=
    (parseOctets_append (by decide)).trans hread
  constructor
  · intro h
    have heq := h _ _ _ _ hread hlonger (beq_iff_parts.2 ⟨rfl, rfl, rfl⟩)
    exact absurd (congrArg List.length heq) (by decide)
  · intro h
    have hshort := h _ _ hread
    rw [h _ _ hlonger] at hshort
    exact absurd (congrArg List.length (Except.ok.inj hshort)) (by decide)

end Ecdsa
