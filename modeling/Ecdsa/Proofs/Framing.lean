import Ecdsa.Proofs.CompactFormat

/-!
# Signatures on a stream

Every call that parses a stream takes 65 bytes off it, or as many as are left, whatever comes of the
call. So the calls see what is left of the stream in consecutive pieces, and signatures that were
written one after the other are read in the same order (`readsFrames`).
-/

namespace Ecdsa

namespace ByteStream

variable {stream : ByteStream}

/-- The stream after that many bytes. -/
def advance (stream : ByteStream) (count : ℕ) : ByteStream :=
  { stream with position := stream.position + count }

lemma length_rest (stream : ByteStream) :
    stream.rest.length = stream.bytes.length - stream.position := by
  rw [rest, List.length_drop]

@[simp] lemma advance_zero (stream : ByteStream) : stream.advance 0 = stream := rfl

lemma advance_advance (stream : ByteStream) (k m : ℕ) :
    (stream.advance k).advance m = stream.advance (k + m) := by
  simp [advance, Nat.add_assoc]

/-- A stream past its end has nothing left, just as one at its end. -/
lemma rest_advance_min (stream : ByteStream) (k : ℕ) :
    (stream.advance (min k stream.rest.length)).rest = stream.rest.drop k := by
  have hdrop (m : ℕ) : (stream.advance m).rest = stream.rest.drop m := by
    rw [rest, rest, advance, List.drop_drop]
  rw [hdrop]
  rcases le_total k stream.rest.length with h | h
  · rw [min_eq_left h]
  · rw [min_eq_right h, List.drop_length, List.drop_eq_nil_of_le h]

lemma take_eq (size : ℕ) (stream : ByteStream) :
    stream.take size = (stream.rest.take size, stream.advance (min size stream.rest.length)) := by
  rw [take, advance, List.length_take]

end ByteStream

namespace RecoverableSignature

variable {sigs : List RecoverableSignature} {parts : List (List UInt8)} {tail : List UInt8}
  {check : Bool}

/-! ### Calls on the same stream -/

/-- The stream after that many calls, whatever came of them. -/
def afterParsing (check : Bool) : ℕ → ByteStream → ByteStream
  | 0, stream => stream
  | calls + 1, stream => afterParsing check calls (parse stream check).2

/-- A call reads the next bytes and moves on over them. -/
lemma parse_eq (stream : ByteStream) (check : Bool) :
    parse stream check = (ofCompact (stream.rest.take compactSize) check,
      stream.advance (min compactSize stream.rest.length)) := by
  rw [parse, ByteStream.take_eq]

lemma afterParsing_eq (check : Bool) (calls : ℕ) (stream : ByteStream) :
    afterParsing check calls stream =
      stream.advance (min (compactSize * calls) stream.rest.length) := by
  induction calls generalizing stream with
  | zero => rw [afterParsing, Nat.mul_zero, Nat.zero_min, ByteStream.advance_zero]
  | succ calls ih =>
    rw [afterParsing, parse_eq, ih, ByteStream.rest_advance_min, ByteStream.advance_advance,
      List.length_drop]
    congr 1
    rw [Nat.mul_succ]
    omega

/-- The bytes that a call reads are where they would be if all calls before had succeeded. -/
lemma parse_afterParsing (check : Bool) (calls : ℕ) (stream : ByteStream) :
    parse (afterParsing check calls stream) check =
      (ofCompact ((stream.rest.drop (compactSize * calls)).take compactSize) check,
        stream.advance (min (compactSize * (calls + 1)) stream.rest.length)) := by
  rw [parse_eq, afterParsing_eq, ByteStream.rest_advance_min, ByteStream.advance_advance,
    List.length_drop]
  congr 2
  rw [Nat.mul_succ]
  omega

/-! ### Signatures one after the other -/

/-- The bytes hold the signature, and nothing else. -/
def IsFrame (sig : RecoverableSignature) (part : List UInt8) : Prop :=
  part.length = compactSize ∧ ∃ parsed, ofCompact part true = .ok parsed ∧ (parsed == sig) = true

/-- Valid signatures are written in a frame each. -/
lemma exists_mapM_serialize (h : ∀ sig ∈ sigs, sig.assertValid = .ok ()) :
    ∃ parts, sigs.mapM (serialize · true) = .ok parts ∧ List.Forall₂ IsFrame sigs parts := by
  induction sigs with
  | nil => exact ⟨[], rfl, .nil⟩
  | cons sig sigs ih =>
    rw [List.forall_mem_cons] at h
    obtain ⟨part, hpart, hlength, hread⟩ := exists_serialize h.1
    obtain ⟨parts, hparts, hframes⟩ := ih h.2
    refine ⟨part :: parts, ?_, .cons ⟨hlength, _, hread, beq_iff_parts.2 ⟨rfl, rfl, rfl⟩⟩ hframes⟩
    rw [List.mapM_cons, hpart, ok_bind, hparts]
    rfl

lemma length_of_isFrame (h : List.Forall₂ IsFrame sigs parts) :
    parts.map List.length = List.replicate sigs.length compactSize := by
  induction h with
  | nil => rfl
  | cons hframe _ ih => rw [List.map_cons, hframe.1, ih, List.length_cons, List.replicate_succ]

/-- Frames start at the multiples of their size. -/
lemma drop_frames (h : List.Forall₂ IsFrame sigs parts) {k : ℕ} (hk : k ≤ sigs.length) :
    (parts.flatten ++ tail).drop (compactSize * k) = (parts.drop k).flatten ++ tail := by
  have hsum : ((parts.map List.length).take k).sum = compactSize * k := by
    rw [length_of_isFrame h, List.take_replicate, min_eq_left hk, List.sum_replicate,
      smul_eq_mul, mul_comm]
  have hle : compactSize * k ≤ parts.flatten.length := by
    rw [List.length_flatten, length_of_isFrame h, List.sum_replicate, smul_eq_mul, mul_comm]
    exact Nat.mul_le_mul_right _ hk
  rw [List.drop_append_of_le_length hle, ← hsum, List.drop_sum_flatten]

lemma exists_drop_eq_cons (h : List.Forall₂ IsFrame sigs parts) {k : ℕ}
    {sig : RecoverableSignature} (hsig : sigs[k]? = some sig) :
    ∃ part rest, IsFrame sig part ∧ parts.drop k = part :: rest := by
  induction h generalizing k with
  | nil => cases hsig
  | cons hframe _ ih =>
    cases k with
    | zero =>
      obtain rfl := Option.some.inj hsig
      exact ⟨_, _, hframe, rfl⟩
    | succ k => exact ih hsig

section Stream

variable {stream : ByteStream} (hframes : List.Forall₂ IsFrame sigs parts)
  (hrest : stream.rest = parts.flatten ++ tail)
include hframes hrest

lemma length_rest_of_frames :
    stream.rest.length = compactSize * sigs.length + tail.length := by
  rw [hrest, List.length_append, List.length_flatten, length_of_isFrame hframes,
    List.sum_replicate, smul_eq_mul, mul_comm]

lemma frames_le_length_rest {k : ℕ} (hk : k ≤ sigs.length) :
    compactSize * k ≤ stream.rest.length := by
  rw [length_rest_of_frames hframes hrest]
  exact (Nat.mul_le_mul_left _ hk).trans (Nat.le_add_right _ _)

/-- As many calls as there are signatures, or fewer, have taken a frame each. -/
lemma afterParsing_frames {k : ℕ} (hk : k ≤ sigs.length) :
    afterParsing true k stream = stream.advance (compactSize * k) := by
  rw [afterParsing_eq, min_eq_left (frames_le_length_rest hframes hrest hk)]

/-- The call with the index of a signature reads it. -/
lemma parse_frame {k : ℕ} {sig : RecoverableSignature} (hsig : sigs[k]? = some sig) :
    ∃ parsed, (parsed == sig) = true ∧ parse (afterParsing true k stream) true =
      (.ok parsed, stream.advance (compactSize * (k + 1))) := by
  have hk : k < sigs.length := (List.getElem?_eq_some_iff.1 hsig).1
  obtain ⟨part, later, ⟨hlength, parsed, hread, heq⟩, hpart⟩ := exists_drop_eq_cons hframes hsig
  refine ⟨parsed, heq, ?_⟩
  rw [parse_afterParsing, min_eq_left (frames_le_length_rest hframes hrest hk), hrest,
    drop_frames hframes hk.le, hpart, List.flatten_cons, List.append_assoc,
    List.take_left' hlength, hread]

/-- The call after the last signature fails on what is too short for one. -/
lemma parse_tail (htail : tail.length < compactSize) :
    (afterParsing true sigs.length stream).rest = tail ∧
      parse (afterParsing true sigs.length stream) true =
        (.error (.wrongSignatureLength tail.length compactSize),
          stream.advance (compactSize * sigs.length + tail.length)) := by
  have hleft : stream.rest.length ≤ compactSize * (sigs.length + 1) := by
    rw [length_rest_of_frames hframes hrest, Nat.mul_succ]
    exact Nat.add_le_add_left htail.le _
  have hdrop : stream.rest.drop (compactSize * sigs.length) = tail := by
    have hall : parts.drop sigs.length = [] := List.drop_eq_nil_of_le hframes.length_eq.ge
    rw [hrest, drop_frames hframes le_rfl, hall]
    rfl
  constructor
  · rw [afterParsing_eq, ByteStream.rest_advance_min, hdrop]
  · rw [parse_afterParsing, min_eq_right hleft, length_rest_of_frames hframes hrest, hdrop,
      List.take_of_length_le htail.le, ofCompact_of_length_lt htail]

end Stream

/-! ### Framing -/

/-- A stream is read in pieces of 65 bytes. -/
structure ReadsFrames : Prop where
  /-- Valid signatures that were written one after the other are read in the same order, each from
  its 65 bytes. What follows them, if it is too short for a signature, is consumed and refused. -/
  parse_written : ∀ (sigs : List RecoverableSignature) (tail : List UInt8),
    (∀ sig ∈ sigs, sig.assertValid = .ok ()) → tail.length < 65 →
      ∃ parts stream, sigs.mapM (serialize · true) = .ok parts ∧
        stream = ByteStream.ofBytes (parts.flatten ++ tail) ∧
        (∀ k sig, sigs[k]? = some sig → ∃ parsed, (parsed == sig) = true ∧
          (afterParsing true k stream).position = 65 * k ∧
          parse (afterParsing true k stream) true = (.ok parsed, ⟨stream.bytes, 65 * (k + 1)⟩)) ∧
        (afterParsing true sigs.length stream).rest = tail ∧
        ∃ e, parse (afterParsing true sigs.length stream) true =
          (.error e, ⟨stream.bytes, 65 * sigs.length + tail.length⟩) ∧ e.kind = .rejected
  /-- A call takes 65 bytes off any stream at any position, or as many as are left, whether it has a
  result or not. -/
  parse_consumes : ∀ (stream : ByteStream) (check : Bool), (parse stream check).2 =
    ⟨stream.bytes, stream.position + min 65 (stream.bytes.length - stream.position)⟩
  /-- So what a call reads does not depend on what came of the calls before. -/
  parse_after : ∀ (stream : ByteStream) (check : Bool) (calls : ℕ),
    parse (afterParsing check calls stream) check =
      (ofCompact ((stream.bytes.drop (stream.position + 65 * calls)).take 65) check,
        ⟨stream.bytes,
          stream.position + min (65 * (calls + 1)) (stream.bytes.length - stream.position)⟩)

theorem readsFrames : ReadsFrames where
  parse_written sigs tail hvalid htail := by
    obtain ⟨parts, hparts, hframes⟩ := exists_mapM_serialize hvalid
    have hrest : (ByteStream.ofBytes (parts.flatten ++ tail)).rest = parts.flatten ++ tail := rfl
    obtain ⟨htailrest, hend⟩ := parse_tail hframes hrest htail
    have hadvance (m : ℕ) : (ByteStream.ofBytes (parts.flatten ++ tail)).advance m =
        ⟨parts.flatten ++ tail, m⟩ := by
      rw [ByteStream.advance, ByteStream.ofBytes, Nat.zero_add]
    rw [hadvance] at hend
    refine ⟨parts, _, hparts, rfl, ?_, htailrest, _, hend, rfl⟩
    intro k sig hsig
    obtain ⟨parsed, heq, hparse⟩ := parse_frame hframes hrest hsig
    have hk := (List.getElem?_eq_some_iff.1 hsig).1.le
    rw [hadvance] at hparse
    refine ⟨parsed, heq, ?_, hparse⟩
    rw [afterParsing_frames hframes hrest hk, hadvance]
    rfl
  parse_consumes stream check := by
    rw [parse_eq, ByteStream.length_rest]
    rfl
  parse_after stream check calls := by
    rw [parse_afterParsing, ByteStream.length_rest, ByteStream.rest, List.drop_drop]
    rfl

end RecoverableSignature

end Ecdsa
