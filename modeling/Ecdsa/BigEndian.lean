/-!
Natural numbers as byte strings, the most significant byte first.

Encoding in a width keeps a number modulo `256 ^ width` (`decode_encode`), and every byte string is
the encoding of its number in its own width (`encode_decode`).
-/

namespace Ecdsa.BigEndian

-- Powers are those of the core library, whatever else is imported.
attribute [local instance (high)] instPowNat

def decode (bytes : List UInt8) : Nat :=
  bytes.foldl (fun n b => 256 * n + b.toNat) 0

/-- The last `width` bytes of `n` in front of other bytes. -/
def encodeOnto (rest : List UInt8) : (width n : Nat) → List UInt8
  | 0, _ => rest
  | width + 1, n => encodeOnto (UInt8.ofNat n :: rest) width (n / 256)

/-- The last `width` bytes of `n`, leading zeros kept. -/
def encode (width n : Nat) : List UInt8 :=
  encodeOnto [] width n

theorem encodeOnto_eq (rest : List UInt8) (width n : Nat) :
    encodeOnto rest width n = encode width n ++ rest := by
  induction width generalizing rest n with
  | zero => rfl
  | succ width ih =>
    rw [encode, encodeOnto, encodeOnto, ih, ih [_], List.append_assoc]
    rfl

@[simp] theorem encode_zero (n : Nat) : encode 0 n = [] := rfl

theorem encode_succ (width n : Nat) :
    encode (width + 1) n = encode width (n / 256) ++ [UInt8.ofNat n] :=
  encodeOnto_eq [UInt8.ofNat n] width (n / 256)

@[simp] theorem length_encode (width n : Nat) : (encode width n).length = width := by
  induction width generalizing n with
  | zero => rfl
  | succ width ih => simp [encode_succ, ih]

@[simp] theorem decode_nil : decode [] = 0 := rfl

@[simp] theorem decode_append_singleton (bytes : List UInt8) (b : UInt8) :
    decode (bytes ++ [b]) = 256 * decode bytes + b.toNat := by
  simp [decode]

theorem decode_encode (width n : Nat) : decode (encode width n) = n % 256 ^ width := by
  induction width generalizing n with
  | zero => simp [Nat.mod_one]
  | succ width ih =>
    rw [encode_succ, decode_append_singleton, ih, Nat.pow_succ, Nat.mul_comm (256 ^ width),
      Nat.mod_mul, UInt8.toNat_ofNat']
    omega

/-- A byte string that is not empty has a least significant byte. -/
private theorem exists_append_singleton {bytes : List UInt8} {k : Nat} (h : bytes.length = k + 1) :
    ∃ front b, bytes = front ++ [b] ∧ front.length = k := by
  have hne : bytes ≠ [] := by
    rintro rfl
    simp at h
  exact ⟨bytes.dropLast, bytes.getLast hne, (List.dropLast_concat_getLast hne).symm, by simp [h]⟩

theorem decode_lt (bytes : List UInt8) : decode bytes < 256 ^ bytes.length := by
  induction h : bytes.length generalizing bytes with
  | zero => simp [List.length_eq_zero_iff.1 h]
  | succ k ih =>
    obtain ⟨front, b, rfl, hk⟩ := exists_append_singleton h
    have := ih front hk
    have := b.toNat_lt
    rw [decode_append_singleton, Nat.pow_succ]
    omega

theorem encode_decode (bytes : List UInt8) : encode bytes.length (decode bytes) = bytes := by
  induction h : bytes.length generalizing bytes with
  | zero => simp [List.length_eq_zero_iff.1 h]
  | succ k ih =>
    obtain ⟨front, b, rfl, hk⟩ := exists_append_singleton h
    have hb := b.toNat_lt
    rw [encode_succ, decode_append_singleton,
      show (256 * decode front + b.toNat) / 256 = decode front by omega, ih front hk]
    congr 2
    apply UInt8.toNat_inj.1
    rw [UInt8.toNat_ofNat']
    omega

/-- How many binary digits the absolute value of `i` has; zero has none. -/
def bitLength (i : Int) : Nat :=
  if i = 0 then 0 else i.natAbs.log2 + 1

theorem natAbs_lt_two_pow_bitLength (i : Int) : i.natAbs < 2 ^ bitLength i := by
  unfold bitLength
  split
  · next h => simp [h]
  · exact Nat.lt_log2_self

/-- How many bytes the absolute value of `i` needs; zero needs none. -/
def byteLength (i : Int) : Nat :=
  (bitLength i + 7) / 8

theorem natAbs_lt_pow_byteLength (i : Int) : i.natAbs < 256 ^ byteLength i := by
  refine Nat.lt_of_lt_of_le (natAbs_lt_two_pow_bitLength i) ?_
  rw [show 256 = 2 ^ 8 from rfl, ← Nat.pow_mul]
  apply Nat.pow_le_pow_right (by decide)
  unfold byteLength
  omega

end Ecdsa.BigEndian
