import Ecdsa.BigEndian

/-!
BLAKE2b without a key. The digest size, one to sixty-four bytes, is a parameter of the first
state, so a short digest is not the beginning of a longer one.
-/

namespace Ecdsa.Blake2b

abbrev State := Vector UInt64 8
abbrev Block := Vector UInt64 16
abbrev Permutation := Vector (Fin 16) 16

def initial : State :=
  #v[0x6a09e667f3bcc908, 0xbb67ae8584caa73b, 0x3c6ef372fe94f82b, 0xa54ff53a5f1d36f1,
    0x510e527fade682d1, 0x9b05688c2b3e6c1f, 0x1f83d9abfb41bd6b, 0x5be0cd19137e2179]

/-- The order in which each of the twelve rounds takes the words of a block. -/
def permutations : List Permutation :=
  [#v[0, 1, 2, 3, 4, 5, 6, 7, 8, 9, 10, 11, 12, 13, 14, 15],
    #v[14, 10, 4, 8, 9, 15, 13, 6, 1, 12, 0, 2, 11, 7, 5, 3],
    #v[11, 8, 12, 0, 5, 2, 15, 13, 10, 14, 3, 6, 7, 1, 9, 4],
    #v[7, 9, 3, 1, 13, 12, 11, 14, 2, 6, 5, 10, 4, 0, 15, 8],
    #v[9, 0, 5, 7, 2, 4, 10, 15, 14, 1, 11, 12, 6, 8, 3, 13],
    #v[2, 12, 6, 10, 0, 11, 8, 3, 4, 13, 7, 5, 15, 14, 1, 9],
    #v[12, 5, 1, 15, 14, 13, 4, 10, 0, 7, 6, 3, 9, 2, 8, 11],
    #v[13, 11, 7, 14, 12, 1, 3, 9, 5, 0, 15, 4, 8, 6, 2, 10],
    #v[6, 15, 14, 9, 11, 3, 0, 8, 12, 2, 13, 7, 1, 4, 10, 5],
    #v[10, 2, 8, 4, 7, 6, 1, 5, 15, 11, 9, 14, 3, 12, 13, 0],
    #v[0, 1, 2, 3, 4, 5, 6, 7, 8, 9, 10, 11, 12, 13, 14, 15],
    #v[14, 10, 4, 8, 9, 15, 13, 6, 1, 12, 0, 2, 11, 7, 5, 3]]

def rotateRight (w k : UInt64) : UInt64 :=
  (w >>> k) ||| (w <<< (64 - k))

/-- Mixes two words into four positions of the working vector. -/
def mix (v : Block) (i j k l : Fin 16) (x y : UInt64) : Block :=
  let a := v[i] + v[j] + x
  let d := rotateRight (v[l] ^^^ a) 32
  let c := v[k] + d
  let b := rotateRight (v[j] ^^^ c) 24
  let a := a + b + y
  let d := rotateRight (d ^^^ a) 16
  let c := c + d
  let b := rotateRight (b ^^^ c) 63
  (((v.set i a).set j b).set k c).set l d

/-- One round: the four columns, then the four diagonals. -/
def round (m v : Block) (s : Permutation) : Block :=
  let v := mix v 0 4 8 12 m[s[0]] m[s[1]]
  let v := mix v 1 5 9 13 m[s[2]] m[s[3]]
  let v := mix v 2 6 10 14 m[s[4]] m[s[5]]
  let v := mix v 3 7 11 15 m[s[6]] m[s[7]]
  let v := mix v 0 5 10 15 m[s[8]] m[s[9]]
  let v := mix v 1 6 11 12 m[s[10]] m[s[11]]
  let v := mix v 2 7 8 13 m[s[12]] m[s[13]]
  mix v 3 4 9 14 m[s[14]] m[s[15]]

/-- Takes one block into the state; `count` bytes of the message are taken in by then. -/
def compress (h : State) (m : Block) (count : Nat) (isLast : Bool) : State :=
  let low := initial[4] ^^^ UInt64.ofNat count
  let high := initial[5] ^^^ UInt64.ofNat (count >>> 64)
  let flag := if isLast then ~~~initial[6] else initial[6]
  let v : Block := #v[h[0], h[1], h[2], h[3], h[4], h[5], h[6], h[7], initial[0], initial[1],
    initial[2], initial[3], low, high, flag, initial[7]]
  let v := permutations.foldl (round m) v
  #v[h[0] ^^^ v[0] ^^^ v[8], h[1] ^^^ v[1] ^^^ v[9], h[2] ^^^ v[2] ^^^ v[10],
    h[3] ^^^ v[3] ^^^ v[11], h[4] ^^^ v[4] ^^^ v[12], h[5] ^^^ v[5] ^^^ v[13],
    h[6] ^^^ v[6] ^^^ v[14], h[7] ^^^ v[7] ^^^ v[15]]

/-- The word of up to eight bytes, the least significant first. -/
def word (bytes : List UInt8) : UInt64 :=
  bytes.foldr (fun b w => (w <<< 8) ||| b.toUInt64) 0

/-- The words of up to 128 bytes, filled up with zeros. -/
def block (bytes : List UInt8) : Block :=
  Vector.ofFn fun i : Fin 16 => word ((bytes.drop (8 * i)).take 8)

/-- Takes in the rest of the message, `count` bytes of it being taken in before. -/
def absorb (h : State) (count : Nat) (bytes : List UInt8) : State :=
  if bytes.length ≤ 128 then compress h (block bytes) (count + bytes.length) true
  else absorb (compress h (block (bytes.take 128)) (count + 128) false) (count + 128)
    (bytes.drop 128)
termination_by bytes.length
decreasing_by simp only [List.length_drop]; omega

/-- The first state holds the digest size, no key, and the marks of plain sequential hashing. -/
def start (size : Nat) : State :=
  initial.set 0 (initial[0] ^^^ (0x01010000 ||| UInt64.ofNat size))

def digest (size : Nat) (message : List UInt8) : List UInt8 :=
  ((absorb (start size) 0 message).toList.flatMap fun w =>
    (BigEndian.encode 8 w.toNat).reverse).take size

theorem length_digest {size : Nat} (h : size ≤ 64) (message : List UInt8) :
    (digest size message).length = size := by
  have hwords : ∀ words : List UInt64,
      (words.flatMap fun w => (BigEndian.encode 8 w.toNat).reverse).length = 8 * words.length := by
    intro words
    induction words with
    | nil => rfl
    | cons w words ih =>
      rw [List.flatMap_cons, List.length_append, ih, List.length_reverse,
        BigEndian.length_encode, List.length_cons]
      omega
  rw [digest, List.length_take, hwords, Vector.length_toList]
  omega

end Ecdsa.Blake2b
