import Ecdsa.BigEndian

/-!
SHA-256. The message schedule is a window of sixteen words that moves on by one in every round.
-/

namespace Ecdsa.Sha256

/-- The eight working words, or the eight words of the state between blocks. -/
structure State where
  a : UInt32
  b : UInt32
  c : UInt32
  d : UInt32
  e : UInt32
  f : UInt32
  g : UInt32
  h : UInt32

def initial : State :=
  ⟨0x6a09e667, 0xbb67ae85, 0x3c6ef372, 0xa54ff53a, 0x510e527f, 0x9b05688c, 0x1f83d9ab, 0x5be0cd19⟩

/-- One constant for each of the sixty-four rounds. -/
def constants : List UInt32 :=
  [0x428a2f98, 0x71374491, 0xb5c0fbcf, 0xe9b5dba5, 0x3956c25b, 0x59f111f1, 0x923f82a4, 0xab1c5ed5,
    0xd807aa98, 0x12835b01, 0x243185be, 0x550c7dc3, 0x72be5d74, 0x80deb1fe, 0x9bdc06a7, 0xc19bf174,
    0xe49b69c1, 0xefbe4786, 0x0fc19dc6, 0x240ca1cc, 0x2de92c6f, 0x4a7484aa, 0x5cb0a9dc, 0x76f988da,
    0x983e5152, 0xa831c66d, 0xb00327c8, 0xbf597fc7, 0xc6e00bf3, 0xd5a79147, 0x06ca6351, 0x14292967,
    0x27b70a85, 0x2e1b2138, 0x4d2c6dfc, 0x53380d13, 0x650a7354, 0x766a0abb, 0x81c2c92e, 0x92722c85,
    0xa2bfe8a1, 0xa81a664b, 0xc24b8b70, 0xc76c51a3, 0xd192e819, 0xd6990624, 0xf40e3585, 0x106aa070,
    0x19a4c116, 0x1e376c08, 0x2748774c, 0x34b0bcb5, 0x391c0cb3, 0x4ed8aa4a, 0x5b9cca4f, 0x682e6ff3,
    0x748f82ee, 0x78a5636f, 0x84c87814, 0x8cc70208, 0x90befffa, 0xa4506ceb, 0xbef9a3f7, 0xc67178f2]

def rotateRight (w k : UInt32) : UInt32 :=
  (w >>> k) ||| (w <<< (32 - k))

def round (s : State) (k w : UInt32) : State :=
  let sum1 := rotateRight s.e 6 ^^^ rotateRight s.e 11 ^^^ rotateRight s.e 25
  let choice := (s.e &&& s.f) ^^^ (~~~s.e &&& s.g)
  let t1 := s.h + sum1 + choice + k + w
  let sum0 := rotateRight s.a 2 ^^^ rotateRight s.a 13 ^^^ rotateRight s.a 22
  let majority := (s.a &&& s.b) ^^^ (s.a &&& s.c) ^^^ (s.b &&& s.c)
  ⟨t1 + (sum0 + majority), s.a, s.b, s.c, s.d + t1, s.e, s.f, s.g⟩

/-- The schedule word sixteen places after the first of the window. -/
def nextWord (window : Vector UInt32 16) : UInt32 :=
  let s0 := rotateRight window[1]! 7 ^^^ rotateRight window[1]! 18 ^^^ (window[1]! >>> 3)
  let s1 := rotateRight window[14]! 17 ^^^ rotateRight window[14]! 19 ^^^ (window[14]! >>> 10)
  window[0]! + s0 + window[9]! + s1

def slide (window : Vector UInt32 16) : Vector UInt32 16 :=
  (window.push (nextWord window)).drop 1

/-- One round for each constant. -/
def rounds (s : State) (window : Vector UInt32 16) : List UInt32 → State
  | [] => s
  | k :: ks => rounds (round s k window[0]) (slide window) ks

def word (bytes : List UInt8) : UInt32 :=
  UInt32.ofNat (BigEndian.decode bytes)

/-- Takes sixty-four bytes into the state. -/
def compress (s : State) (bytes : List UInt8) : State :=
  let window := Vector.ofFn fun i : Fin 16 => word ((bytes.drop (4 * i)).take 4)
  let t := rounds s window constants
  ⟨s.a + t.a, s.b + t.b, s.c + t.c, s.d + t.d, s.e + t.e, s.f + t.f, s.g + t.g, s.h + t.h⟩

/-- The message, a one bit, zeros, and the length in bits in the last eight bytes of a block. -/
def pad (message : List UInt8) : List UInt8 :=
  let zeros := (119 - message.length % 64) % 64
  message ++ 0x80 :: List.replicate zeros 0 ++ BigEndian.encode 8 (8 * message.length)

/-- Takes in all whole blocks. -/
def absorb (s : State) (bytes : List UInt8) : State :=
  if bytes.length < 64 then s else absorb (compress s (bytes.take 64)) (bytes.drop 64)
termination_by bytes.length
decreasing_by simp only [List.length_drop]; omega

def digest (message : List UInt8) : List UInt8 :=
  let s := absorb initial (pad message)
  [s.a, s.b, s.c, s.d, s.e, s.f, s.g, s.h].flatMap fun w => BigEndian.encode 4 w.toNat

end Ecdsa.Sha256
