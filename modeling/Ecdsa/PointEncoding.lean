import Ecdsa.Curve.Ordinate
import Ecdsa.Octets

/-!
Points as octets and as integers.

Compressed octets are the abscissa after 02 or 03, by the parity of the ordinate; uncompressed ones
are both coordinates after 04. The key integer of a point is read from its uncompressed octets
without their first.
-/

namespace Ecdsa.Curve

-- Powers are those of the core library, whatever else is imported.
attribute [local instance (high)] instPowNat

def encodeCompressed (c : Curve) (Q : Point) : List UInt8 :=
  (if Q.y % 2 = 0 then 2 else 3) :: BigEndian.encode c.fieldSize Q.x.toNat

def encodeUncompressed (c : Curve) (Q : Point) : List UInt8 :=
  4 :: BigEndian.encode c.fieldSize Q.x.toNat ++ BigEndian.encode c.fieldSize Q.y.toNat

/-- The octets of a finite point on the curve. -/
def encodePoint (c : Curve) (Q : Coordinates) (compressed : Bool) : Except Error (List UInt8) := do
  let Q ← c.requireOnCurve Q
  if Q.IsInfinite then throw .infinityHasNoEncoding
  return if compressed then c.encodeCompressed Q else c.encodeUncompressed Q

/-- The point of compressed octets: `head` is 2 or 3, `rest` the abscissa. -/
def decodeCompressed (c : Curve) (head : UInt8) (rest : List UInt8) : Except Error Point :=
  let x := BigEndian.decode rest
  if rest.length ≠ c.fieldSize then
    .error (.wrongCompressedSize (rest.length + 1) (c.fieldSize + 1))
  else match c.ordinate (x : Int) (head.toNat % 2 : Nat) with
    | .ok y => .ok ⟨x, y⟩
    | .error e => .error (if e.kind = .rejected then .noEncodedOrdinate x else e)

/-- The point of uncompressed octets without the first. -/
def decodeUncompressed (c : Curve) (rest : List UInt8) : Except Error Point := do
  if rest.length ≠ 2 * c.fieldSize then
    throw (.wrongUncompressedSize (rest.length + 1) (2 * c.fieldSize + 1))
  let Q : Point := ⟨BigEndian.decode (rest.take c.fieldSize),
    BigEndian.decode (rest.drop c.fieldSize)⟩
  if Q.IsInfinite then throw .infinityHasNoEncoding
  if ← c.contains Q then pure Q else reject (.encodedPointNotOnCurve Q)

/-- The point that the octets encode. -/
def decodePoint (c : Curve) (octets : Octets) : Except Error Point := do
  let bytes ← octets.sized (.either (c.fieldSize + 1) (2 * c.fieldSize + 1))
  match bytes with
  | [] => throw (.notAPoint [])
  | head :: rest =>
    if head = 2 ∨ head = 3 then c.decodeCompressed head rest
    else if head = 4 then c.decodeUncompressed rest
    else throw (.notAPoint bytes)

/-- The key integer of a finite point on the curve. -/
def keyInteger (c : Curve) (Q : Coordinates) : Except Error Int := do
  let bytes ← c.encodePoint Q false
  return BigEndian.decode (bytes.drop 1)

/-- The point of a key integer. -/
def pointOfKeyInteger (c : Curve) (key : Int) : Except Error Point :=
  if 0 < key ∧ key < 2 ^ (16 * c.fieldSize) then
    c.decodePoint (.bytes (4 :: BigEndian.encode (2 * c.fieldSize) key.toNat))
  else throw .keyIntegerOutOfRange

end Ecdsa.Curve
