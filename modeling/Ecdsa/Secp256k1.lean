import Ecdsa.Curve.Arithmetic
import Ecdsa.Curve.Named
import Ecdsa.PointEncoding

/-!
Public keys on secp256k1 in octets, and multiples of the generator read from them. The octets are
those of a multiple that is added up from a table of doublings, unless they are written in another
way.
-/

namespace Ecdsa.Secp256k1

/-- The order of the generator. -/
def order : Int := 0xfffffffffffffffffffffffffffffffebaaedce6af48a03bbfd25e8cd0364141

/-- The point and its doublings, `count` points in all; one that cannot be written is left out. -/
def doublingsFrom : (count : Nat) → Jacobian → List (Option Point)
  | 0, _ => []
  | count + 1, P =>
    (P.toPoint Curve.secp256k1.p).toOption ::
      doublingsFrom count (P.double Curve.secp256k1.p Curve.secp256k1.a)

/-- The generator times 1, 2, 4 and so on up to 2²⁵⁵. -/
def doublings : List (Option Point) :=
  doublingsFrom 256 (.ofPoint Curve.secp256k1.G)

/-- Adds those points of the table whose binary digit in `m` is one. -/
def accumulate (table : List (Option Point)) (m : Nat) (sum : Jacobian) : Jacobian :=
  match table with
  | [] => sum
  | none :: rest => accumulate rest (m / 2) sum
  | some D :: rest =>
    accumulate rest (m / 2)
      (if m % 2 = 1 then sum.add Curve.secp256k1.p Curve.secp256k1.a (.ofPoint D) else sum)

/-- `m` times the generator, for `m` below 2²⁵⁶. -/
def tableMultiple (m : Nat) : Except Error Point :=
  Curve.secp256k1.affine (accumulate doublings m .infinity)

/-- The octets of `m` times the generator, for `m` below 2²⁵⁶. -/
def tableOctets (m : Nat) (compressed : Bool) : Except Error (List UInt8) := do
  let Q ← tableMultiple m
  return if compressed then Curve.secp256k1.encodeCompressed Q
    else Curve.secp256k1.encodeUncompressed Q

/-- A way to write multiples of the generator in octets. Public keys on secp256k1 are computed with
whichever is given. -/
class KeyWriter where
  octets : (m : Nat) → (compressed : Bool) → Except Error (List UInt8)

/-- Keys are written from the table unless another way is given. -/
instance tableWriter : KeyWriter := ⟨tableOctets⟩

variable [KeyWriter]

/-- The octets of `d` times the generator, for a private key `d`. -/
def publicKeyOctets (d : Int) (compressed : Bool) : Except Error (List UInt8) :=
  if ¬ (0 < d ∧ d < order) then .error .baseScalarOutOfRange
  else KeyWriter.octets d.toNat compressed

/-- `m` times the generator, read from its octets. -/
def multBase (m : Int) : Except Error Point := do
  let m := m % order
  if m = 0 then return .infinity
  let octets ← publicKeyOctets m false
  return ⟨BigEndian.decode ((octets.drop 1).take 32), BigEndian.decode (octets.drop 33)⟩

end Ecdsa.Secp256k1
