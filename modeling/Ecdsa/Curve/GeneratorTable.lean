import Ecdsa.Curve.Basic
import Ecdsa.Curve.Jacobian

/-!
The table of the doublings of a generator, from which multiples of the generator are added up.

A generator that is infinite when it is doubled often enough has no table.
-/

namespace Ecdsa.Curve

/-- The point and its doublings, as many as `count`. -/
def doublings (c : Curve) : (count : Nat) → Point → Except Error (List Point)
  | 0, D => .ok [D]
  | count + 1, D => do
    let P := Jacobian.double c.p c.a (.ofPoint D)
    if P.Z = 0 then throw .infiniteDoubling
    let rest ← c.doublings count (← P.toPoint c.p)
    return D :: rest

/-- How many doublings the table has: up to the first that is four times the order or more. -/
def tableLength (c : Curve) : Nat :=
  BigEndian.bitLength (4 * c.n - 1).toNat

/-- The generator and its doublings. -/
def generatorTable (c : Curve) : Except Error (List Point) :=
  c.doublings c.tableLength c.G

end Ecdsa.Curve
