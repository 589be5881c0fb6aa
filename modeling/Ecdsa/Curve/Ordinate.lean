import Ecdsa.Curve.Basic
import Ecdsa.Modular.SquareRoot

/-!
The ordinates that belong to an abscissa.

The abscissa is decompressed from its octets after a byte for the parity. Where a coordinate takes
one byte these are two bytes, which are taken for both coordinates of a point as they stand: the
first for its abscissa, and the abscissa for its ordinate.
-/

namespace Ecdsa.Curve

/-- The ordinate with the given parity, 0 for even and 1 for odd. A point with ordinate zero
has the odd one `p`. Where a coordinate takes one byte it is the abscissa, whether or not there is a
point with it. -/
def ordinate (c : Curve) (x : Numeral) (parity : Int) : Except Error Int :=
  if ¬ (parity = 0 ∨ parity = 1) then .error .parityNotBinary
  else if ¬ (0 ≤ x.toInt ∧ x.toInt < c.p) then reject (.abscissaOutOfRange x)
  else if ¬ c.hasArithmetic then .error .noArithmetic
  else if c.fieldSize = 1 then .ok x.toInt
  else match Modular.squareRoot? c.p (c.cubic x.toInt % c.p) with
    | some y => .ok (if y % 2 = parity then y else c.p - y)
    | none => reject (.noOrdinate x)

def evenOrdinate (c : Curve) (x : Numeral) : Except Error Int :=
  c.ordinate x 0

end Ecdsa.Curve
