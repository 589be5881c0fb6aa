import Ecdsa.Curve.Basic
import Ecdsa.IntegerForm

/-!
Private keys: integers from one up to the order of the generator, given as such or as octets of
the size of a scalar.
-/

namespace Ecdsa.Curve

/-- The integer of a private key, before its range is checked. What is wrong with its octets is not
told. -/
def readPrivateKey (c : Curve) : IntegerForm → Except Error Numeral
  | .number d => .ok d
  | .octets octets =>
    match octets.sized (.exactly (c.orderSize : Int)) with
    | .ok bytes => .ok (.int (BigEndian.decode bytes))
    | .error _ => .error .notAPrivateKey

/-- A private key of the curve. -/
def privateKey (c : Curve) (key : IntegerForm) : Except Error Numeral := do
  let d ← c.readPrivateKey key
  if 0 < d.toInt ∧ d.toInt < c.n then pure d else throw .privateKeyOutOfRange

end Ecdsa.Curve
