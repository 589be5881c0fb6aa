import Ecdsa.Curve.Basic

/-!
Signatures: two scalars of a curve.
-/

namespace Ecdsa

structure Signature where
  r : Numeral
  s : Numeral
  curve : Curve
deriving BEq, Repr

namespace Signature

/-- The scalar is in range. -/
def checkScalar (c : Curve) (component : Component) (value : Numeral) : Except Error Unit :=
  if 0 < value.toInt ∧ value.toInt < c.n then .ok ()
  else reject (.componentOutOfRange component value)

def assertValid (sig : Signature) : Except Error Unit := do
  checkScalar sig.curve .r sig.r
  checkScalar sig.curve .s sig.s

/-- A signature of these parts, valid if `check` asks for it. -/
def make (r s : Numeral) (curve : Curve) (check : Bool) : Except Error Signature := do
  let sig : Signature := ⟨r, s, curve⟩
  if check then sig.assertValid
  return sig

end Signature

end Ecdsa
