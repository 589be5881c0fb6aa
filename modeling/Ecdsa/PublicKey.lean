import Ecdsa.KeyPair

/-!
The forms in which a public key may be given.
-/

namespace Ecdsa

inductive PublicKeyForm where
  | keyPair (k : KeyPair)
  | coordinates (Q : Coordinates)
  | integer (key : Int)
  | octets (octets : Octets)
deriving Repr

instance : Coe Point PublicKeyForm := ⟨fun Q => .coordinates Q⟩

/-- The coordinates of a point that is not infinite. -/
def requireFinite (P : Point) (Q : Coordinates) : Except Error Coordinates :=
  if P.IsInfinite then .error .infiniteKey else .ok Q

/-- The coordinates of a public key on the curve. Those of a key pair are taken as they are. -/
def Curve.publicKeyOf (c : Curve) : PublicKeyForm → Except Error Coordinates
  | .keyPair k => if k.curve == c then .ok k.publicKey else .error (.curveMismatch k.curve.name)
  | .coordinates Q => do requireFinite (← c.requireOnCurve Q) Q
  | .integer key => do
    let Q ← c.pointOfKeyInteger key
    requireFinite Q Q
  | .octets octets => do
    let Q ← c.decodePoint octets
    requireFinite Q Q

end Ecdsa
