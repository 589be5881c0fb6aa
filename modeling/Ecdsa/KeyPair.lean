import Ecdsa.Curve.Arithmetic
import Ecdsa.PrivateKey
import Ecdsa.Secp256k1

/-!
Key pairs: a private key `d` and its public key, the point `d G`.
-/

namespace Ecdsa

variable [PointAddition] [Secp256k1.KeyWriter]

/-- The public key that belongs to a private key. On secp256k1 it is read from its octets. -/
def Curve.publicKey (c : Curve) (d : Int) : Except Error Point :=
  if c.toDomain = Curve.secp256k1.toDomain then Secp256k1.multBase d else c.multBase d

/-- A private key and coordinates, which make a key pair if they are valid together. -/
structure KeyPair where
  privateKey : Numeral
  publicKey : Coordinates
  curve : Curve
deriving BEq, Repr

namespace KeyPair

/-- The private key is in range, and the coordinates are exactly those of its public key. -/
def assertValid (k : KeyPair) : Except Error Unit := do
  let d := k.privateKey.toInt
  if ¬ (0 < d ∧ d < k.curve.n) then throw .privateKeyOutOfRange
  let Q ← k.curve.requireOnCurve k.publicKey
  if Q.IsInfinite then throw .infinitePublicKey
  if Q ≠ (← k.curve.publicKey d) then throw .publicKeyMismatch

/-- A key pair of these parts, valid if `check` asks for it. -/
def make (privateKey : Numeral) (publicKey : Coordinates) (curve : Curve) (check : Bool) :
    Except Error KeyPair := do
  let k : KeyPair := ⟨privateKey, publicKey, curve⟩
  if check then k.assertValid
  return k

/-- The key pair of a private key. -/
def ofPrivateKey (key : IntegerForm) (c : Curve) : Except Error KeyPair := do
  let d ← c.privateKey key
  let Q ← c.publicKey d.toInt
  return ⟨d, Q, c⟩

def publicKeyInteger (k : KeyPair) : Except Error Int :=
  k.curve.keyInteger k.publicKey

def publicKeyOctets (k : KeyPair) (compressed : Bool) : Except Error (List UInt8) :=
  k.curve.encodePoint k.publicKey compressed

end KeyPair

end Ecdsa
