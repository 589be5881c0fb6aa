import Ecdsa.PublicKey
import Ecdsa.Signing

/-!
Verification.

A signature (r, s) of the challenge `e` holds under the public key `Q` if `r` is the abscissa of
`(e / s) G + (r / s) Q`, modulo the order.
-/

namespace Ecdsa

variable [PointAddition]

/-- Checks the scalars `r` and `s`, which are in range, for the challenge `e`. -/
def assertEquation (e : Int) (Q : Coordinates) (r s : Int) (c : Curve) : Except Error Unit := do
  let w ← Modular.inverse s c.n
  let u ← c.reduce (e * w)
  let v ← c.reduce (r * w)
  let K ← (← c.sumOfMultiples v Q u c.G).point
  if K.IsInfinite then throw .infiniteEphemeralPoint
  if r ≠ (← c.reduce K.x) then throw .verificationFailed

/-- Fails unless the signature of the digest holds under the key. -/
def assertDigestSigned (digest : Octets) (key : PublicKeyForm) (sig : Signature)
    (hash : HashFunction) : Except Error Unit := do
  sig.assertValid
  let e ← sig.curve.challenge hash digest
  let Q ← sig.curve.publicKeyOf key
  assertEquation e Q sig.r.toInt sig.s.toInt sig.curve

/-- Fails unless the signature of the message holds under the key. -/
def assertSigned (message : Octets) (key : PublicKeyForm) (sig : Signature)
    (hash : HashFunction) : Except Error Unit := do
  let digest ← hash.digestOctets message
  assertDigestSigned digest key sig hash

/-- Whether the signature of the digest holds under the key; whatever goes wrong, it does not. -/
def verifyDigest (digest : Octets) (key : PublicKeyForm) (sig : Signature)
    (hash : HashFunction) : Bool :=
  (assertDigestSigned digest key sig hash).isOk

/-- Whether the signature of the message holds under the key. The message must be readable. -/
def verify (message : Octets) (key : PublicKeyForm) (sig : Signature)
    (hash : HashFunction) : Except Error Bool := do
  let digest ← hash.digestOctets message
  return verifyDigest digest key sig hash

end Ecdsa
