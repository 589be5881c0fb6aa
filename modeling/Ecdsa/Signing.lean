import Ecdsa.Curve.Arithmetic
import Ecdsa.Hash
import Ecdsa.PrivateKey
import Ecdsa.Signature
import Ecdsa.Supply

/-!
Signing.

With the nonce `k`, the abscissa `r` of `k G` and the challenge `e`, the signature under the private
key `d` is `r` and `s = (e + r d) / k`, all modulo the order. A nonce for which `r` or `s` is zero
is of no use; a drawn one is then replaced by the next.
-/

namespace Ecdsa

variable [PointAddition]

/-- The octets of a digest as a scalar. -/
def Curve.challenge (c : Curve) (hash : HashFunction) (digest : Octets) : Except Error Int := do
  let bytes ← digest.sized (.exactly (hash.digestSize : Int))
  c.reduce (BigEndian.decode bytes)

/-- The signature of a challenge `e` under a private key `d` with the nonce `k`. -/
def signWithNonce (e d k : Int) (c : Curve) : Except Error Signature := do
  let K ← c.multBase k
  let r ← c.reduce K.x
  if r = 0 then throw (.zeroComponent .r)
  let s ← c.reduce ((← Modular.inverse k c.n) * (e + r * d))
  if s = 0 then throw (.zeroComponent .s)
  Signature.make r s c true

/-- How many nonces are drawn before signing is given up. -/
def nonceAttempts : Nat := 32

/-- Signs with the first drawn nonce that is of use, among as many as are left. -/
def tryNonces (e d : Int) (c : Curve) : (left : Nat) → Drawing Signature
  | 0 => throw (.noUsableNonce nonceAttempts)
  | left + 1 => do
    let k ← drawScalar
    match signWithNonce e d k c with
    | .ok sig => pure sig
    | .error cause =>
      if cause.kind = .unsuccessful then
        record (.nonceDiscarded (nonceAttempts - left) cause)
        tryNonces e d c left
      else throw cause

/-- Signs a digest, with the given nonce or with drawn ones. -/
def signDigest (digest : Octets) (key : IntegerForm) (nonce : Option IntegerForm) (c : Curve)
    (hash : HashFunction) : Drawing Signature := do
  let d ← c.privateKey key
  let e ← c.challenge hash digest
  match nonce with
  | some k =>
    let k ← c.privateKey k
    signWithNonce e d.toInt k.toInt c
  | none => tryNonces e d.toInt c nonceAttempts

/-- Signs the digest of a message. -/
def sign (message : Octets) (key : IntegerForm) (nonce : Option IntegerForm) (c : Curve)
    (hash : HashFunction) : Drawing Signature := do
  let digest ← hash.digestOctets message
  signDigest digest key nonce c hash

end Ecdsa
