import Ecdsa.KeyPair
import Ecdsa.Supply

/-!
New key pairs.
-/

namespace Ecdsa

variable [PointAddition] [Secp256k1.KeyWriter]

/-- The key pair of the private key, or of a fresh one. -/
def KeyPair.generate (key : Option IntegerForm) (c : Curve) : Drawing KeyPair := do
  let key ← match key with
    | some key => pure key
    | none => (fun d => .number (.int d)) <$> drawScalar
  KeyPair.ofPrivateKey key c

/-- The public key integer of the private key, or of a fresh one. -/
def publicKeyIntegerOf (key : Option IntegerForm) (c : Curve) : Drawing Int := do
  let k ← KeyPair.generate key c
  k.publicKeyInteger

end Ecdsa
