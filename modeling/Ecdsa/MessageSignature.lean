import Ecdsa.PublicKey
import Ecdsa.Recovery
import Ecdsa.RecoverableSignature
import Ecdsa.Signing

/-!
Recoverable signatures of messages.

The recovery indicator is found by trial: it is the first recovery id with which the key of the
signer is recovered. If there is none, the message is signed anew.
-/

namespace Ecdsa

variable [PointAddition] [Secp256k1.KeyWriter]

/-- The digest of a message, or the message itself where it already is a digest. -/
def messageDigest (message : Octets) (hashFirst : Bool) : Except Error (List UInt8) :=
  if hashFirst then HashFunction.blake2b256.digestOctets message
  else message.sized (.exactly (.int HashFunction.defaultSize))

/-- What comes of trying recovery ids: the one that recovers the key, or how many others recover
some key. -/
inductive Trial where
  | found (id : Int)
  | mismatched (candidates : Nat)
deriving DecidableEq, Repr

/-- Tries the recovery ids in turn, `candidates` being the number of other keys so far. -/
def tryRecoveryIds (key r s : Int) (digest : List UInt8) (c : Curve) (candidates : Nat) :
    List Int → Except Error Trial
  | [] => .ok (.mismatched candidates)
  | id :: ids => do
    match ← recoverKeyInteger id r s (some digest) c with
    | none => tryRecoveryIds key r s digest c candidates ids
    | some candidate =>
      if candidate = key then pure (.found id)
      else tryRecoveryIds key r s digest c (candidates + 1) ids

/-- How often a message is signed before no recovery id is found. -/
def signAttempts : Nat := 32

/-- Signs until a recovery id is found, with so many attempts left; `mismatches` counts those
attempts that recovered only other keys. -/
def trySignatures (k : KeyPair) (key : Int) (digest : List UInt8) (mismatches : Nat) :
    (left : Nat) → Drawing RecoverableSignature
  | 0 => throw (.noRecoveryId signAttempts mismatches)
  | left + 1 => do
    let sig ← signDigest digest (.number k.privateKey) none k.curve .blake2b256
    match ← tryRecoveryIds key sig.r.toInt sig.s.toInt digest k.curve 0 [0, 1] with
    | .found id => RecoverableSignature.ofIntegers (.int id) sig.r.toInt sig.s.toInt
    | .mismatched candidates =>
      record (.recoveryIdMissing (signAttempts - left) candidates)
      trySignatures k key digest (if candidates = 0 then mismatches else mismatches + 1) left

/-- Who signs: a key pair, or the private key of one on secp256k1. -/
inductive Signer where
  | keyPair (k : KeyPair)
  | privateKey (key : IntegerForm)
deriving Repr

/-- The valid key pair of the signer. -/
def Signer.validKeyPair : Signer → Except Error KeyPair
  | keyPair k => do
    k.assertValid
    return k
  | privateKey key => KeyPair.ofPrivateKey key .secp256k1

/-- The recoverable signature of a message. -/
def signMessage (message : Octets) (signer : Signer) (hashFirst : Bool) :
    Drawing RecoverableSignature := do
  let k ← signer.validKeyPair
  let digest ← messageDigest message hashFirst
  let key ← k.publicKeyInteger
  trySignatures k key digest 0 signAttempts

/-- The forms in which a recoverable signature may be given. -/
inductive SignatureForm where
  | parts (sig : RecoverableSignature)
  | octets (octets : Octets)
  | stream (stream : ByteStream)
deriving Repr

/-- The valid signature, and the form after it was read. -/
def SignatureForm.read : SignatureForm → Except Error RecoverableSignature × SignatureForm
  | parts sig => ((fun _ => sig) <$> sig.assertValid, parts sig)
  | octets o => (RecoverableSignature.parseOctets o true, octets o)
  | stream s =>
    let (sig, rest) := RecoverableSignature.parse s true
    (sig, stream rest)

/-- The public key integer that a signature of a message recovers. -/
def recoverSignerOf (sig : RecoverableSignature) (message : Octets) (hashFirst : Bool) (c : Curve) :
    Except Error Int := do
  let digest ← messageDigest message hashFirst
  match ← recoverKeyInteger sig.v.toInt sig.rInteger sig.sInteger (some digest) c with
  | some key => pure key
  | none => throw .nothingRecovered

/-- The public key integer of the signer of a message, and the signature after it was read. -/
def recoverSigner (form : SignatureForm) (message : Octets) (hashFirst : Bool) (c : Curve) :
    Except Error Int × SignatureForm :=
  let (sig, rest) := form.read
  (sig.bind (recoverSignerOf · message hashFirst c), rest)

end Ecdsa
