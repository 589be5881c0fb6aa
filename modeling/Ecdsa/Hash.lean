import Ecdsa.Hash.Blake2b
import Ecdsa.Hash.Sha256
import Ecdsa.Octets

/-!
The hash functions that messages are digested with.
-/

namespace Ecdsa

inductive HashFunction where
  | blake2b (size : Nat)
  | sha256
deriving DecidableEq, Repr

namespace HashFunction

/-- Digests of messages have this many bytes unless another hash function is chosen. -/
def defaultSize : Nat := 32

def blake2b256 : HashFunction := blake2b defaultSize

def digestSize : HashFunction → Nat
  | blake2b size => size
  | sha256 => 32

def digest : HashFunction → List UInt8 → List UInt8
  | blake2b size => Blake2b.digest size
  | sha256 => Sha256.digest

/-- The digest of the octets of a message. -/
def digestOctets (hash : HashFunction) (message : Octets) : Except Error (List UInt8) :=
  hash.digest <$> message.read

end HashFunction

end Ecdsa
