import Ecdsa.ByteStream
import Ecdsa.IntegerForm

/-!
Recoverable signatures: the scalars `r` and `s` in 32 bytes each, and the recovery indicator `v`,
the parity of the ordinate of the ephemeral point.

The compact format is `r`, `s` and one byte for `v`.
-/

namespace Ecdsa

structure RecoverableSignature where
  v : Numeral
  r : List UInt8
  s : List UInt8
deriving BEq, Repr

namespace RecoverableSignature

/-- How many bytes a scalar has. -/
def scalarSize : Nat := 32

/-- How many bytes the compact format has. -/
def compactSize : Nat := 2 * scalarSize + 1

def assertValid (sig : RecoverableSignature) : Except Error Unit := do
  if ¬ (sig.v.toInt = 0 ∨ sig.v.toInt = 1) then throw (.indicatorNotBinary (← sig.v.described))
  if sig.r.length ≠ scalarSize then throw (.wrongComponentSize .r sig.r.length)
  if sig.s.length ≠ scalarSize then throw (.wrongComponentSize .s sig.s.length)

/-- A signature of these parts, valid if `check` asks for it. -/
def make (v : Numeral) (r s : List UInt8) (check : Bool) : Except Error RecoverableSignature := do
  let sig : RecoverableSignature := ⟨v, r, s⟩
  if check then sig.assertValid
  return sig

/-- A valid signature of these numbers. -/
def ofIntegers (v : Numeral) (r s : Int) : Except Error RecoverableSignature := do
  let r ← fixedWidth (.int scalarSize) r
  let s ← fixedWidth (.int scalarSize) s
  make v r s true

def rInteger (sig : RecoverableSignature) : Nat :=
  BigEndian.decode sig.r

def sInteger (sig : RecoverableSignature) : Nat :=
  BigEndian.decode sig.s

/-- The indicator in one byte. -/
def indicatorByte (v : Int) : Except Error UInt8 :=
  if v < 0 then .error .negativeByte
  else if v > 255 then .error .byteTooLarge
  else .ok (UInt8.ofNat v.toNat)

/-- The signature in the compact format, valid if `check` asks for it. -/
def serialize (sig : RecoverableSignature) (check : Bool) : Except Error (List UInt8) := do
  if check then sig.assertValid
  let v ← indicatorByte sig.v.toInt
  return sig.r ++ sig.s ++ [v]

/-- The signature that the bytes of the compact format hold. -/
def ofCompact (bytes : List UInt8) (check : Bool) : Except Error RecoverableSignature :=
  if bytes.length ≠ compactSize then
    .error (.wrongSignatureLength bytes.length compactSize)
  else
    make (.int (bytes.getLastD 0).toNat) (bytes.take scalarSize)
      ((bytes.drop scalarSize).take scalarSize) check

/-- Reads a signature off a stream, which moves on whether the signature is valid or not. -/
def parse (stream : ByteStream) (check : Bool) :
    Except Error RecoverableSignature × ByteStream :=
  let (bytes, rest) := stream.take compactSize
  (ofCompact bytes check, rest)

/-- Reads a signature off octets, of which those after it are not looked at. -/
def parseOctets (octets : Octets) (check : Bool) : Except Error RecoverableSignature := do
  let stream ← ByteStream.ofOctets octets
  (parse stream check).1

end RecoverableSignature

end Ecdsa
