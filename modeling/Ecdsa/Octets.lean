import Ecdsa.BigEndian
import Ecdsa.Error

/-!
Octets: bytes, or a hexadecimal text of them.

In a text, white space may stand before every pair of digits, but not inside a pair.
-/

namespace Ecdsa

inductive Octets where
  | bytes (bytes : List UInt8)
  | hex (text : String)
deriving Repr

namespace Octets

/-- The ASCII white space: space, tab, line feed, vertical tab, form feed, carriage return. -/
def isHexBlank (c : Char) : Bool :=
  c.toNat == 32 || (9 ≤ c.toNat && c.toNat ≤ 13)

/-- Reads pairs of digits; `position` is that of the first character. -/
def readPairs (position : Nat) : List Char → Except Error (List UInt8)
  | [] => .ok []
  | c :: rest =>
    if isHexBlank c then readPairs (position + 1) rest
    else match Hexadecimal.digit? c, rest with
      | none, _ => .error (.hexDigitExpected position)
      | some _, [] => .error (.hexDigitExpected (position + 1))
      | some high, d :: rest' =>
        match Hexadecimal.digit? d with
        | none => .error (.hexDigitExpected (position + 1))
        | some low => (UInt8.ofNat (16 * high + low) :: ·) <$> readPairs (position + 2) rest'

/-- Reads a hexadecimal text. A character beyond ASCII is reported before anything else. -/
def readHex (text : List Char) : Except Error (List UInt8) :=
  match text.findIdx? (128 ≤ ·.toNat) with
  | some position => .error (.hexDigitExpected position)
  | none => readPairs 0 text

def read : Octets → Except Error (List UInt8)
  | bytes bs => .ok bs
  | hex text => readHex text.toList

/-- The bytes, if there are as many as the rule allows. -/
def sized (rule : SizeRule) (octets : Octets) : Except Error (List UInt8) := do
  let bs ← octets.read
  if rule.allows bs.length then pure bs else reject (.wrongSize bs.length rule)

end Octets

instance : Coe (List UInt8) Octets := ⟨Octets.bytes⟩

end Ecdsa
