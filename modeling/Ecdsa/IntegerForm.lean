import Ecdsa.Octets
import Ecdsa.Text.Blank
import Ecdsa.Text.DecimalDigit
import Ecdsa.Text.LowerCase

/-!
The forms in which an integer may be given, and the forms in which it is written.

An integer is given as a number or as octets read in big-endian order. A text that starts with
`0x` or `-0x` is a number in hexadecimal, any other is a hexadecimal text of octets.
-/

namespace Ecdsa

-- Powers are those of the core library, whatever else is imported.
attribute [local instance (high)] instPowNat

inductive IntegerForm where
  | number (n : Numeral)
  | octets (octets : Octets)
deriving Repr

instance : Coe Int IntegerForm := ⟨fun i => .number i⟩
instance : Coe Octets IntegerForm := ⟨.octets⟩

namespace IntegerForm

/-- A hexadecimal digit of a number: of either case, or a decimal digit of any script. -/
def digit? (c : Char) : Option Nat :=
  match Hexadecimal.digit? c with
  | some d => some d
  | none => Text.decimalDigit? c

/-- Reads digits on from `n`; one underscore may stand before each of them. -/
def readDigits (n : Nat) : List Char → Option Nat
  | [] => some n
  | [c] => (16 * n + ·) <$> digit? c
  | c :: d :: rest =>
    if c = '_' then
      match digit? d with
      | some value => readDigits (16 * n + value) rest
      | none => none
    else match digit? c with
      | some value => readDigits (16 * n + value) (d :: rest)
      | none => none

/-- A number in hexadecimal after its `0x`: at least one digit. -/
def readNumber (digits : List Char) : Option Nat :=
  if digits.isEmpty then none else readDigits 0 digits

/-- An integer text in lower case, without white space around it. -/
def readTrimmed (text : List Char) : Except Error Int :=
  match text with
  | '0' :: 'x' :: digits => ofNumber (readNumber digits)
  | '-' :: '0' :: 'x' :: digits => ofNumber ((readNumber digits).map fun n => -n)
  | _ => (fun bytes => (BigEndian.decode bytes : Int)) <$> Octets.readHex text
where
  ofNumber : Option Int → Except Error Int
    | some i => .ok i
    | none => .error (.notAnInteger (String.ofList text))

/-- Reads an integer; a number comes back as it was given. -/
def read : IntegerForm → Except Error Numeral
  | number n => .ok n
  | octets (.bytes bs) => .ok (Numeral.int (BigEndian.decode bs))
  | octets (.hex text) => .int <$> readTrimmed (Text.lowerCase (Text.trim text.toList))

def value (form : IntegerForm) : Except Error Int :=
  Numeral.toInt <$> form.read

/-- Grouped hexadecimal, for integers that are not negative. -/
def groupedHex (form : IntegerForm) : Except Error String := do
  let i ← form.value
  if i < 0 then reject (.negativeInteger i) else pure (Hexadecimal.grouped i.toNat)

end IntegerForm

/-- Why there is no byte string of this width. From 2⁶³ on the width is no machine word, just below
a byte string does not fit with its header, and no memory holds 2⁴⁰ bytes. -/
def widthError? (width : Int) : Option Error :=
  if width ≥ 2 ^ (63 : Nat) then some .widthTooLarge
  else if width > 2 ^ (63 : Nat) - 34 then some .tooManyBytes
  else if width ≥ 2 ^ (40 : Nat) then some .outOfMemory
  else none

/-- The integer in exactly `width` bytes, if it fits. -/
def fixedWidth (width : Numeral) (i : Int) : Except Error (List UInt8) :=
  if i < 0 then reject (.negativeInteger i)
  else if BigEndian.bitLength i > width.toInt * 8 then reject (.integerTooLarge width i.toNat)
  else match widthError? width.toInt with
    | some e => .error e
    | none => .ok (BigEndian.encode width.toInt.toNat i.toNat)

/-- The decimal text of an integer that is short enough to have one. -/
def decimal (i : Int) : Except Error String :=
  if HasDecimal i then .ok (toString i) else .error .tooManyDigits

/-- The decimal text of a number, or the name of a truth value. -/
def Numeral.described (n : Numeral) : Except Error String :=
  if HasDecimal n.toInt then .ok n.text else .error .tooManyDigits

/-- The displayed text of a numeral, if it can be written. -/
def Numeral.displayed (n : Numeral) : Except Error String :=
  if ∀ i ∈ n.displayedDecimals, HasDecimal i then .ok n.display else .error .tooManyDigits

end Ecdsa
