import Ecdsa.Hexadecimal
import Ecdsa.Text.Printable

/-!
Quoted texts and quoted byte strings, as they stand in descriptions and error messages.
-/

namespace Ecdsa.Text

def apostrophe : Char := Char.ofNat 0x27
def quotationMark : Char := Char.ofNat 0x22
def backslash : Char := Char.ofNat 0x5c

/-- A text stands between apostrophes, unless these occur in it and quotation marks do not. -/
def quoteFor (hasApostrophe hasQuotationMark : Bool) : Char :=
  if hasApostrophe && !hasQuotationMark then quotationMark else apostrophe

/-- A backslash, a letter and the code point in as many digits as the letter stands for. -/
def escaped (letter : Char) (width code : Nat) : List Char :=
  backslash :: letter :: Hexadecimal.digits Hexadecimal.lowerDigit width code

/-- What is escaped alike in texts and byte strings: quotes, backslashes, tabs and line ends. -/
def commonEscape? (quote : Char) (code : Nat) : Option (List Char) :=
  if code = quote.toNat then some [backslash, quote]
  else if code = 0x5c then some [backslash, backslash]
  else if code = 0x09 then some [backslash, 't']
  else if code = 0x0a then some [backslash, 'n']
  else if code = 0x0d then some [backslash, 'r']
  else none

def quotedChar (quote c : Char) : List Char :=
  match commonEscape? quote c.toNat with
  | some escape => escape
  | none =>
    if isPrintable c then [c]
    else if c.toNat ≤ 0xff then escaped 'x' 2 c.toNat
    else if c.toNat ≤ 0xffff then escaped 'u' 4 c.toNat
    else escaped 'U' 8 c.toNat

def quotedByte (quote : Char) (b : UInt8) : List Char :=
  match commonEscape? quote b.toNat with
  | some escape => escape
  | none =>
    if 32 ≤ b.toNat ∧ b.toNat < 127 then [Char.ofNat b.toNat] else escaped 'x' 2 b.toNat

/-- A text between quotes; what cannot be shown is escaped. -/
def quoted (text : String) : String :=
  let chars := text.toList
  let quote := quoteFor (chars.contains apostrophe) (chars.contains quotationMark)
  String.ofList (quote :: chars.flatMap (quotedChar quote) ++ [quote])

/-- A byte string between quotes after the letter b; all but visible ASCII is escaped. -/
def quotedBytes (bytes : List UInt8) : String :=
  let quote := quoteFor (bytes.contains 0x27) (bytes.contains 0x22)
  String.ofList ('b' :: quote :: bytes.flatMap (quotedByte quote) ++ [quote])

end Ecdsa.Text
