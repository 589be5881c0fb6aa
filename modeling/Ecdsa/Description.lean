import Ecdsa.KeyPair
import Ecdsa.RecoverableSignature
import Ecdsa.Signature

/-!
Values described in text. The private key of a key pair is not shown.
-/

namespace Ecdsa

/-- Coordinates between parentheses; a single one is followed by a comma. -/
def Coordinates.describe (Q : Coordinates) : Except Error String := do
  let entries ← Q.mapM Numeral.described
  match entries with
  | [x] => return "(" ++ x ++ ",)"
  | _ => return "(" ++ ", ".intercalate entries ++ ")"

def Curve.describe (c : Curve) : Except Error String := do
  let p ← decimal c.p
  let a ← decimal c.a
  let b ← decimal c.b
  let G ← Coordinates.describe c.G
  let n ← decimal c.n
  let h ← decimal c.h
  return s!"Curve(name={Text.quoted c.name}, p={p}, a={a}, b={b}, G={G}, n={n}, h={h})"

/-- The parameters of the curve, one a line. -/
def Curve.summary (c : Curve) : Except Error String := do
  let hex (i : Int) := (i : IntegerForm).groupedHex
  let p ← hex c.p
  let a ← (c.a : Numeral).displayed
  let b ← (c.b : Numeral).displayed
  let x ← hex c.G.x
  let y ← hex c.G.y
  let n ← hex c.n
  let h ← decimal c.h
  return "\n".intercalate [s!"Curve {c.name}", s!" p   = {p}", s!" a   = {a}", s!" b   = {b}",
    s!" x_G = {x}", s!" y_G = {y}", s!" n   = {n}", s!" h   = {h}"]

def KeyPair.describe (k : KeyPair) : Except Error String := do
  let Q ← Coordinates.describe k.publicKey
  let c ← k.curve.describe
  return s!"KeyPair(pub_key={Q}, ec={c})"

def Signature.describe (sig : Signature) : Except Error String := do
  let r ← sig.r.described
  let s ← sig.s.described
  let c ← sig.curve.describe
  return s!"Sig(r={r}, s={s}, ec={c})"

def RecoverableSignature.describe (sig : RecoverableSignature) : Except Error String := do
  let v ← sig.v.described
  return s!"SignatureData(v={v}, r={Text.quotedBytes sig.r}, s={Text.quotedBytes sig.s})"

end Ecdsa
