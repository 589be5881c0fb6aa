import Ecdsa.Curve.Basic

/-!
The curves known by name.
-/

namespace Ecdsa.Curve

def secp256k1 : Curve where
  name := "secp256k1"
  p := 0xfffffffffffffffffffffffffffffffffffffffffffffffffffffffefffffc2f
  a := 0
  b := 7
  G := ⟨0x79be667ef9dcbbac55a06295ce870b07029bfcdb2dce28d959f2815b16f81798,
    0x483ada7726a3c4655da4fbfc0e1108a8fd17b448a68554199c47d08ffb10d4b8⟩
  n := 0xfffffffffffffffffffffffffffffffebaaedce6af48a03bbfd25e8cd0364141
  h := 1
  hasArithmetic := true

def secp256r1 : Curve where
  name := "secp256r1"
  p := 0xffffffff00000001000000000000000000000000ffffffffffffffffffffffff
  a := -3
  b := 0x5ac635d8aa3a93e7b3ebbd55769886bc651d06b0cc53b0f63bce3c3e27d2604b
  G := ⟨0x6b17d1f2e12c4247f8bce6e563a440f277037d812deb33a0f4a13945d898c296,
    0x4fe342e2fe1a7f9b8ee7eb4a7c0f9e162bce33576b315ececbb6406837bf51f5⟩
  n := 0xffffffff00000000ffffffffffffffffbce6faada7179e84f3b9cac2fc632551
  h := 1
  hasArithmetic := true

/-- In the order of their names. -/
def named : List Curve := [secp256k1, secp256r1]

def ofName? (name : String) : Option Curve :=
  named.find? (·.name == name)

end Ecdsa.Curve
