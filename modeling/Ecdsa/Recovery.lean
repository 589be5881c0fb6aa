import Ecdsa.Curve.Arithmetic
import Ecdsa.Curve.Ordinate
import Ecdsa.Hash
import Ecdsa.PointEncoding

/-!
Recovery of the public key from a signature (r, s) of the digest `e`.

The point `K` with abscissa `r` and an ordinate of given parity has the key `(s K - e G) / r`. There
may be no such point, or no key that belongs to it.
-/

namespace Ecdsa

variable [PointAddition]

/-- The ephemeral point with abscissa `r`, or `r` plus a multiple of the order where the upper bits
of the recovery id ask for it; its lowest bit is the parity of the ordinate. -/
def ephemeralPoint? (id r : Int) (c : Curve) : Except Error (Option Point) :=
  let x := r + id / 2 * c.n
  if x ≥ c.p then .ok none
  else match c.ordinate x (id % 2) with
    | .ok y => .ok (some ⟨x, y⟩)
    | .error e => if e.kind = .rejected then .ok none else .error e

/-- The public key with the ephemeral point `K`, if there is one. -/
def keyOfEphemeralPoint? (K : Point) (e r s : Int) (c : Curve) : Except Error (Option Point) := do
  if ¬ (← c.isInSubgroup K) then return none
  if (← c.reduce r) = 0 then return none
  let minusE ← c.reduce (-e)
  let rInverse ← Modular.inverse r c.n
  let u ← c.reduce (rInverse * s)
  let v ← c.reduce (rInverse * minusE)
  let Q ← (← c.sumOfMultiples u K v c.G).point
  return if Q.IsInfinite then none else some Q

/-- The key recovered with a recovery id, if there is one. The arguments are not checked. -/
def recoverUnchecked (id e r s : Int) (c : Curve) : Except Error (Option Point) := do
  match ← ephemeralPoint? id r c with
  | none => return none
  | some K => keyOfEphemeralPoint? K e r s c

/-- The recovery id is a parity, and the scalars are not negative. -/
def assertRecoverable (id r s : Int) : Except Error Unit := do
  if ¬ (id = 0 ∨ id = 1) then throw (.recoveryIdNotBinary (← decimal id))
  if r < 0 then reject (.negativeComponent .r r)
  if s < 0 then reject (.negativeComponent .s s)

/-- The public key recovered from the signature of a digest, if there is one. -/
def recoverPoint (id r s : Int) (digest : Option Octets) (c : Curve) :
    Except Error (Option Point) := do
  assertRecoverable id r s
  match digest with
  | none => throw .missingMessageHash
  | some digest =>
    let e := BigEndian.decode (← digest.read)
    recoverUnchecked id e r s c

/-- The public key integer recovered from the signature of a digest, if there is one. -/
def recoverKeyInteger (id r s : Int) (digest : Option Octets) (c : Curve) :
    Except Error (Option Int) := do
  match ← recoverPoint id r s digest c with
  | none => return none
  | some Q => some <$> c.keyInteger Q

end Ecdsa
