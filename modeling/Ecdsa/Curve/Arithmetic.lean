import Ecdsa.Curve.GeneratorTable
import Ecdsa.IntegerForm

/-!
Sums and multiples of points of a curve.

Points are checked before anything is computed, and scalars are reduced modulo the order of the
generator. Only `unreducedMultiple` does neither. Multiples of the generator come from its table.

Whatever is computed must turn out to be infinite or on the curve.
-/

namespace Ecdsa.Curve

/-- The affine form of a result. -/
def affine (c : Curve) (P : Jacobian) : Except Error Point := do
  let R ← P.toPoint c.p
  if P.Z = 0 ∨ c.Satisfies R then pure R else throw .resultNotOnCurve

/-- The remainder of a scalar modulo the order, with the sign of the order. -/
def reduce (c : Curve) (m : Int) : Except Error Int :=
  if c.n = 0 then .error .divisionByZero else .ok (m.fmod c.n)

variable [PointAddition]

/-- The sum of two points; where one is infinite it is the other, as it was given. -/
def add (c : Curve) (Q₁ Q₂ : Coordinates) : Except Error Coordinates := do
  let P₁ ← c.requireOnCurve Q₁
  let P₂ ← c.requireOnCurve Q₂
  if P₂.IsInfinite then return Q₁
  if P₁.IsInfinite then return Q₂
  return (← c.affine (PointAddition.sum c.p c.a (.ofPoint P₁) (.ofPoint P₂)))

/-- `m` times a point that was checked, where `m` is reduced. -/
def multiple (c : Curve) (m : Int) (Q : Point) : Except Error Jacobian :=
  if Q.IsInfinite ∨ m = 0 then .ok .infinity
  else if m ≠ 1 ∧ Q = c.G then Jacobian.tableMultiple c.p c.a m <$> c.generatorTable
  else .ok (.multiple c.p c.a m Q)

/-- `u H + v G` for points that were checked, neither of them infinite, and scalars that are
reduced and not zero. -/
def jointMultiple (c : Curve) (u : Int) (H : Point) (v : Int) (G : Point) :
    Except Error Jacobian := do
  if G = c.G ∨ H = c.G then let _ ← c.generatorTable
  let joint := if G = c.G ∧ H = c.G then none else Jacobian.jointMultiple? c.p c.a u H v G
  match joint with
  | some P => pure P
  | none => return PointAddition.sum c.p c.a (← c.multiple v G) (← c.multiple u H)

/-- `m` times the generator. -/
def multBase (c : Curve) (m : Int) : Except Error Point := do
  let G ← c.requireOnCurve c.G
  c.affine (← c.multiple (← c.reduce m) G)

/-- `m` times the point. One times a point is the point as it was given, except for the
generator. -/
def mult (c : Curve) (m : IntegerForm) (Q : Coordinates) : Except Error Coordinates := do
  let P ← c.requireOnCurve Q
  let m ← c.reduce (← m.value)
  let R ← c.affine (← c.multiple m P)
  return if m = 1 ∧ ¬ P.IsInfinite ∧ P ≠ c.G then Q else R

/-- `u H + v G`, the sum of two multiples. -/
def sumOfMultiples (c : Curve) (u : IntegerForm) (H : Coordinates) (v : IntegerForm)
    (G : Coordinates) : Except Error Coordinates := do
  let P ← c.requireOnCurve H
  let Q ← c.requireOnCurve G
  let u ← c.reduce (← u.value)
  let v ← c.reduce (← v.value)
  if u = 0 ∨ P.IsInfinite then c.mult v G
  else if v = 0 ∨ Q.IsInfinite then c.mult u H
  else return (← c.affine (← c.jointMultiple u P v Q))

/-- `m` times the point, neither of them checked or reduced before. One times a point is the point
as it was given. -/
def unreducedMultiple (c : Curve) (m : Int) (Q : Coordinates) : Except Error Coordinates := do
  if m < 0 then throw (.negativeScalar m)
  if m = 0 then return Point.infinity
  let P ← Q.firstTwo
  if P.IsInfinite then return Point.infinity
  if ¬ c.hasArithmetic then throw .noArithmetic
  let R ← c.affine (.multiple c.p c.a m P)
  return if m = 1 then Q.take 2 else R

/-- The order of the generator times the point is infinite. -/
def isInSubgroup (c : Curve) (Q : Coordinates) : Except Error Bool := do
  let R ← (← c.unreducedMultiple c.n Q).point
  return decide R.IsInfinite

end Ecdsa.Curve
