import Ecdsa.BigEndian
import Ecdsa.Error

/-!
Elliptic curves y² = x³ + a x + b over the integers modulo `p`, with a generator of a group of
order `n`, and what it takes for coordinates to be a point of one.
-/

namespace Ecdsa

/-- Domain parameters: field prime, coefficients, generator, its order, and the cofactor. -/
structure Domain where
  name : String
  p : Int
  a : Int
  b : Int
  G : Point
  n : Int
  h : Int
deriving DecidableEq, Repr

/-- A curve may be given by its parameters alone: of such a curve points are checked for their
range, but nothing is computed with them. -/
structure Curve extends Domain where
  hasArithmetic : Bool
deriving Repr

/-- Curves are equal when their parameters are. -/
instance : BEq Curve := ⟨fun c d => c.toDomain = d.toDomain⟩

namespace Curve

/-- How many bytes a coordinate takes. -/
def fieldSize (c : Curve) : Nat :=
  BigEndian.byteLength c.p

/-- How many bytes a scalar takes. -/
def orderSize (c : Curve) : Nat :=
  BigEndian.byteLength c.n

/-- The right-hand side of the equation of the curve. -/
def cubic (c : Curve) (x : Int) : Int :=
  (x * x + c.a) * x + c.b

/-- The coordinates satisfy the equation of the curve modulo `p`. -/
def Satisfies (c : Curve) (Q : Point) : Prop :=
  (Q.y * Q.y - c.cubic Q.x) % c.p = 0

instance (c : Curve) : DecidablePred c.Satisfies := fun Q =>
  inferInstanceAs (Decidable ((Q.y * Q.y - c.cubic Q.x) % c.p = 0))

/-- Whether the point is on the curve, as the one at infinity always is. Coordinates that are no
residues modulo `p` are an error. -/
def contains (c : Curve) (Q : Point) : Except Error Bool :=
  if Q.IsInfinite then .ok true
  else if ¬ (0 < Q.y ∧ Q.y < c.p) then reject (.ordinateOutOfRange Q.y)
  else if ¬ (0 ≤ Q.x ∧ Q.x < c.p) then reject (.abscissaOutOfRange Q.x)
  else if c.hasArithmetic then .ok (decide (c.Satisfies Q))
  else .error .noArithmetic

theorem contains_of_isInfinite (c : Curve) {Q : Point} (h : Q.IsInfinite) :
    c.contains Q = .ok true :=
  if_pos h

theorem contains_eq_ok_true_iff {c : Curve} {Q : Point} :
    c.contains Q = .ok true ↔ Q.IsInfinite ∨
      (0 < Q.y ∧ Q.y < c.p) ∧ (0 ≤ Q.x ∧ Q.x < c.p) ∧ c.hasArithmetic ∧ c.Satisfies Q := by
  unfold contains
  by_cases hQ : Q.IsInfinite
  · simp [hQ]
  by_cases hy : 0 < Q.y ∧ Q.y < c.p
  · by_cases hx : 0 ≤ Q.x ∧ Q.x < c.p
    · by_cases ha : c.hasArithmetic <;> simp [hQ, hy, hx, ha]
    · simp [hQ, hy, hx]
  · simp [hQ, hy]

end Curve

/-- The point of two coordinates. -/
def Coordinates.point : Coordinates → Except Error Point
  | [x, y] => .ok ⟨x.toInt, y.toInt⟩
  | _ => .error .notTwoCoordinates

@[simp] theorem Coordinates.point_coordinates (Q : Point) :
    Coordinates.point Q.coordinates = .ok Q := rfl

/-- The point of the first two coordinates. -/
def Coordinates.firstTwo : Coordinates → Except Error Point
  | x :: y :: _ => .ok ⟨x.toInt, y.toInt⟩
  | _ => .error .missingCoordinate

namespace Curve

def isOnCurve (c : Curve) (Q : Coordinates) : Except Error Bool := do
  c.contains (← Coordinates.point Q)

/-- The point with these coordinates, which must be on the curve. -/
def requireOnCurve (c : Curve) (Q : Coordinates) : Except Error Point := do
  let Q ← Coordinates.point Q
  if ← c.contains Q then pure Q else throw .notOnCurve

theorem requireOnCurve_eq_ok_iff {c : Curve} {Q R : Point} :
    c.requireOnCurve Q = .ok R ↔ c.contains Q = .ok true ∧ R = Q := by
  simp only [requireOnCurve, Coordinates.point_coordinates, bind, Except.bind]
  cases h : c.contains Q with
  | error e => simp
  | ok b => cases b <;> simp [throw, throwThe, MonadExceptOf.throw, pure, Except.pure, eq_comm]

end Curve

end Ecdsa
