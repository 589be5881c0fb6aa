import Ecdsa.Modular.Inverse
import Ecdsa.SignedDigits

/-!
The group of a curve in Jacobian coordinates: (X, Y, Z) stands for the point (X / Z², Y / Z³), and
for the one at infinity if Z is zero. Coordinates are reduced modulo `p`, but those of a point that
was given stand as they were given, and those of its opposite may be negative.

The sums depend on the coefficient `a` alone: they are those of whichever curve with this `a`
the points lie on.

Whether two points are equal, so that their sum is a double, is decided modulo `p`, unless both have
Z = 1: those are equal only if their coordinates are the same integers. Otherwise the chord through
them makes the sum infinite.
-/

namespace Ecdsa

@[ext]
structure Jacobian where
  X : Int
  Y : Int
  Z : Int
deriving DecidableEq, Repr

namespace Jacobian

def infinity : Jacobian := ⟨0, 0, 0⟩

def ofPoint (Q : Point) : Jacobian :=
  ⟨Q.x, Q.y, 1⟩

def neg (P : Jacobian) : Jacobian :=
  ⟨P.X, -P.Y, P.Z⟩

def reduced (p : Int) (P : Jacobian) : Jacobian :=
  ⟨P.X % p, P.Y % p, P.Z % p⟩

/-- The double of a point, by the tangent. -/
def double (p a : Int) (P : Jacobian) : Jacobian :=
  let Y₂ := P.Y * P.Y % p
  if P.Z = 0 ∨ Y₂ = 0 then infinity
  else
    let Z₂ := P.Z * P.Z % p
    let S := 4 * P.X * Y₂ % p
    let M := (3 * P.X * P.X + a * (Z₂ * Z₂)) % p
    let X := (M * M - 2 * S) % p
    ⟨X, (M * (S - X) - 8 * (Y₂ * Y₂)) % p, 2 * P.Y * P.Z % p⟩

/-- The difference of the abscissas of two points, brought to a common denominator. -/
def run (p : Int) (P Q : Jacobian) : Int :=
  (Q.X * (P.Z * P.Z % p) - P.X * (Q.Z * Q.Z % p)) % p

/-- Twice the difference of their ordinates, brought to a common denominator. -/
def rise (p : Int) (P Q : Jacobian) : Int :=
  2 * (Q.Y * P.Z * (P.Z * P.Z % p) - P.Y * Q.Z * (Q.Z * Q.Z % p)) % p

/-- The third point of the chord, mirrored; it is infinite if the abscissas are the same. -/
def chord (p : Int) (P Q : Jacobian) : Jacobian :=
  let H := run p P Q
  let R := rise p P Q
  let I := 4 * (H * H) % p
  let J := H * I % p
  let V := P.X * (Q.Z * Q.Z % p) * I % p
  let X := (R * R - J - 2 * V) % p
  ⟨X, (R * (V - X) - 2 * (P.Y * Q.Z * (Q.Z * Q.Z % p)) * J) % p, 2 * P.Z * Q.Z * H % p⟩

/-- The same for points with the same Z. -/
def levelChord (p : Int) (P Q : Jacobian) : Jacobian :=
  let A := (Q.X - P.X) * (Q.X - P.X) % p
  let B := P.X * A % p
  let C := Q.X * A % p
  let X := ((Q.Y - P.Y) * (Q.Y - P.Y) - B - C) % p
  ⟨X, ((Q.Y - P.Y) * (B - X) - P.Y * (C - B)) % p, P.Z * (Q.X - P.X) % p⟩

/-- The points are equal modulo `p`. -/
def Coincides (p : Int) (P Q : Jacobian) : Prop :=
  run p P Q = 0 ∧ rise p P Q = 0

instance (p : Int) (P Q : Jacobian) : Decidable (Coincides p P Q) :=
  inferInstanceAs (Decidable (run p P Q = 0 ∧ rise p P Q = 0))

/-- The sum of two points: by the tangent if they are found equal, by the chord if not. -/
def add (p a : Int) (P Q : Jacobian) : Jacobian :=
  if P.Z = 0 then Q.reduced p
  else if Q.Z = 0 then P.reduced p
  else if P.Z = 1 ∧ Q.Z = 1 then
    if P = Q then double p a P else chord p P Q
  else if Coincides p P Q then
    double p a (if Q.Z = 1 then Q else P)
  else if P.Z = Q.Z then levelChord p P Q
  else if P.Z = 1 then chord p Q P
  else chord p P Q

end Jacobian

/-- A way to compute sums of points. Multiples, and all that is made of them, are computed with
whichever is given. -/
class PointAddition where
  sum : (p a : Int) → Jacobian → Jacobian → Jacobian

/-- Sums are computed by `Jacobian.add` unless another way is given. -/
instance standardAddition : PointAddition := ⟨Jacobian.add⟩

namespace Jacobian

/-- The affine point. -/
def toPoint (p : Int) (P : Jacobian) : Except Error Point :=
  if P.Z = 0 then .ok .infinity
  else if P.Z = 1 then .ok ⟨P.X, P.Y⟩
  else match Modular.inverse? p P.Z with
    | none => .error .notInvertible
    | some z =>
      let z₂ := z * z % p
      .ok ⟨P.X * z₂ % p, P.Y * z₂ * z % p⟩

variable [PointAddition]

/-- Adds the point that often: once, not at all, or its opposite. -/
def addSigned (p a : Int) (P Q : Jacobian) : SignedDigit → Jacobian
  | .minus => PointAddition.sum p a P Q.neg
  | .zero => P
  | .plus => PointAddition.sum p a P Q

/-- `m` times the point, doubling and adding along the digits. One times a point is the point as it
was given. -/
def multiple (p a m : Int) (Q : Point) : Jacobian :=
  if m = 1 then ofPoint Q
  else (SignedDigit.digits m).foldr
    (fun digit P => addSigned p a (double p a P) (ofPoint Q) digit) infinity

/-- `m` times a point, from a table of its doublings. -/
def tableMultiple (p a m : Int) (table : List Point) : Jacobian :=
  if m = 1 then (table.head?.map ofPoint).getD infinity
  else (table.zip (SignedDigit.digits m)).foldl
    (fun P (D, digit) => addSigned p a P (ofPoint D) digit) infinity

/-- Doubles the sum and adds to it the points `G` and `H`, each as often as its digit says. The
sum of their opposites and the difference of the two are given. -/
def jointStep (p a : Int) (G H minusBoth difference : Jacobian)
    (digits : SignedDigit × SignedDigit) (P : Jacobian) : Jacobian :=
  let P := double p a P
  match digits with
  | (.zero, d) => addSigned p a P H d
  | (d, .zero) => addSigned p a P G d
  | (.plus, .plus) => PointAddition.sum p a P minusBoth.neg
  | (.plus, .minus) => PointAddition.sum p a P difference
  | (.minus, .plus) => PointAddition.sum p a P difference.neg
  | (.minus, .minus) => PointAddition.sum p a P minusBoth

/-- `u` times the first point plus `v` times the second, in one pass over the digits of both, unless
the points are opposite. -/
def jointMultiple? (p a u : Int) (H : Point) (v : Int) (G : Point) : Option Jacobian :=
  let H := ofPoint H
  let G := ofPoint G
  let minusBoth := PointAddition.sum p a G.neg H.neg
  let difference := PointAddition.sum p a G H.neg
  if minusBoth.Z = 0 then none
  else some ((SignedDigit.pair (SignedDigit.digits v) (SignedDigit.digits u)).foldr
    (jointStep p a G H minusBoth difference) infinity)

end Jacobian

end Ecdsa
