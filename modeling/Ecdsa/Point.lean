import Ecdsa.Numeral

/-!
Points in affine coordinates, and coordinates as callers pass them: numerals, of which there should
be two.
-/

namespace Ecdsa

@[ext]
structure Point where
  x : Int
  y : Int
deriving DecidableEq, Repr

namespace Point

/-- A point whose ordinate is zero stands for the point at infinity, whatever its abscissa. -/
def IsInfinite (Q : Point) : Prop :=
  Q.y = 0

instance : DecidablePred IsInfinite := fun Q =>
  inferInstanceAs (Decidable (Q.y = 0))

/-- The point at infinity as results show it. -/
def infinity : Point := ⟨5, 0⟩

theorem isInfinite_infinity : infinity.IsInfinite := rfl

end Point

/-- Coordinates in any number. -/
abbrev Coordinates := List Numeral

def Point.coordinates (Q : Point) : Coordinates :=
  [.int Q.x, .int Q.y]

instance : Coe Point Coordinates := ⟨Point.coordinates⟩

end Ecdsa
