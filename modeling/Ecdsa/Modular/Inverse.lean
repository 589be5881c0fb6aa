import Ecdsa.Error

/-!
Inverses modulo a number, by the extended Euclidean algorithm.
-/

namespace Ecdsa.Modular

/-- The greatest common divisor of `r₀` and `r₁`, and the factor that goes with it when `t₀` and
`t₁` are those of `r₀` and `r₁`. -/
def euclid (r₀ r₁ : Nat) (t₀ t₁ : Int) : Nat × Int :=
  if r₁ = 0 then (r₀, t₀) else euclid r₁ (r₀ % r₁) t₁ (t₀ - (r₀ / r₁ : Nat) * t₁)
termination_by r₁
decreasing_by exact Nat.mod_lt _ (by omega)

/-- The inverse of `a` modulo `m`, with the sign of `m`, if they have no common divisor. -/
def inverse? (m a : Int) : Option Int :=
  let (divisor, factor) := euclid m.natAbs (a % m).toNat 0 1
  if divisor = 1 then some (factor.fmod m) else none

/-- The inverse of `a` modulo `m`; that zero has none is an error of its own. -/
def inverse (a : Int) (m : Numeral) : Except Error Int :=
  if m.toInt = 0 then throw .divisionByZero
  else if a % m.toInt = 0 then reject (.noInverseOfZero m)
  else match inverse? m.toInt a with
    | some i => pure i
    | none => throw .notInvertible

end Ecdsa.Modular
