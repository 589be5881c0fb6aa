import Ecdsa.Modular.Power

/-!
Square roots modulo an odd prime `p`.

With `p - 1 = 2 ^ e * q` and `q` odd, the root of `a` is `a ^ ((q + 1) / 2)` up to a power of
`w = z ^ q`, where `z` is no square. The correction keeps `r * r = a * t`, halving the order of `t`
until `t` is one.
-/

namespace Ecdsa.Modular

-- Powers are those of the core library, whatever else is imported.
attribute [local instance (high)] instPowNat

/-- The exponent of two in `n`, and the rest of `n`. -/
def splitTwos (n : Nat) : Nat × Nat :=
  if n = 0 ∨ n % 2 = 1 then (0, n)
  else
    let (e, q) := splitTwos (n / 2)
    (e + 1, q)
termination_by n

/-- The first number from `z` on whose power to `(p - 1) / 2` is minus one, within so many tries. -/
def nonSquare (p : Int) : (tries : Nat) → (z : Int) → Int
  | 0, z => z
  | tries + 1, z =>
    if power p z ((p - 1) / 2).toNat = p - 1 then z else nonSquare p tries (z + 1)

/-- Brings `t`, whose order divides `2 ^ k`, to one, where `w` is a primitive root of unity of
order `2 ^ (k + 1)`; the answer is the corrected `r`. -/
def correct (p : Int) : (k : Nat) → (w t r : Int) → Int
  | 0, _, _, r => r
  | k + 1, w, t, r =>
    let w₂ := w * w % p
    if power p t (2 ^ k) = 1 then correct p k w₂ t r
    else correct p k w₂ (t * w₂ % p) (r * w % p)

/-- The square root of `a` if `a` has one, and some number otherwise. -/
def rootCandidate (p a : Int) : Int :=
  let (e, q) := splitTwos (p - 1).toNat
  let w := power p (nonSquare p p.toNat 2) q
  correct p (e - 1) w (power p a q) (power p a ((q + 1) / 2))

def squareRoot? (p a : Int) : Option Int :=
  let r := rootCandidate p a
  if r * r % p = a % p then some r else none

end Ecdsa.Modular
