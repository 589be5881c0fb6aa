/-!
Doubling and stepping along binary digits, the most significant first.

The ladder keeps whatever doubling and the steps keep: `ladder_induction`.
-/

namespace Ecdsa

variable {α : Type}

def ladder (double step : α → α) (start : α) (n : Nat) : α :=
  if n = 0 then start
  else
    let half := ladder double step start (n / 2)
    if n % 2 = 0 then double half else step (double half)
termination_by n

theorem ladder_induction {P : Nat → α → Prop} {double step : α → α} {start : α}
    (hstart : P 0 start) (hdouble : ∀ k x, P k x → P (2 * k) (double x))
    (hstep : ∀ k x, P k x → P (k + 1) (step x)) (n : Nat) : P n (ladder double step start n) := by
  induction n using Nat.strongRecOn with
  | ind n ih =>
    unfold ladder
    split
    · next h => exact h ▸ hstart
    · next h =>
      have half := hdouble _ _ (ih (n / 2) (by omega))
      split
      · next even =>
        rwa [show 2 * (n / 2) = n by omega] at half
      · next odd =>
        have stepped := hstep _ _ half
        rwa [show 2 * (n / 2) + 1 = n by omega] at stepped

end Ecdsa
