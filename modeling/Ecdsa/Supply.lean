import Ecdsa.Error

/-!
Computations that draw random numbers and keep a log.

A supply gives its numbers one after the other. What was drawn and logged stays drawn and logged
when the computation fails.
-/

namespace Ecdsa

/-- What is logged of attempts that came to nothing. -/
inductive Event where
  | nonceDiscarded (attempt : Nat) (cause : Error)
  | recoveryIdMissing (attempt candidates : Nat)
deriving Repr

def Event.message : Event → String
  | nonceDiscarded attempt cause => s!"signing attempt {attempt} discarded: {cause.message}"
  | recoveryIdMissing attempt candidates =>
    s!"signing attempt {attempt}: no recovery id found ({candidates} candidates)"

structure Supply where
  /-- The number with this index, if the supply is not exhausted. -/
  number : Nat → Option Int
  drawn : Nat
  log : List Event

namespace Supply

def ofNumbers (number : Nat → Option Int) : Supply :=
  ⟨number, 0, []⟩

def ofList (numbers : List Int) : Supply :=
  ofNumbers (numbers[·]?)

end Supply

abbrev Drawing (α : Type) := ExceptT Error (StateM Supply) α

/-- Takes the next number. -/
def draw : Drawing Int := do
  let supply ← get
  match supply.number supply.drawn with
  | none => throw .drawsExhausted
  | some x =>
    set { supply with drawn := supply.drawn + 1 }
    return x

/-- Adds to the log. -/
def record (event : Event) : Drawing Unit :=
  modify fun supply => { supply with log := supply.log ++ [event] }

/-- A fresh scalar: one more than the number drawn. -/
def drawScalar : Drawing Int :=
  (1 + ·) <$> draw

end Ecdsa
