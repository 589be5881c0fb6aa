import Ecdsa.Hexadecimal

/-!
Numbers as they are given: an integer, or a truth value that counts as one or zero and is still
shown as a truth value.
-/

namespace Ecdsa

-- Powers are those of the core library, whatever else is imported.
attribute [local instance (high)] instPowNat

inductive Numeral where
  | int (i : Int)
  | truth (b : Bool)
deriving Repr

namespace Numeral

def toInt : Numeral → Int
  | int i => i
  | truth b => if b then 1 else 0

@[simp] theorem toInt_int (i : Int) : (int i).toInt = i := rfl

instance : Coe Int Numeral := ⟨int⟩

instance (n : Nat) : OfNat Numeral n := ⟨int n⟩

/-- Numerals are equal when they count for the same integer. -/
instance : BEq Numeral := ⟨fun m n => m.toInt == n.toInt⟩

@[simp] theorem beq_iff (m n : Numeral) : (m == n) = true ↔ m.toInt = n.toInt :=
  beq_iff_eq (α := Int)

/-- The decimal text of an integer, or the name of a truth value. -/
def text : Numeral → String
  | int i => toString i
  | truth b => if b then "True" else "False"

/-- Integers above this one are displayed in hexadecimal. -/
def hexThreshold : Int := 0xffffffff

/-- Short integers in decimal, long positive ones in quoted grouped hexadecimal. -/
def display (n : Numeral) : String :=
  if n.toInt > hexThreshold then "'" ++ Hexadecimal.grouped n.toInt.toNat ++ "'" else n.text

/-- The integers that `display` writes in decimal. -/
def displayedDecimals (n : Numeral) : List Int :=
  if n.toInt > hexThreshold then [] else [n.toInt]

end Numeral

/-- Decimal texts have at most this many digits. -/
def decimalDigitLimit : Nat := 4300

/-- The integer is short enough to be written in decimal. -/
def HasDecimal (i : Int) : Prop :=
  i.natAbs < 10 ^ decimalDigitLimit

instance : DecidablePred HasDecimal := fun i =>
  inferInstanceAs (Decidable (i.natAbs < 10 ^ decimalDigitLimit))

/-- What is displayed in decimal of a number that is not negative is short. -/
theorem Numeral.hasDecimal_of_mem_displayedDecimals {n : Numeral} (hn : 0 ≤ n.toInt) {i : Int}
    (hi : i ∈ n.displayedDecimals) : HasDecimal i := by
  unfold displayedDecimals at hi
  split at hi
  · cases hi
  · next h =>
    obtain rfl := List.mem_singleton.1 hi
    have hlimit : 10 ^ 10 ≤ 10 ^ decimalDigitLimit := Nat.pow_le_pow_right (by decide) (by decide)
    have hshort : n.toInt.natAbs < 10 ^ 10 := by
      unfold hexThreshold at h
      omega
    exact Nat.lt_of_lt_of_le hshort hlimit

end Ecdsa
