/-!
Integers in binary digits with signs, the least significant first.

An odd number ends in the digit that leaves a multiple of four, so that of two digits next to each
other at least one is zero. The digits of an integer stand for it: `value_digits`.
-/

namespace Ecdsa

inductive SignedDigit where
  | minus
  | zero
  | plus
deriving DecidableEq, Repr

namespace SignedDigit

def toInt : SignedDigit → Int
  | minus => -1
  | zero => 0
  | plus => 1

/-- The integer that digits stand for. -/
def value : List SignedDigit → Int
  | [] => 0
  | d :: ds => d.toInt + 2 * value ds

/-- The digits of an integer; zero has none. -/
def digits (m : Int) : List SignedDigit :=
  if m = 0 then []
  else if m % 2 = 0 then zero :: digits (m / 2)
  else if m % 4 = 1 then plus :: digits ((m - 1) / 2)
  else minus :: digits ((m + 1) / 2)
termination_by m.natAbs

theorem value_digits (m : Int) : value (digits m) = m := by
  fun_induction digits m with
  | case1 => rfl
  | case2 m _ even ih =>
    simp only [value, toInt, ih]
    omega
  | case3 m _ odd one ih =>
    simp only [value, toInt, ih]
    omega
  | case4 m _ odd three ih =>
    simp only [value, toInt, ih]
    omega

/-- The digits of two integers side by side, the shorter ones continued with zeros. -/
def pair : List SignedDigit → List SignedDigit → List (SignedDigit × SignedDigit)
  | [], es => es.map (zero, ·)
  | ds, [] => ds.map (·, zero)
  | d :: ds, e :: es => (d, e) :: pair ds es

end SignedDigit

end Ecdsa
