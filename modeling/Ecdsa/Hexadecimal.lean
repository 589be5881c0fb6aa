/-!
Hexadecimal digits: fixed-width writing, the value of a digit, and two written forms of a number,
the plain one (`0x1f`) and the grouped one (`1F`, `01 23456789`).
-/

namespace Ecdsa.Hexadecimal

def lowerDigit (d : Nat) : Char :=
  Char.ofNat (if d < 10 then 48 + d else 87 + d)

def upperDigit (d : Nat) : Char :=
  Char.ofNat (if d < 10 then 48 + d else 55 + d)

/-- The value of an ASCII hexadecimal digit of either case. -/
def digit? (c : Char) : Option Nat :=
  if 48 ≤ c.toNat ∧ c.toNat ≤ 57 then some (c.toNat - 48)
  else if 97 ≤ c.toNat ∧ c.toNat ≤ 102 then some (c.toNat - 87)
  else if 65 ≤ c.toNat ∧ c.toNat ≤ 70 then some (c.toNat - 55)
  else none

/-- The last `width` digits of `n` in front of other characters. -/
def digitsOnto (digit : Nat → Char) (rest : List Char) : (width n : Nat) → List Char
  | 0, _ => rest
  | width + 1, n => digitsOnto digit (digit (n % 16) :: rest) width (n / 16)

/-- The last `width` digits of `n`, the most significant first. -/
def digits (digit : Nat → Char) (width n : Nat) : List Char :=
  digitsOnto digit [] width n

theorem digitsOnto_eq (digit : Nat → Char) (rest : List Char) (width n : Nat) :
    digitsOnto digit rest width n = digits digit width n ++ rest := by
  induction width generalizing rest n with
  | zero => rfl
  | succ width ih =>
    rw [digits, digitsOnto, digitsOnto, ih, ih [_], List.append_assoc]
    rfl

@[simp] theorem digits_zero (digit : Nat → Char) (n : Nat) : digits digit 0 n = [] := rfl

theorem digits_succ (digit : Nat → Char) (width n : Nat) :
    digits digit (width + 1) n = digits digit width (n / 16) ++ [digit (n % 16)] :=
  digitsOnto_eq digit [digit (n % 16)] width (n / 16)

/-- How many digits `n` has; zero has one. -/
def length (n : Nat) : Nat :=
  n.log2 / 4 + 1

/-- How many bytes `n` has; zero has one. -/
def byteCount (n : Nat) : Nat :=
  n.log2 / 8 + 1

/-- Plain form: sign, `0x` and the lower-case digits without leading zeros. -/
def plain (i : Int) : String :=
  (if i < 0 then "-0x" else "0x") ++ String.ofList (digits lowerDigit (length i.natAbs) i.natAbs)

/-- Whole bytes in upper case, a space before every eight digits counted from the right, in front
of other characters. -/
def groupedOnto (rest : List Char) (n : Nat) : List Char :=
  if n < 0x100000000 then digitsOnto upperDigit rest (2 * byteCount n) n
  else groupedOnto (' ' :: digitsOnto upperDigit rest 8 (n % 0x100000000)) (n / 0x100000000)
termination_by n

def groupedDigits (n : Nat) : List Char :=
  groupedOnto [] n

theorem groupedOnto_eq (rest : List Char) (n : Nat) :
    groupedOnto rest n = groupedDigits n ++ rest := by
  induction n using Nat.strongRecOn generalizing rest with
  | ind n ih =>
    unfold groupedDigits groupedOnto
    split
    · rw [digitsOnto_eq, digitsOnto_eq _ [], List.append_nil]
    · next h =>
      have smaller : n / 0x100000000 < n := Nat.div_lt_self (by omega) (by decide)
      rw [ih _ smaller, ih _ smaller (' ' :: _), digitsOnto_eq, digitsOnto_eq _ []]
      simp

theorem groupedDigits_of_lt {n : Nat} (h : n < 0x100000000) :
    groupedDigits n = digits upperDigit (2 * byteCount n) n := by
  rw [groupedDigits, groupedOnto, if_pos h, digits]

theorem groupedDigits_of_le {n : Nat} (h : 0x100000000 ≤ n) :
    groupedDigits n =
      groupedDigits (n / 0x100000000) ++ ' ' :: digits upperDigit 8 (n % 0x100000000) := by
  rw [groupedDigits, groupedOnto, if_neg (by omega), groupedOnto_eq, digits]

def grouped (n : Nat) : String :=
  String.ofList (groupedDigits n)

end Ecdsa.Hexadecimal
