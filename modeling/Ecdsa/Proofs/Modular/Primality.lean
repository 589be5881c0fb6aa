import Ecdsa.Modular.Power
import Mathlib.Data.ZMod.Basic
import Mathlib.NumberTheory.LucasPrimality
import Mathlib.Tactic

/-!
# Primality

Lucas's test: a number is prime if some base has an order modulo it that is smaller by one. The
prime factors of the number before it show that the order is no smaller, and they may have been
tested in the same way.
-/

namespace Ecdsa.Modular

/-- A number, a base for the test, and the prime factors of the number before it. -/
structure LucasStep where
  number : ℕ
  base : ℤ
  factors : List ℕ

namespace LucasStep

/-- The test succeeds with factors that are known to be prime. -/
structure Passes (known : List ℕ) (t : LucasStep) : Prop where
  known : ∀ q ∈ t.factors, q ∈ known
  prod : t.factors.prod = t.number - 1
  power : power t.number t.base (t.number - 1) ≡ 1 [ZMOD t.number]
  smaller : ∀ q ∈ t.factors, ¬ Modular.power t.number t.base ((t.number - 1) / q) ≡ 1 [ZMOD t.number]

instance (known : List ℕ) : DecidablePred (Passes known) := fun t =>
  decidable_of_iff ((∀ q ∈ t.factors, q ∈ known) ∧ t.factors.prod = t.number - 1 ∧
      Modular.power t.number t.base (t.number - 1) ≡ 1 [ZMOD t.number] ∧
      ∀ q ∈ t.factors, ¬ Modular.power t.number t.base ((t.number - 1) / q) ≡ 1 [ZMOD t.number])
    ⟨fun ⟨h₁, h₂, h₃, h₄⟩ => ⟨h₁, h₂, h₃, h₄⟩, fun ⟨h₁, h₂, h₃, h₄⟩ => ⟨h₁, h₂, h₃, h₄⟩⟩

/-- All tests succeed, each with the primes known at first and the numbers of the tests after it. -/
def AllPass (known : List ℕ) : List LucasStep → Prop
  | [] => True
  | t :: ts => t.Passes (ts.map number ++ known) ∧ AllPass known ts

instance decidableAllPass (known : List ℕ) : DecidablePred (AllPass known)
  | [] => inferInstanceAs (Decidable True)
  | t :: ts =>
    have := decidableAllPass known ts
    inferInstanceAs (Decidable (t.Passes (ts.map number ++ known) ∧ AllPass known ts))

end LucasStep

lemma intCast_power_natCast (n : ℕ) (a : ℤ) (e : ℕ) :
    ((power n a e : ℤ) : ZMod n) = (a : ZMod n) ^ e := by
  unfold power
  refine ladder_induction (P := fun k (x : ℤ) => (x : ZMod n) = (a : ZMod n) ^ k) ?_ ?_ ?_ e
  · simp
  · intro k x hx
    rw [ZMod.intCast_mod, Int.cast_mul, hx, two_mul, pow_add]
  · intro k x hx
    rw [ZMod.intCast_mod, Int.cast_mul, hx, pow_succ]

lemma power_modEq_one_iff {n : ℕ} {a : ℤ} {e : ℕ} :
    power n a e ≡ 1 [ZMOD n] ↔ (a : ZMod n) ^ e = 1 := by
  rw [← ZMod.intCast_eq_intCast_iff, intCast_power_natCast, Int.cast_one]

namespace LucasStep

/-- A number that passes the test with prime factors is prime. -/
lemma Passes.prime {known : List ℕ} {t : LucasStep} (h : t.Passes known)
    (hknown : ∀ q ∈ known, q.Prime) : t.number.Prime := by
  refine lucas_primality t.number (t.base : ZMod t.number) (power_modEq_one_iff.1 h.power) ?_
  intro q hq hdvd
  rw [← h.prod] at hdvd
  obtain ⟨q', hq', hqq'⟩ := (Prime.dvd_prod_iff hq.prime).1 hdvd
  obtain rfl := (Nat.prime_dvd_prime_iff_eq hq (hknown q' (h.known q' hq'))).1 hqq'
  exact mt power_modEq_one_iff.2 (h.smaller q hq')

/-- All numbers that pass are prime, as those that a test relies on are. -/
theorem AllPass.prime {known : List ℕ} {ts : List LucasStep} (h : AllPass known ts)
    (hknown : ∀ q ∈ known, q.Prime) : ∀ t ∈ ts, t.number.Prime := by
  induction ts with
  | nil => simp
  | cons t ts ih =>
    have hts := ih h.2
    refine List.forall_mem_cons.2 ⟨h.1.prime ?_, hts⟩
    exact List.forall_mem_append.2 ⟨List.forall_mem_map.2 hts, hknown⟩

end LucasStep

end Ecdsa.Modular
