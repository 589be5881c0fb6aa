import Ecdsa.Proofs.Curve.Arithmetic
import Ecdsa.Proofs.Curve.Ordinate

/-!
# Decompression

An abscissa and a parity stand for a point. There is one for both parities if the right-hand side of
the equation of the curve is a square at the abscissa, and for neither otherwise. Where there is,
`ordinate` gives the one solution of that parity, so that the two parities give opposite points
(`decompresses`).
-/

namespace Ecdsa.Curve

variable {c : Curve}

lemma satisfies_iff_modEq {x y : ℤ} :
    c.Satisfies ⟨x, y⟩ ↔ y ^ 2 ≡ x ^ 3 + c.a * x + c.b [ZMOD c.p] := by
  have hcubic : y * y - c.cubic x = y ^ 2 - (x ^ 3 + c.a * x + c.b) := by
    rw [cubic]
    ring
  rw [Satisfies, hcubic, ← Int.dvd_iff_emod_eq_zero, Int.modEq_comm, Int.modEq_iff_dvd]

/-- An ordinate of an abscissa in range makes a point if it solves the equation. -/
lemma hasPoint_iff_modEq {x y : ℤ} (hx : 0 ≤ x ∧ x < c.p) :
    c.HasPoint ⟨x, y⟩ ↔ (0 < y ∧ y < c.p) ∧ y ^ 2 ≡ x ^ 3 + c.a * x + c.b [ZMOD c.p] := by
  rw [← satisfies_iff_modEq]
  exact ⟨fun h => ⟨h.ordinate, h.satisfies⟩, fun h => ⟨h.1, hx, h.2⟩⟩

section Ordinate

variable [Fact c.p.toNat.Prime] (hsize : 2 ≤ c.fieldSize) (ha : c.hasArithmetic = true)
  (hodd : c.HasOddGroup)
include hsize ha hodd

/-- An abscissa without ordinate is refused, and has none for either parity. -/
lemma exists_ordinate_iff {x parity : ℤ} (hx : 0 ≤ x ∧ x < c.p)
    (hparity : parity = 0 ∨ parity = 1) :
    (∃ y, c.ordinate x parity = .ok y) ↔ ∃ z : ℤ, z ^ 2 ≡ x ^ 3 + c.a * x + c.b [ZMOD c.p] := by
  simp only [← satisfies_iff_modEq]
  rcases ordinate_cases hsize ha hx hparity with ⟨y, hy, hpoint, -⟩ | ⟨-, hzero⟩ | ⟨herror, hnone⟩
  · exact ⟨fun _ => ⟨y, hpoint.satisfies⟩, fun _ => ⟨y, hy⟩⟩
  · exact absurd hzero (hodd.not_satisfies x)
  · simp [herror, hnone]

lemma ordinate_eq_error {x parity : ℤ} (hx : 0 ≤ x ∧ x < c.p) (hparity : parity = 0 ∨ parity = 1)
    (h : ¬ ∃ z : ℤ, z ^ 2 ≡ x ^ 3 + c.a * x + c.b [ZMOD c.p]) :
    c.ordinate x parity = .error (.noOrdinate x) := by
  rcases ordinate_spec hsize ha hodd hx hparity with ⟨y, hy, -⟩ | ⟨herror, -⟩
  · exact absurd ((exists_ordinate_iff hsize ha hodd hx hparity).1 ⟨y, hy⟩) h
  · exact herror

/-- The ordinates of the two parities are opposite. -/
lemma ordinate_add_ordinate {x y₀ y₁ : ℤ} (h₀ : c.ordinate x 0 = .ok y₀)
    (h₁ : c.ordinate x 1 = .ok y₁) : y₀ + y₁ = c.p := by
  obtain ⟨hP₀, heven⟩ := (ordinate_eq_ok_iff hsize ha hodd).1 h₀
  obtain ⟨hP₁, hodd₁⟩ := (ordinate_eq_ok_iff hsize ha hodd).1 h₁
  rcases hP₀.ordinate_eq_or_eq_sub hP₁ rfl with h | h
  · dsimp only at h
    omega
  · dsimp only at h
    omega

end Ordinate

/-- An abscissa in range and a parity are decompressed exactly if there is a point with them, which
there is for both parities or for neither. -/
structure Decompresses (c : Curve) : Prop where
  /-- The ordinate is the only solution of the equation with the parity. -/
  eq_ok_iff : ∀ x parity y : ℤ, 0 ≤ x ∧ x < c.p → parity = 0 ∨ parity = 1 →
    (c.ordinate x parity = .ok y ↔
      (0 < y ∧ y < c.p) ∧ y ^ 2 ≡ x ^ 3 + c.a * x + c.b [ZMOD c.p] ∧ y % 2 = parity)
  /-- There is one if the right-hand side of the equation is a square. -/
  exists_iff : ∀ x parity : ℤ, 0 ≤ x ∧ x < c.p → parity = 0 ∨ parity = 1 →
    ((∃ y, c.ordinate x parity = .ok y) ↔
      ∃ z : ℤ, z ^ 2 ≡ x ^ 3 + c.a * x + c.b [ZMOD c.p])
  /-- It makes a point that is accepted as one. -/
  requireOnCurve_eq : ∀ x parity y : ℤ, c.ordinate x parity = .ok y →
    c.requireOnCurve (⟨x, y⟩ : Point) = .ok ⟨x, y⟩
  add_eq : ∀ x y₀ y₁ : ℤ, c.ordinate x 0 = .ok y₀ → c.ordinate x 1 = .ok y₁ → y₀ + y₁ = c.p
  /-- Otherwise both parities are refused. -/
  refused : ∀ x parity : ℤ, 0 ≤ x ∧ x < c.p → parity = 0 ∨ parity = 1 →
    (¬ ∃ z : ℤ, z ^ 2 ≡ x ^ 3 + c.a * x + c.b [ZMOD c.p]) →
      ∃ e, c.ordinate x parity = .error e ∧ e.kind = .rejected

/-- Where a coordinate takes two bytes or more, decompression is exact. -/
theorem decompresses [Fact c.p.toNat.Prime] (hsize : 2 ≤ c.fieldSize)
    (ha : c.hasArithmetic = true) (hodd : c.HasOddGroup) : c.Decompresses where
  eq_ok_iff x parity y hx _ := by
    rw [ordinate_eq_ok_iff hsize ha hodd, hasPoint_iff_modEq hx, and_assoc]
  exists_iff x parity hx hparity := exists_ordinate_iff hsize ha hodd hx hparity
  requireOnCurve_eq x parity y h := by
    obtain ⟨hP, -⟩ := (ordinate_eq_ok_iff hsize ha hodd).1 h
    exact requireOnCurve_eq_ok (Coordinates.point_coordinates _) ((contains_iff ha).2 (Or.inr hP))
  add_eq _ _ _ h₀ h₁ := ordinate_add_ordinate hsize ha hodd h₀ h₁
  refused x parity hx hparity h := ⟨_, ordinate_eq_error hsize ha hodd hx hparity h, rfl⟩

/-- The field prime is 257: roots take the most corrections, as 256 is a power of two. -/
theorem decompresses_small : small.Decompresses :=
  decompresses small_two_le_fieldSize rfl small_hasOddGroup

end Ecdsa.Curve
