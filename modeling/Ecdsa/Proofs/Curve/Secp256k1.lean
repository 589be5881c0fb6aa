import Ecdsa.Curve.Named
import Ecdsa.Proofs.Curve.GroupLaw
import Ecdsa.Proofs.Modular.Primality
import Ecdsa.Proofs.Modular.SquareRoot

/-!
# The parameters of secp256k1

The field prime and the order of the generator are primes, the generator has this order, and the
group is odd, as minus seven is no cube and so no point has the ordinate zero. What is stated of
curves with an odd group therefore holds of secp256k1. The curve computes in its group if triples
are reduced before they are added, but not with the standard addition (`not_computesInGroup`).
-/

namespace Ecdsa.Secp256k1

open Curve Ecdsa.Modular

/-! ### Primes -/

/-- The small primes of the tests. -/
def smallPrimes : List ℕ :=
  [2, 3, 5, 7, 11, 17, 29, 31, 41, 53, 59, 97, 109, 149, 293, 461, 631, 797, 971, 1373, 1627,
    1871, 2011, 2621, 2657, 4051, 4423, 5323, 7723, 9349, 13441, 16699, 20113, 24809, 28181,
    41201, 85831, 96557, 120233, 305873]

/-- The tests of the field prime, the order, and the large factors that come up in them. -/
def lucasSteps : List LucasStep :=
  [⟨secp256k1.p.toNat, 3,
      [2, 3, 7, 13441,
        205115282021455665897114700593932402728804164701536103180137503955397371]⟩,
    ⟨secp256k1.n.toNat, 7,
      [2, 2, 2, 2, 2, 2, 3, 149, 631, 107361793816595537, 174723607534414371449,
        341948486974166000522343609283189]⟩,
    ⟨205115282021455665897114700593932402728804164701536103180137503955397371, 10,
      [2, 3, 5, 29, 29, 31, 7723, 132896956044521568488119,
        255515944373312847190720520512484175977]⟩,
    ⟨255515944373312847190720520512484175977, 3,
      [2, 2, 2, 7, 7, 11, 1627, 2657, 4423, 41201, 96557, 7240687, 107590001]⟩,
    ⟨341948486974166000522343609283189, 2,
      [2, 2, 3, 3, 3, 109, 29047611873442575647497758179]⟩,
    ⟨29047611873442575647497758179, 2, [2, 293, 305873, 545358713, 297159362677]⟩,
    ⟨132896956044521568488119, 6, [2, 3, 22149492674086928081353]⟩,
    ⟨22149492674086928081353, 5, [2, 2, 2, 3, 5323, 173378833005251801]⟩,
    ⟨174723607534414371449, 3, [2, 2, 2, 17, 59, 4051, 120233, 44706919]⟩,
    ⟨173378833005251801, 6, [2, 2, 2, 5, 5, 2621, 24809, 13331831]⟩,
    ⟨107361793816595537, 3, [2, 2, 2, 2, 16699, 85831, 4681609]⟩,
    ⟨297159362677, 2, [2, 2, 3, 3, 11, 461, 1627771]⟩,
    ⟨545358713, 5, [2, 2, 2, 41, 59, 28181]⟩,
    ⟨107590001, 3, [2, 2, 2, 2, 5, 5, 5, 5, 7, 29, 53]⟩,
    ⟨44706919, 6, [2, 3, 797, 9349]⟩,
    ⟨13331831, 13, [2, 5, 971, 1373]⟩,
    ⟨7240687, 3, [2, 3, 1206781]⟩,
    ⟨4681609, 23, [2, 2, 2, 3, 97, 2011]⟩,
    ⟨1627771, 3, [2, 3, 5, 29, 1871]⟩,
    ⟨1206781, 10, [2, 2, 3, 5, 20113]⟩]

lemma prime_of_mem_smallPrimes : ∀ q ∈ smallPrimes, q.Prime := by
  simp only [smallPrimes, List.forall_mem_cons, List.not_mem_nil, false_implies, implies_true,
    and_true]
  norm_num

lemma prime_of_mem_lucasSteps : ∀ t ∈ lucasSteps, t.number.Prime := by
  have h : LucasStep.AllPass smallPrimes lucasSteps := by decide +kernel
  exact h.prime prime_of_mem_smallPrimes

instance : Fact secp256k1.p.toNat.Prime :=
  ⟨prime_of_mem_lucasSteps _ List.mem_cons_self⟩

lemma prime_n : secp256k1.n.toNat.Prime :=
  prime_of_mem_lucasSteps _ (List.mem_cons_of_mem _ List.mem_cons_self)

/-! ### The group -/

lemma p_ne_two : secp256k1.p ≠ 2 := by decide

lemma two_le_fieldSize : 2 ≤ secp256k1.fieldSize := by decide +kernel

lemma hasPoint_generator : secp256k1.HasPoint secp256k1.G :=
  ⟨by decide +kernel, by decide +kernel, by decide +kernel⟩

lemma hasOddPrimeOrder : secp256k1.HasOddPrimeOrder :=
  hasOddPrimeOrder_of_multiple p_ne_two rfl hasPoint_generator prime_n (by decide)
    (by decide +kernel)

lemma computesInGroup : @ComputesInGroup reducedAddition secp256k1 _ :=
  computesInGroup_reducedAddition hasOddPrimeOrder

/-- A point such that the run for 7 times minus four times the point and 36 times the point collides
at its last digits. -/
def collisionPoint : Point :=
  ⟨0x609e6de8fb22092f3714c8cff0b4b7ab7a3a95a411cf452cd13a3cef283df738,
    0xcaac499e22d029c8d2b4fce42002f4892f78b4b8d6755d2452abf44901730eb7⟩

/-- Minus four times that point. -/
def collisionMultiple : Point :=
  ⟨0x245fdb91a5ae77e0f0366390f7a45e633decbc0c3c2cfc13d2a4f9ef8f69fe70,
    0x930b4f343107714194a70f4a83b9f7b15ad3249201c592bff3529d156b00991b⟩

lemma hasPoint_collisionPoint : secp256k1.HasPoint collisionPoint :=
  ⟨by decide +kernel, by decide +kernel, by decide +kernel⟩

lemma hasPoint_collisionMultiple : secp256k1.HasPoint collisionMultiple :=
  ⟨by decide +kernel, by decide +kernel, by decide +kernel⟩

/-- With the standard addition the curve does not compute all sums of multiples in its group. -/
theorem not_computesInGroup : ¬ secp256k1.ComputesInGroup := by
  intro law
  have hu : (0 : ℤ) < 7 ∧ 7 < secp256k1.n := by decide
  have hv : (0 : ℤ) < 36 ∧ 36 < secp256k1.n := by decide
  have hne : (secp256k1.jointMultiple 7 collisionMultiple 36 collisionPoint >>=
      secp256k1.affine).toOption ≠
        (@jointMultiple reducedAddition secp256k1 7 collisionMultiple 36 collisionPoint >>=
          secp256k1.affine).toOption := by
    decide +kernel
  exact hne (congrArg Except.toOption
    ((law.joint hasPoint_collisionMultiple hasPoint_collisionPoint hu hv).trans
      (@ComputesInGroup.joint reducedAddition _ _ computesInGroup _ _ _ _
        hasPoint_collisionMultiple hasPoint_collisionPoint hu hv).symm))

/-- Minus seven is no cube, as its power to a third of `p - 1` is not one. -/
lemma cube_ne_neg_seven (x : secp256k1.Residue) : x ^ 3 ≠ (-7 : ℤ) := by
  intro h
  have hne : power secp256k1.p (-7) ((secp256k1.p.toNat - 1) / 3) ≠ 1 := by decide +kernel
  have hseven : ((-7 : ℤ) : secp256k1.Residue) ≠ 0 := mt intCast_eq_zero_iff.1 (by decide)
  have hx : x ≠ 0 := by
    rintro rfl
    exact hseven (h.symm.trans (zero_pow three_ne_zero))
  apply hne
  rw [power_eq_one_iff, ← h, ← pow_mul, Nat.mul_div_cancel' (by decide),
    ZMod.pow_card_sub_one_eq_one hx]

/-- No point has the ordinate zero. -/
lemma not_satisfies_zero (x : ℤ) : ¬ secp256k1.Satisfies ⟨x, 0⟩ := by
  rw [satisfies_iff, equation_iff_sq]
  intro h
  apply cube_ne_neg_seven x
  have ha : ((secp256k1.a : ℤ) : secp256k1.Residue) = 0 := Int.cast_zero
  have hb : ((secp256k1.b : ℤ) : secp256k1.Residue) = 7 := rfl
  rw [ha, hb] at h
  push_cast at h ⊢
  linear_combination -h

lemma hasOddGroup : secp256k1.HasOddGroup := by
  refine hasOddGroup_of_forall_not_satisfies p_ne_two ?_ fun x _ _ => not_satisfies_zero x
  rw [discriminant_ne_zero_iff]
  decide

end Ecdsa.Secp256k1
