import Ecdsa.Proofs.Recovery

/-!
# Recovery on curves of any cofactor

A group of even order has elements that are their own opposite. They have the ordinate zero, which
is written like infinity or as `p`, so the subgroup test passes them and the points whose multiple
by the order they are. Recovery then fails where the ephemeral point has the ordinate `p`, and its
key is outside the subgroup where the ephemeral point is and is taken an odd number of times
(`recoverPoint_hasOutcome`). On a group of odd order neither can happen.
-/

namespace Ecdsa

open Ecdsa.Modular Curve

/-! ### Multiples of roots of the cubic -/

section Roots

variable {p a x : ℤ}

namespace Jacobian

lemma double_infinity : infinity.double p a = infinity := by
  simp [double, infinity]

lemma double_of_ordinate_zero : (⟨x, 0, 1⟩ : Jacobian).double p a = infinity := by
  simp [double]

end Jacobian

variable [PointAddition]

/-- What is added to the infinite triple is the sum, reduced, as it is with `Jacobian.add`. -/
def StartsAtInfinity (p a : ℤ) : Prop :=
  ∀ P : Jacobian, PointAddition.sum p a .infinity P = P.reduced p

namespace Jacobian

/-- The ordinate `p` counts as zero once it is reduced. -/
lemma addSigned_infinity (neutral : StartsAtInfinity p a) (hp : 1 < p) (hx : 0 ≤ x ∧ x < p)
    (d : SignedDigit) :
    addSigned p a infinity (ofPoint ⟨x, p⟩) d = if d = .zero then infinity else ⟨x, 0, 1⟩ := by
  have hone : (1 : ℤ) % p = 1 := Int.emod_eq_of_lt one_pos.le hp
  cases d <;>
    simp [addSigned, neutral _, reduced, neg, ofPoint, Int.emod_eq_of_lt hx.1 hx.2, hone]

/-- Along any digits the sum is infinite or the root, and its double is infinite. -/
lemma double_foldr_root (neutral : StartsAtInfinity p a) (hp : 1 < p) (hx : 0 ≤ x ∧ x < p)
    (ds : List SignedDigit) :
    (ds.foldr (fun digit P => addSigned p a (double p a P) (ofPoint ⟨x, p⟩) digit)
      infinity).double p a = infinity := by
  induction ds with
  | nil => exact double_infinity
  | cons d ds ih =>
    -- what came before is doubled first, so that every digit starts at infinity again
    rw [List.foldr_cons, ih, addSigned_infinity neutral hp hx]
    split_ifs
    · exact double_infinity
    · exact double_of_ordinate_zero

/-- Odd multiples of a root are the root. -/
lemma multiple_root (neutral : StartsAtInfinity p a) (hp : 1 < p) (hx : 0 ≤ x ∧ x < p) {m : ℤ}
    (odd : m % 2 = 1) (hm : m ≠ 1) : multiple p a m ⟨x, p⟩ = ⟨x, 0, 1⟩ := by
  -- the last digit of an odd number is not zero
  obtain ⟨d, ds, hdigits, hd⟩ : ∃ d ds, SignedDigit.digits m = d :: ds ∧ d ≠ .zero := by
    rw [SignedDigit.digits, if_neg (by omega), if_neg (by omega)]
    split_ifs
    · exact ⟨.plus, _, rfl, by decide⟩
    · exact ⟨.minus, _, rfl, by decide⟩
  rw [multiple, if_neg hm, hdigits, List.foldr_cons, double_foldr_root neutral hp hx,
    addSigned_infinity neutral hp hx, if_neg hd]

end Jacobian

end Roots

variable {c : Curve} [Fact c.p.toNat.Prime]

/-- Multiples of elements that are their own opposite depend on the parity of the factor. -/
lemma zsmul_of_add_self {A : c.Element} (hA : A + A = 0) (u : ℤ) : u • A = (u % 2) • A := by
  have htwo : (2 * (u / 2)) • A = 0 := by
    rw [mul_comm, mul_zsmul, two_zsmul, hA, zsmul_zero]
  conv_lhs => rw [← Int.mul_ediv_add_emod u 2, add_zsmul, htwo, zero_add]

/-- Elements that are their own opposite only have one multiple that is not infinite. -/
lemma zsmul_ne_zero_iff_of_add_self {A : c.Element} (hA : A + A = 0) (u : ℤ) :
    u • A ≠ 0 ↔ A ≠ 0 ∧ u % 2 = 1 := by
  rw [zsmul_of_add_self hA]
  rcases Int.emod_two_eq_zero_or_one u with hu | hu <;> simp [hu]

/-! ### What recovery comes to -/

/-- The ephemeral point with the abscissa `r` would have the ordinate `p`. -/
structure HasOrdinateP (id r : ℤ) (c : Curve) : Prop where
  odd : id = 1
  abscissa : r < c.p
  root : c.Satisfies ⟨r, 0⟩
  invertible : r % c.n ≠ 0

/-- The ephemeral point is outside the subgroup, and the key has an odd multiple of it. -/
def LeavesSubgroup (id r s : ℤ) (c : Curve) [Fact c.p.toNat.Prime] : Prop :=
  ∃ (K : Point) (u : ℤ), c.HasPoint K ∧ K.x = r ∧ K.y % 2 = id ∧ c.n • c.element K ≠ 0 ∧
    (0 ≤ u ∧ u < c.n) ∧ u * r ≡ s [ZMOD c.n] ∧ u % 2 = 1

/-- The errors and the keys that recovery may come to. -/
structure HasOutcome (id r s : ℤ) (c : Curve) [Fact c.p.toNat.Prime]
    (outcome : Except Error (Option Point)) : Prop where
  /-- Recovery fails only where it takes the ordinate `p` for that of a point. -/
  error_iff : ∀ cause, outcome = .error cause ↔
    cause = .ordinateOutOfRange c.p ∧ HasOrdinateP id r c
  /-- A key is a finite point, with at most twice the order. -/
  finite : ∀ Q, outcome = .ok (some Q) →
    c.HasPoint Q ∧ c.n • c.element Q + c.n • c.element Q = 0
  outside_iff : ∀ Q, outcome = .ok (some Q) →
    (c.n • c.element Q ≠ 0 ↔ LeavesSubgroup id r s c)

namespace HasOutcome

variable {id r s : ℤ}

lemma none (h : ¬ HasOrdinateP id r c) : HasOutcome id r s c (.ok none) where
  error_iff cause := by simp [h]
  finite Q hQ := by cases hQ
  outside_iff Q hQ := by cases hQ

lemma error (h : HasOrdinateP id r c) :
    HasOutcome id r s c (.error (.ordinateOutOfRange c.p)) where
  error_iff cause := by
    simp only [Except.error.injEq, h, and_true]
    exact eq_comm
  finite Q hQ := by cases hQ
  outside_iff Q hQ := by cases hQ

/-- The key of an element is finite if there is one, and it is that element. -/
lemma ofElement (odd : c.p ≠ 2) {A : c.Element} (hA : c.n • A + c.n • A = 0)
    (hroot : ¬ HasOrdinateP id r c) (houtside : c.n • A ≠ 0 ↔ LeavesSubgroup id r s c) :
    HasOutcome id r s c
      (.ok (if (c.pointOf A).IsInfinite then .none else some (c.pointOf A))) := by
  split_ifs with hinfinite
  · exact none hroot
  have hne : A + A ≠ 0 := mt (add_self_eq_zero_iff odd).1 hinfinite
  have helement : c.element (c.pointOf A) = A := element_pointOf odd fun h => absurd h hne
  refine ⟨fun cause => by simp [hroot], ?_, ?_⟩
  · intro Q hQ
    obtain rfl := Option.some.inj (Except.ok.inj hQ)
    rw [helement]
    exact ⟨hasPoint_pointOf odd hne, hA⟩
  · intro Q hQ
    obtain rfl := Option.some.inj (Except.ok.inj hQ)
    rw [helement]
    exact houtside

end HasOutcome

/-! ### Ephemeral points -/

section Ephemeral

variable [PointAddition] (hc : c.HasOddPrimeOrder)
include hc

lemma isInSubgroup_of_isInfinite {K : Point} (hK : K.IsInfinite) :
    c.isInSubgroup K = .ok true := by
  have hn := hc.n_pos
  have hfirst : Coordinates.firstTwo K = .ok K := rfl
  have hmultiple : c.unreducedMultiple c.n K = .ok Point.infinity := by
    simp [unreducedMultiple, hn.not_gt, hn.ne', hfirst, hK]
  simp [isInSubgroup, hmultiple, Point.isInfinite_infinity]

/-- The multiple of a root by the order is the root, which is written as infinite. -/
lemma isInSubgroup_ordinateP (neutral : StartsAtInfinity c.p c.a) {x : ℤ} (hx : 0 ≤ x ∧ x < c.p)
    (hroot : c.Satisfies ⟨x, 0⟩) : c.isInSubgroup (⟨x, c.p⟩ : Point) = .ok true := by
  have hn := hc.two_lt_n
  have hp : 1 < c.p := by
    have := (Fact.out : c.p.toNat.Prime).two_le
    omega
  have hfirst : Coordinates.firstTwo (⟨x, c.p⟩ : Point) = .ok ⟨x, c.p⟩ := rfl
  have hfinite : ¬ (⟨x, c.p⟩ : Point).IsInfinite := by
    rw [Point.IsInfinite]
    dsimp only
    omega
  have hmultiple : c.unreducedMultiple c.n (⟨x, c.p⟩ : Point) = .ok (⟨x, 0⟩ : Point) := by
    simp [unreducedMultiple, (show ¬ c.n < 0 by omega), (show c.n ≠ 0 by omega),
      (show c.n ≠ 1 by omega), hfirst, hfinite, hc.hasArithmetic,
      Jacobian.multiple_root neutral hp hx hc.n_emod_two (by omega), affine, Jacobian.toPoint, hroot]
  simp [isInSubgroup, hmultiple, Point.IsInfinite]

/-- The ordinate `p` is out of range where the key is computed. -/
lemma keyOfEphemeralPoint?_ordinateP (neutral : StartsAtInfinity c.p c.a) {r : ℤ}
    (hx : 0 ≤ r ∧ r < c.p) (hroot : c.Satisfies ⟨r, 0⟩) (hr : r % c.n ≠ 0) (e s : ℤ) :
    keyOfEphemeralPoint? ⟨r, c.p⟩ e r s c = .error (.ordinateOutOfRange c.p) := by
  have hp := p_pos (p := c.p)
  obtain ⟨i, hi, -, -⟩ := inverse_eq_ok (by linarith [hc.two_lt_n])
    (gcd_eq_one_of_prime hc.prime (mt Int.dvd_iff_emod_eq_zero.1 hr))
  have hreject : (reject (.ordinateOutOfRange c.p) : Except Error Bool) =
      .error (.ordinateOutOfRange c.p) := by
    apply reject_of_hasDecimal
    intro i hi
    exact Numeral.hasDecimal_of_mem_displayedDecimals (n := .int c.p) hp.le hi
  have hfinite : ¬ (⟨r, c.p⟩ : Point).IsInfinite := hp.ne'
  have hcontains : c.contains ⟨r, c.p⟩ = .error (.ordinateOutOfRange c.p) := by
    rw [contains, if_neg hfinite, if_pos (fun h => lt_irrefl _ h.2), hreject]
  have hon : c.requireOnCurve (⟨r, c.p⟩ : Point) = .error (.ordinateOutOfRange c.p) := by
    simp [requireOnCurve, hcontains]
  simp [keyOfEphemeralPoint?, isInSubgroup_ordinateP hc neutral hx hroot, reduce_eq_ok hc.n_pos,
    hr, hi, sumOfMultiples, hon]

omit [PointAddition] in
/-- The multiple of the ephemeral point in the key is the one by `s / r`. -/
lemma leavesSubgroup_iff {K : Point} (hK : c.HasPoint K) {id r s i : ℤ} (hx : K.x = r)
    (hparity : K.y % 2 = id) (hinv : i * r ≡ 1 [ZMOD c.n]) :
    LeavesSubgroup id r s c ↔ c.n • c.element K ≠ 0 ∧ i * s % c.n % 2 = 1 := by
  constructor
  · rintro ⟨K', u, hK', hx', hparity', hne, hu, hscalar, hodd⟩
    obtain rfl := hK'.eq_of_parity_eq hc.p_ne_two hK (hx'.trans hx.symm)
      (hparity'.trans hparity.symm)
    have hquotient : u ≡ i * s [ZMOD c.n] :=
      calc u = u * 1 := (mul_one u).symm
        _ ≡ u * (i * r) [ZMOD c.n] := hinv.symm.mul_left u
        _ = i * (u * r) := by ring
        _ ≡ i * s [ZMOD c.n] := hscalar.mul_left i
    rw [← hquotient, Int.emod_eq_of_lt hu.1 hu.2]
    exact ⟨hne, hodd⟩
  · rintro ⟨hne, hodd⟩
    refine ⟨K, i * s % c.n, hK, hx, hparity, hne, emod_nonneg_lt hc.n_pos _, ?_, hodd⟩
    calc i * s % c.n * r ≡ i * s * r [ZMOD c.n] := (Int.mod_modEq _ _).mul_right r
      _ = i * r * s := by ring
      _ ≡ 1 * s [ZMOD c.n] := hinv.mul_right s
      _ = s := one_mul s

end Ephemeral

/-! ### Recovery -/

section Recovery

variable [PointAddition] (law : c.ComputesInGroup) (neutral : StartsAtInfinity c.p c.a)
  (hc : c.HasOddPrimeOrder) (hsize : 2 ≤ c.fieldSize) {id r : ℤ}
include law hc

/-- With a finite ephemeral point there is no error, and the key may be outside the subgroup. -/
lemma keyOfEphemeralPoint?_hasOutcome {K : Point} (hK : c.HasPoint K) (hx : K.x = r)
    (hparity : K.y % 2 = id) (e s : ℤ) :
    HasOutcome id r s c (keyOfEphemeralPoint? K e r s c) := by
  have hroot : ¬ HasOrdinateP id r c := by
    rintro ⟨-, -, hroot, -⟩
    exact hK.not_satisfies_zero (hx ▸ hroot)
  have hsubgroup := isInSubgroup_eq_ok_of_hasPoint law hc hK
  by_cases hKn : c.n • c.element K + c.n • c.element K = 0
  swap
  · rw [decide_eq_false hKn] at hsubgroup
    rw [keyOfEphemeralPoint?_of_not_isInSubgroup hsubgroup]
    exact .none hroot
  -- the test passes `K`, but `n K` may still be an element other than the infinite one
  rw [decide_eq_true hKn] at hsubgroup
  by_cases hr : r % c.n = 0
  · rw [keyOfEphemeralPoint?_of_not_invertible hc hsubgroup hr]
    exact .none hroot
  obtain ⟨i, A, hinv, hA, hresult⟩ :=
    exists_keyOfEphemeralPoint?_of_isInSubgroup law hc (Or.inr hK) hsubgroup hr e s
  have hAn : c.n • A = (i * s % c.n) • c.n • c.element K := by
    rw [hA, zsmul_add, zsmul_comm, hc.n_zsmul_zsmul_generator, add_zero]
  rw [hresult]
  refine .ofElement hc.p_ne_two ?_ hroot ?_
  · rw [hAn, ← zsmul_add, hKn, zsmul_zero]
  · rw [hAn, zsmul_ne_zero_iff_of_add_self hKn, leavesSubgroup_iff hc hK hx hparity hinv]

include neutral

/-- A root that is taken for infinity leaves a multiple of the generator for the key, and one with
the ordinate `p` the error. -/
lemma keyOfEphemeralPoint?_root_hasOutcome (hid : id = 0 ∨ id = 1) (hx : 0 ≤ r ∧ r < c.p)
    (hroot : c.Satisfies ⟨r, 0⟩) (e s : ℤ) :
    HasOutcome id r s c (keyOfEphemeralPoint? ⟨r, id * c.p⟩ e r s c) := by
  have hsubgroup : c.isInSubgroup (⟨r, id * c.p⟩ : Point) = .ok true := by
    rcases hid with rfl | rfl
    · exact isInSubgroup_of_isInfinite hc (zero_mul c.p)
    · rw [one_mul]
      exact isInSubgroup_ordinateP hc neutral hx hroot
  by_cases hr : r % c.n = 0
  · rw [keyOfEphemeralPoint?_of_not_invertible hc hsubgroup hr]
    exact .none fun h => h.invertible hr
  rcases hid with rfl | rfl
  · have hK : (⟨r, 0 * c.p⟩ : Point).IsInfinite := zero_mul c.p
    obtain ⟨i, A, -, hA, hresult⟩ :=
      exists_keyOfEphemeralPoint?_of_isInSubgroup law hc (Or.inl hK) hsubgroup hr e s
    have hAn : c.n • A = 0 := by
      rw [hA, element_of_isInfinite hK, zsmul_zero, zero_add, hc.n_zsmul_zsmul_generator]
    have hinside : ¬ LeavesSubgroup 0 r s c := by
      rintro ⟨K, -, hfinite, rfl, -⟩
      exact hfinite.not_satisfies_zero hroot
    rw [hresult]
    refine .ofElement hc.p_ne_two (by rw [hAn, add_zero]) ?_ (by simp [hAn, hinside])
    rintro ⟨hodd, -⟩
    cases hodd
  · rw [one_mul, keyOfEphemeralPoint?_ordinateP hc neutral hx hroot hr]
    exact .error ⟨rfl, hx.2, hroot, hr⟩

include hsize

lemma recoverUnchecked_hasOutcome (hid : id = 0 ∨ id = 1) (hr : 0 ≤ r) (e s : ℤ) :
    HasOutcome id r s c (recoverUnchecked id e r s c) := by
  rw [recoverUnchecked]
  rcases ephemeralPoint?_cases hc hsize hid hr with
    ⟨K, hK?, hK, hx, hparity⟩ | ⟨hK?, hsmall, hroot⟩ | ⟨hK?, hnone⟩
  · rw [hK?]
    exact keyOfEphemeralPoint?_hasOutcome law hc hK hx hparity e s
  · rw [hK?]
    exact keyOfEphemeralPoint?_root_hasOutcome law neutral hc hid ⟨hr, hsmall⟩ hroot e s
  · rw [hK?]
    exact .none fun h => hnone 0 h.abscissa h.root

/-- Whatever the cofactor, if a coordinate takes two bytes or more, recovery fails only with the
ordinate `p`, and its keys are outside the subgroup only where the ephemeral point is. -/
theorem recoverPoint_hasOutcome (hid : id = 0 ∨ id = 1) (hr : 0 ≤ r) {s : ℤ} (hs : 0 ≤ s)
    (digest : List UInt8) :
    HasOutcome id r s c (recoverPoint id r s (some (.bytes digest)) c) := by
  rw [recoverPoint_eq_recoverUnchecked hid hr hs]
  exact recoverUnchecked_hasOutcome law neutral hc hsize hid hr _ s

end Recovery

/-! ### A curve with the cofactor two -/

/-- The curve y² = x³ + 2 x + 6 modulo 257, of 278 elements. -/
def Curve.withCofactor : Curve where
  name := "withCofactor"
  p := 257
  a := 2
  b := 6
  G := ⟨1, 3⟩
  n := 139
  h := 2
  hasArithmetic := true

namespace Curve

instance : Fact withCofactor.p.toNat.Prime :=
  ⟨by show Nat.Prime 257; norm_num⟩

lemma withCofactor_p_ne_two : withCofactor.p ≠ 2 := by decide

lemma withCofactor_hasOddPrimeOrder : withCofactor.HasOddPrimeOrder := by
  have hn : Nat.Prime withCofactor.n.toNat := by
    show Nat.Prime 139
    norm_num
  have hG : withCofactor.HasPoint withCofactor.G := ⟨by decide, by decide, by decide⟩
  exact hasOddPrimeOrder_of_multiple withCofactor_p_ne_two rfl hG hn (by decide)
    (by decide +kernel)

end Curve

lemma startsAtInfinity_reducedAddition (p a : ℤ) : @StartsAtInfinity reducedAddition p a := by
  intro P
  simp [PointAddition.sum, Jacobian.add, Jacobian.reduced, Jacobian.infinity]

theorem recoverPoint_hasOutcome_withCofactor :
    letI := reducedAddition
    HasOutcome 1 5 5 withCofactor (recoverPoint 1 5 5 (some (.bytes [0])) withCofactor) :=
  letI := reducedAddition
  recoverPoint_hasOutcome (computesInGroup_reducedAddition withCofactor_hasOddPrimeOrder)
    (startsAtInfinity_reducedAddition _ _) withCofactor_hasOddPrimeOrder (by decide) (Or.inr rfl)
    (by decide) (by decide) [0]

/-- Recovery fails with the root 24 and the odd ordinate, and with the point (5, 107) of order 278
it gives a key outside the subgroup. -/
theorem not_forall_recoverPoint_inSubgroup :
    (¬ ∀ (c : Curve) [Fact c.p.toNat.Prime] (id r s : ℤ) (digest : List UInt8),
      c.HasOddPrimeOrder → 2 ≤ c.fieldSize → id = 0 ∨ id = 1 → 0 ≤ r → 0 ≤ s →
        ∃ result, recoverPoint id r s (some (.bytes digest)) c = .ok result) ∧
    ¬ ∀ (c : Curve) [Fact c.p.toNat.Prime] (id r s : ℤ) (digest : List UInt8) (Q : Point),
      c.HasOddPrimeOrder → 2 ≤ c.fieldSize → id = 0 ∨ id = 1 → 0 ≤ r → 0 ≤ s →
        recoverPoint id r s (some (.bytes digest)) c = .ok (some Q) →
          c.HasPoint Q ∧ c.n • c.element Q = 0 := by
  constructor
  · intro h
    obtain ⟨result, hresult⟩ := h withCofactor 1 24 1 [1] withCofactor_hasOddPrimeOrder
      (by decide) (Or.inr rfl) (by decide) (by decide)
    have hfails : (recoverPoint 1 24 1 (some (.bytes [1])) withCofactor).isOk = false := by
      decide +kernel
    rw [hresult] at hfails
    cases hfails
  · intro h
    have heval : (recoverPoint 1 5 5 (some (.bytes [0])) withCofactor).toOption =
        some (some ⟨5, 107⟩) := by
      decide +kernel
    obtain ⟨hQ, hzero⟩ := h withCofactor 1 5 5 [0] ⟨5, 107⟩ withCofactor_hasOddPrimeOrder
      (by decide) (Or.inr rfl) (by decide) (by decide) (toOption_eq_some_iff.1 heval)
    have hZ : letI := reducedAddition
        (Jacobian.multiple withCofactor.p withCofactor.a withCofactor.n ⟨5, 107⟩).Z ≠ 0 := by
      decide +kernel
    exact hZ ((zsmul_element_eq_zero_iff_multiple withCofactor_p_ne_two hQ _).1 hzero)

end Ecdsa
