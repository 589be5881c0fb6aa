import Ecdsa.Proofs.Curve.Arithmetic
import Ecdsa.Proofs.Curve.Ordinate
import Ecdsa.Recovery

/-!
# Recovery

On a curve with an odd group recovery gives a key exactly if there is one: it is the finite point
`Q` of the subgroup with `r Q + e G = s K`, where `K` is the ephemeral point with abscissa `r` and an
ordinate of the parity asked for (`recoverPoint_eq_some_iff`).

This needs coordinates of two bytes or more. Where they take one byte, the ephemeral point is taken to
have its abscissa for its ordinate, with either recovery id, and is on the curve only by chance.
-/

namespace Ecdsa

open Ecdsa.Modular Curve

variable {c : Curve}

lemma assertRecoverable_eq_ok_iff {id r s : ℤ} :
    assertRecoverable id r s = .ok () ↔ (id = 0 ∨ id = 1) ∧ 0 ≤ r ∧ 0 ≤ s := by
  by_cases hid : id = 0 ∨ id = 1
  · by_cases hr : r < 0
    · simp [assertRecoverable, hid, hr, hr.not_ge]
    · by_cases hs : s < 0
      · simp [assertRecoverable, hid, hr, hs, hs.not_ge]
      · simp [assertRecoverable, hid, hr, hs, not_lt.1 hr, not_lt.1 hs]
  · cases hshown : decimal id <;> simp [assertRecoverable, hid, hshown]

/-- The arguments of a recovery are taken as they are if they are in range. -/
lemma recoverPoint_of_read [PointAddition] {id r s : ℤ} (hid : id = 0 ∨ id = 1) (hr : 0 ≤ r)
    (hs : 0 ≤ s) {digest : Octets} {bytes : List UInt8} (hread : digest.read = .ok bytes) :
    recoverPoint id r s (some digest) c = recoverUnchecked id (BigEndian.decode bytes) r s c := by
  rw [recoverPoint, assertRecoverable_eq_ok_iff.2 ⟨hid, hr, hs⟩, ok_bind]
  simp only [hread, ok_bind]

lemma recoverPoint_eq_recoverUnchecked [PointAddition] {id r s : ℤ} (hid : id = 0 ∨ id = 1)
    (hr : 0 ≤ r) (hs : 0 ≤ s) (digest : List UInt8) :
    recoverPoint id r s (some (.bytes digest)) c =
      recoverUnchecked id (BigEndian.decode digest) r s c :=
  recoverPoint_of_read hid hr hs rfl

variable [Fact c.p.toNat.Prime]

/-- The key of the signature (r, s) of the digest `e` with the recovery id. -/
structure IsRecovered (id e r s : ℤ) (c : Curve) [Fact c.p.toNat.Prime] (Q : Point) : Prop where
  finite : c.HasPoint Q
  subgroup : c.n • c.element Q = 0
  invertible : r % c.n ≠ 0
  ephemeral : ∃ K, c.HasPoint K ∧ c.n • c.element K = 0 ∧ K.x = r ∧ K.y % 2 = id ∧
    r • c.element Q + e • c.element c.G = s • c.element K

section Ephemeral

variable (hc : c.HasOddPrimeOrder) (hsize : 2 ≤ c.fieldSize)
include hc hsize

/-- The ephemeral point is the finite one there is, or a root of the cubic with zero or `p` for its
ordinate, or there is none. -/
lemma ephemeralPoint?_cases {id r : ℤ} (hid : id = 0 ∨ id = 1) (hr : 0 ≤ r) :
    (∃ K, ephemeralPoint? id r c = .ok (some K) ∧ c.HasPoint K ∧ K.x = r ∧ K.y % 2 = id) ∨
      (ephemeralPoint? id r c = .ok (some ⟨r, id * c.p⟩) ∧ r < c.p ∧ c.Satisfies ⟨r, 0⟩) ∨
      ephemeralPoint? id r c = .ok none ∧ ∀ y, r < c.p → ¬ c.Satisfies ⟨r, y⟩ := by
  have hx : r + id / 2 * c.n = r := by
    rcases hid with rfl | rfl <;> simp
  have hparity : id % 2 = id := by
    rcases hid with rfl | rfl <;> rfl
  rw [ephemeralPoint?, hx, hparity]
  split_ifs with hlarge
  · exact Or.inr (Or.inr ⟨rfl, fun y hsmall => absurd hsmall hlarge.not_gt⟩)
  rcases ordinate_cases hsize hc.hasArithmetic ⟨hr, not_le.1 hlarge⟩ hid with
    ⟨y, hy, hpoint, hyparity⟩ | ⟨hy, hroot⟩ | ⟨herror, hnone⟩
  · rw [hy]
    exact Or.inl ⟨_, rfl, hpoint, rfl, hyparity⟩
  · rw [hy]
    exact Or.inr (Or.inl ⟨rfl, not_le.1 hlarge, hroot⟩)
  · rw [herror]
    exact Or.inr (Or.inr ⟨rfl, fun y _ => hnone y⟩)

/-- The ephemeral point is found if there is one. -/
lemma ephemeralPoint?_spec (hodd : c.HasOddGroup) {id r : ℤ} (hid : id = 0 ∨ id = 1)
    (hr : 0 ≤ r) :
    ∃ result, ephemeralPoint? id r c = .ok result ∧
      ∀ K, result = some K ↔ c.HasPoint K ∧ K.x = r ∧ K.y % 2 = id := by
  rcases ephemeralPoint?_cases hc hsize hid hr with
    ⟨K, hresult, hK, hx, hparity⟩ | ⟨-, -, hroot⟩ | ⟨hresult, hnone⟩
  · refine ⟨some K, hresult, ?_⟩
    intro K'
    constructor
    · intro h
      obtain rfl := Option.some.inj h
      exact ⟨hK, hx, hparity⟩
    · rintro ⟨hK', hx', hparity'⟩
      rw [hK'.eq_of_parity_eq hc.p_ne_two hK (hx'.trans hx.symm) (hparity'.trans hparity.symm)]
  · exact absurd hroot (hodd.not_satisfies r)
  · refine ⟨none, hresult, ?_⟩
    intro K
    constructor
    · intro h
      cases h
    · rintro ⟨hK, rfl, -⟩
      exact absurd hK.satisfies (hnone K.y hK.abscissa.2)

end Ephemeral

section Law

variable [PointAddition] (law : c.ComputesInGroup) (hc : c.HasOddPrimeOrder)
  (hsize : 2 ≤ c.fieldSize)
include law hc

omit law [Fact c.p.toNat.Prime] hc in
lemma keyOfEphemeralPoint?_of_not_isInSubgroup {K : Point} (h : c.isInSubgroup K = .ok false)
    (e r s : ℤ) : keyOfEphemeralPoint? K e r s c = .ok none := by
  simp [keyOfEphemeralPoint?, h]

omit law in
lemma keyOfEphemeralPoint?_of_not_invertible {K : Point} (h : c.isInSubgroup K = .ok true)
    {r : ℤ} (hr : r % c.n = 0) (e s : ℤ) : keyOfEphemeralPoint? K e r s c = .ok none := by
  simp [keyOfEphemeralPoint?, h, reduce_eq_ok hc.n_pos, hr]

/-- Unless a check fails, the key is computed from the ephemeral point. -/
lemma exists_keyOfEphemeralPoint?_of_isInSubgroup {K : Point}
    (hK : K.IsInfinite ∨ c.HasPoint K) (hsubgroup : c.isInSubgroup K = .ok true) {r : ℤ}
    (hr : r % c.n ≠ 0) (e s : ℤ) :
    ∃ i A, i * r ≡ 1 [ZMOD c.n] ∧
      A = (i * s % c.n) • c.element K + (i * -e) • c.element c.G ∧
      keyOfEphemeralPoint? K e r s c =
        .ok (if (c.pointOf A).IsInfinite then none else some (c.pointOf A)) := by
  obtain ⟨i, hi, -, hinv⟩ := inverse_eq_ok (by linarith [hc.two_lt_n])
    (gcd_eq_one_of_prime hc.prime (mt Int.dvd_iff_emod_eq_zero.1 hr))
  obtain ⟨R, hR, hpoint⟩ := exists_sumOfMultiples law hc (Coordinates.point_coordinates K)
    (Coordinates.point_coordinates c.G) hK (Or.inr hc.generator) (i * s % c.n)
    (i * (-e % c.n) % c.n)
  have hminus : i * (-e % c.n) ≡ i * -e [ZMOD c.n] := (Int.mod_modEq _ _).mul_left i
  rw [Int.emod_emod, Int.emod_emod, emod_zsmul hc.n_zsmul_generator,
    zsmul_eq_of_modEq hc.n_zsmul_generator hminus] at hpoint
  refine ⟨i, _, hinv, rfl, ?_⟩
  simp [keyOfEphemeralPoint?, hsubgroup, reduce_eq_ok hc.n_pos, hr, hi, hR, hpoint]

variable (hodd : c.HasOddGroup)
include hodd

/-- The same for an ephemeral point of the subgroup. -/
lemma exists_keyOfEphemeralPoint?_eq {K : Point} (hK : c.HasPoint K) (hKn : c.n • c.element K = 0)
    {r : ℤ} (hr : r % c.n ≠ 0) (e s : ℤ) :
    ∃ i A, i * r ≡ 1 [ZMOD c.n] ∧ A = i • (s • c.element K - e • c.element c.G) ∧
      keyOfEphemeralPoint? K e r s c =
        .ok (if (c.pointOf A).IsInfinite then none else some (c.pointOf A)) := by
  have hsubgroup := isInSubgroup_eq_ok law hc (fun A => hodd.eq_zero_of_add_self) hK
  obtain ⟨i, A, hinv, hA, hresult⟩ := exists_keyOfEphemeralPoint?_of_isInSubgroup law hc
    (Or.inr hK) (hsubgroup.trans (congrArg Except.ok (decide_eq_true hKn))) hr e s
  refine ⟨i, A, hinv, ?_, hresult⟩
  rw [hA, emod_zsmul hKn, mul_zsmul, mul_zsmul, neg_zsmul, zsmul_neg, ← sub_eq_add_neg,
    ← zsmul_sub]

/-- The key that goes with an ephemeral point is found if there is one. -/
lemma keyOfEphemeralPoint?_spec {K : Point} (hK : c.HasPoint K) (e r s : ℤ) :
    ∃ result, keyOfEphemeralPoint? K e r s c = .ok result ∧
      ∀ Q, result = some Q ↔ c.HasPoint Q ∧ c.n • c.element Q = 0 ∧ r % c.n ≠ 0 ∧
        c.n • c.element K = 0 ∧ r • c.element Q + e • c.element c.G = s • c.element K := by
  have hsubgroup := isInSubgroup_eq_ok law hc (fun A => hodd.eq_zero_of_add_self) hK
  by_cases hKn : c.n • c.element K = 0
  swap
  · rw [decide_eq_false hKn] at hsubgroup
    exact ⟨none, keyOfEphemeralPoint?_of_not_isInSubgroup hsubgroup e r s, by simp [hKn]⟩
  rw [decide_eq_true hKn] at hsubgroup
  by_cases hr : r % c.n = 0
  · exact ⟨none, keyOfEphemeralPoint?_of_not_invertible hc hsubgroup hr e s, by simp [hr]⟩
  obtain ⟨i, A, hinv, hA, hresult⟩ := exists_keyOfEphemeralPoint?_eq law hc hodd hK hKn hr e s
  have htorsion : A + A = 0 → A = 0 := by
    intro h
    exact hodd.eq_zero_of_add_self h
  refine ⟨_, hresult, ?_⟩
  intro Q
  split_ifs with hinfinite
  · constructor
    · intro h
      cases h
    · rintro ⟨hQ, hQn, -, -, hequation⟩
      rw [hc.add_zsmul_generator_eq_iff hQn hKn hinv, ← hA] at hequation
      rw [← add_self_eq_zero_iff hc.p_ne_two] at hinfinite
      exact absurd (hequation.trans (htorsion hinfinite)) (hQ.element_ne_zero hc.p_ne_two)
  · have hpoint : c.HasPoint (c.pointOf A) :=
      hasPoint_pointOf hc.p_ne_two (mt (add_self_eq_zero_iff hc.p_ne_two).1 hinfinite)
    have helement : c.element (c.pointOf A) = A := element_pointOf hc.p_ne_two htorsion
    constructor
    · intro h
      obtain rfl := Option.some.inj h
      have hAn : c.n • c.element (c.pointOf A) = 0 := by
        rw [helement, hA, zsmul_comm, zsmul_sub, zsmul_comm, hKn, hc.n_zsmul_zsmul_generator,
          zsmul_zero, sub_zero, zsmul_zero]
      exact ⟨hpoint, hAn, hr, hKn,
        (hc.add_zsmul_generator_eq_iff hAn hKn hinv e s).2 (helement.trans hA)⟩
    · rintro ⟨hQ, hQn, -, -, hequation⟩
      rw [hc.add_zsmul_generator_eq_iff hQn hKn hinv, ← hA] at hequation
      rw [hQ.eq_of_element_eq hc.p_ne_two hpoint (hequation.trans helement.symm)]

include hsize

lemma recoverUnchecked_spec {id r : ℤ} (hid : id = 0 ∨ id = 1) (hr : 0 ≤ r) (e s : ℤ) :
    ∃ result, recoverUnchecked id e r s c = .ok result ∧
      ∀ Q, result = some Q ↔ IsRecovered id e r s c Q := by
  obtain ⟨K?, hK?, hephemeral⟩ := ephemeralPoint?_spec hc hsize hodd hid hr
  rw [recoverUnchecked, hK?, ok_bind]
  cases K? with
  | none =>
    refine ⟨none, rfl, ?_⟩
    intro Q
    constructor
    · intro h
      cases h
    · rintro ⟨-, -, -, K, hK, -, hx, hparity, -⟩
      cases (hephemeral K).2 ⟨hK, hx, hparity⟩
  | some K =>
    obtain ⟨hK, hx, hparity⟩ := (hephemeral K).1 rfl
    obtain ⟨result, hresult, hspec⟩ := keyOfEphemeralPoint?_spec law hc hodd hK e r s
    refine ⟨result, hresult, ?_⟩
    intro Q
    rw [hspec]
    constructor
    · rintro ⟨hQ, hQn, hrn, hKn, hequation⟩
      exact ⟨hQ, hQn, hrn, K, hK, hKn, hx, hparity, hequation⟩
    · rintro ⟨hQ, hQn, hrn, K', hK', hKn, hx', hparity', hequation⟩
      obtain rfl := Option.some.inj ((hephemeral K').2 ⟨hK', hx', hparity'⟩)
      exact ⟨hQ, hQn, hrn, hKn, hequation⟩

lemma recoverUnchecked_eq_some_iff {id r : ℤ} (hid : id = 0 ∨ id = 1) (hr : 0 ≤ r) {e s : ℤ}
    {Q : Point} : recoverUnchecked id e r s c = .ok (some Q) ↔ IsRecovered id e r s c Q := by
  obtain ⟨result, hresult, hspec⟩ := recoverUnchecked_spec law hc hsize hodd hid hr e s
  rw [hresult, Except.ok.injEq, hspec]

/-- Recovery gives exactly the keys there are, and it always comes to an answer. -/
theorem recoverPoint_eq_some_iff {id r s : ℤ} (hid : id = 0 ∨ id = 1) (hr : 0 ≤ r) (hs : 0 ≤ s)
    (digest : List UInt8) :
    ∃ result, recoverPoint id r s (some (.bytes digest)) c = .ok result ∧
      ∀ Q, result = some Q ↔ IsRecovered id (BigEndian.decode digest) r s c Q := by
  rw [recoverPoint_eq_recoverUnchecked hid hr hs]
  exact recoverUnchecked_spec law hc hsize hodd hid hr _ s

end Law

theorem recoverPoint_eq_some_iff_small :
    letI := reducedAddition
    ∃ result, recoverPoint 1 125 300 (some (.bytes [7, 7])) small = .ok result ∧
      ∀ Q, result = some Q ↔ IsRecovered 1 (BigEndian.decode [7, 7]) 125 300 small Q :=
  letI := reducedAddition
  recoverPoint_eq_some_iff small_computesInGroup small_hasOddPrimeOrder small_two_le_fieldSize
    small_hasOddGroup (Or.inr rfl) (by decide) (by decide) [7, 7]

/-! ### Coordinates of one byte -/

section OneByte

variable {id r : ℤ}

omit [Fact c.p.toNat.Prime] in
lemma ephemeralPoint?_of_fieldSize_eq_one (hbyte : c.fieldSize = 1) (ha : c.hasArithmetic = true)
    (hid : id = 0 ∨ id = 1) (hr : 0 ≤ r) :
    ephemeralPoint? id r c = .ok (if r < c.p then some ⟨r, r⟩ else none) := by
  have hx : r + id / 2 * c.n = r := by
    rcases hid with rfl | rfl <;> simp
  have hparity : id % 2 = id := by
    rcases hid with rfl | rfl <;> rfl
  rw [ephemeralPoint?, hx, hparity]
  by_cases hsmall : r < c.p
  · simp only [ordinate_of_fieldSize_eq_one hbyte ha ⟨hr, hsmall⟩ hid, hsmall, hsmall.not_ge,
      if_true, if_false]
  · simp only [hsmall, not_lt.1 hsmall, if_true, if_false]

omit [Fact c.p.toNat.Prime] in
/-- The recovery id makes no difference. -/
lemma recoverPoint_of_fieldSize_eq_one [PointAddition] (hbyte : c.fieldSize = 1)
    (ha : c.hasArithmetic = true) (hr : 0 ≤ r) {s : ℤ} (hs : 0 ≤ s) (digest : List UInt8) :
    recoverPoint 1 r s (some (.bytes digest)) c = recoverPoint 0 r s (some (.bytes digest)) c := by
  rw [recoverPoint_eq_recoverUnchecked (Or.inr rfl) hr hs,
    recoverPoint_eq_recoverUnchecked (Or.inl rfl) hr hs, recoverUnchecked, recoverUnchecked,
    ephemeralPoint?_of_fieldSize_eq_one hbyte ha (Or.inr rfl) hr,
    ephemeralPoint?_of_fieldSize_eq_one hbyte ha (Or.inl rfl) hr]

end OneByte

/-- The curve y² = x³ + x + 4 modulo 23, of 29 elements. -/
def Curve.oneByte : Curve where
  name := "oneByte"
  p := 23
  a := 1
  b := 4
  G := ⟨0, 2⟩
  n := 29
  h := 1
  hasArithmetic := true

namespace Curve

instance : Fact oneByte.p.toNat.Prime :=
  ⟨by show Nat.Prime 23; norm_num⟩

lemma oneByte_hasOddPrimeOrder : oneByte.HasOddPrimeOrder := by
  have hn : Nat.Prime oneByte.n.toNat := by
    show Nat.Prime 29
    norm_num
  have hG : oneByte.HasPoint oneByte.G := ⟨by decide, by decide, by decide⟩
  exact hasOddPrimeOrder_of_multiple (by decide) rfl hG hn (by decide) (by decide +kernel)

lemma oneByte_hasOddGroup : oneByte.HasOddGroup := by
  refine hasOddGroup_of_forall_not_satisfies (by decide) ?_ ?_
  · rw [discriminant_ne_zero_iff]
    decide
  · show ∀ x : ℤ, 0 ≤ x → x < 23 → ¬ oneByte.Satisfies ⟨x, 0⟩
    decide +kernel

end Curve

/-- With the abscissa 1 the ephemeral point is taken to be (1, 1), which is not on the curve. -/
theorem not_forall_exists_recoverPoint :
    ¬ ∀ (c : Curve) [Fact c.p.toNat.Prime] (id r s : ℤ) (digest : List UInt8),
      c.HasOddPrimeOrder → c.HasOddGroup → id = 0 ∨ id = 1 → 0 ≤ r → 0 ≤ s →
        ∃ result, recoverPoint id r s (some (.bytes digest)) c = .ok result := by
  intro h
  obtain ⟨result, hresult⟩ := h oneByte 1 1 3 [7] oneByte_hasOddPrimeOrder oneByte_hasOddGroup
    (Or.inr rfl) (by decide) (by decide)
  have hfails : failure? (recoverPoint 1 1 3 (some (.bytes [7])) oneByte) = some .inconsistent := by
    decide +kernel
  rw [hresult] at hfails
  cases hfails

end Ecdsa
