import Ecdsa.Proofs.Recovery
import Ecdsa.Proofs.Verification

/-!
# Candidates

Recovery and verification look at the same ephemeral point from two sides: recovery solves
`r Q + e G = s K` for the key `Q`, verification for the point `K`. Where a coordinate takes two bytes
or more, they agree about a key unless the abscissa of `K` was reduced to `r`.
-/

namespace Ecdsa

open Ecdsa.Modular Curve

section Candidates

variable {c : Curve} [Fact c.p.toNat.Prime] [PointAddition] {e e' r s id : ℤ} {Q K : Point}

/-- The point with which the signature (r, s) of `e` is verified under the key `Q`. -/
structure IsVerificationPoint (e r s : ℤ) (c : Curve) [Fact c.p.toNat.Prime] [PointAddition]
    (Q K : Point) : Prop where
  computed : verificationPoint e Q r s c = .ok K
  onCurve : K.IsInfinite ∨ c.HasPoint K
  subgroup : c.n • c.element K = 0
  equation : s • c.element K = e • c.element c.G + r • c.element Q

lemma IsVerificationPoint.unique {K' : Point} (h : IsVerificationPoint e r s c Q K)
    (h' : IsVerificationPoint e r s c Q K') : K = K' :=
  Except.ok.inj (h.computed.symm.trans h'.computed)

section Law

variable (law : c.ComputesInGroup) (hc : c.HasOddPrimeOrder)
include law hc

lemma exists_isVerificationPoint (hQ : c.HasPoint Q) (hn : c.n • c.element Q = 0) (e r : ℤ)
    (hs : ¬ c.n ∣ s) : ∃ K, IsVerificationPoint e r s c Q K := by
  obtain ⟨w, hw, hpoint⟩ := verifiesUnder law hc (Coordinates.point_coordinates Q) (Or.inr hQ) hn
    e r hs
  have hBn := hc.n_zsmul_combination hn e r
  set B := e • c.element c.G + r • c.element Q
  have hAn : c.n • w • B = 0 := by
    rw [zsmul_comm, hBn, zsmul_zero]
  have helement : c.element (c.pointOf (w • B)) = w • B :=
    element_pointOf hc.p_ne_two (hc.eq_zero_of_add_self hAn)
  refine ⟨_, hpoint, ?_, by rw [helement, hAn], ?_⟩
  · by_cases h : w • B + w • B = 0
    · exact Or.inl ((add_self_eq_zero_iff hc.p_ne_two).1 h)
    · exact Or.inr (hasPoint_pointOf hc.p_ne_two h)
  · rw [helement]
    exact (zsmul_eq_iff hAn hBn hw).2 rfl

/-- A finite point that satisfies the equation is the one that verification computes. -/
lemma isVerificationPoint_of_equation (hQ : c.HasPoint Q) (hn : c.n • c.element Q = 0)
    (hs : ¬ c.n ∣ s) (hK : c.HasPoint K) (hKn : c.n • c.element K = 0)
    (heq : s • c.element K = e • c.element c.G + r • c.element Q) :
    IsVerificationPoint e r s c Q K := by
  obtain ⟨L, hL⟩ := exists_isVerificationPoint law hc hQ hn e r hs
  obtain ⟨w, -, -, hw⟩ := inverse_eq_ok (by linarith [hc.two_lt_n])
    (gcd_eq_one_of_prime hc.prime hs)
  have hKL : c.element K = c.element L := by
    rw [(zsmul_eq_iff hKn (by rw [zsmul_comm, hL.subgroup, zsmul_zero]) hw).1
      (heq.trans hL.equation.symm), ← mul_zsmul, zsmul_eq_of_modEq hL.subgroup hw, one_zsmul]
  have hLK : c.HasPoint L := by
    refine hL.onCurve.resolve_left ?_
    intro h
    rw [element_of_isInfinite h] at hKL
    exact hK.element_ne_zero hc.p_ne_two hKL
  rwa [hK.eq_of_element_eq hc.p_ne_two hLK hKL]

/-! ### Recovered keys -/

/-- The ephemeral point of a recovered key is the verification point under it. -/
lemma IsRecovered.exists_isVerificationPoint {r' s' : ℤ} (h : IsRecovered id e r s c Q)
    (he : e' ≡ e [ZMOD c.n]) (hr : r' ≡ r [ZMOD c.n]) (hs : s' ≡ s [ZMOD c.n])
    (hs' : ¬ c.n ∣ s') :
    ∃ K, IsVerificationPoint e' r' s' c Q K ∧ c.HasPoint K ∧ K.x = r ∧ K.y % 2 = id := by
  obtain ⟨K, hK, hKn, hx, hparity, heq⟩ := h.ephemeral
  refine ⟨K, ?_, hK, hx, hparity⟩
  apply isVerificationPoint_of_equation law hc h.finite h.subgroup hs' hK hKn
  calc s' • c.element K
    _ = s • c.element K := zsmul_eq_of_modEq hKn hs
    _ = e • c.element c.G + r • c.element Q := by rw [← heq, add_comm]
    _ = e' • c.element c.G + r' • c.element Q := by
      rw [zsmul_eq_of_modEq hc.n_zsmul_generator he, zsmul_eq_of_modEq h.subgroup hr]

/-- A key is recovered with one recovery id only. -/
lemma IsRecovered.id_eq {id' : ℤ} (hs : ¬ c.n ∣ s) (h : IsRecovered id e r s c Q)
    (h' : IsRecovered id' e r s c Q) : id = id' := by
  obtain ⟨K, hK, -, -, hparity⟩ :=
    h.exists_isVerificationPoint law hc (Int.ModEq.refl e) (Int.ModEq.refl r) (Int.ModEq.refl s) hs
  obtain ⟨L, hL, -, -, hparity'⟩ :=
    h'.exists_isVerificationPoint law hc (Int.ModEq.refl e) (Int.ModEq.refl r) (Int.ModEq.refl s) hs
  rw [← hparity, ← hparity', hK.unique hL]

/-- A key is recovered if the abscissa of the verification point is the scalar `r` itself. -/
lemma isRecovered_iff (hQ : c.HasPoint Q) (hn : c.n • c.element Q = 0) (he : e' ≡ e [ZMOD c.n])
    (hr : ¬ c.n ∣ r) (hs : ¬ c.n ∣ s) (hK : IsVerificationPoint e' r s c Q K) :
    IsRecovered id e r s c Q ↔ (c.HasPoint K ∧ K.x = r) ∧ K.y % 2 = id := by
  constructor
  · intro h
    obtain ⟨L, hL, hLpoint, hx, hparity⟩ :=
      h.exists_isVerificationPoint law hc he (Int.ModEq.refl r) (Int.ModEq.refl s) hs
    rw [hK.unique hL]
    exact ⟨⟨hLpoint, hx⟩, hparity⟩
  · rintro ⟨⟨hpoint, hx⟩, hparity⟩
    have heq : r • c.element Q + e • c.element c.G = s • c.element K := by
      rw [hK.equation, zsmul_eq_of_modEq hc.n_zsmul_generator he, add_comm]
    exact ⟨hQ, hn, mt Int.dvd_iff_emod_eq_zero.2 hr, K, hpoint, hK.subgroup, hx, hparity, heq⟩

omit law in
/-- Verification compares the scalar `r` with the abscissa of the verification point. -/
lemma IsVerificationPoint.holds_iff (hK : IsVerificationPoint e r s c Q K)
    {hash : HashFunction} {digest : Octets} (he : c.challenge hash digest = .ok e)
    {key : PublicKeyForm} (hkey : c.publicKeyOf key = .ok Q)
    (hrs : (0 < r ∧ r < c.n) ∧ 0 < s ∧ s < c.n) :
    verifyDigest digest key ⟨r, s, c⟩ hash = true ↔ c.HasPoint K ∧ r = K.x % c.n := by
  rw [verifyDigest_iff he hkey, assertEquation_of_verificationPoint hc.n_pos hK.computed]
  constructor
  · rintro ⟨-, hfinite, hr⟩
    exact ⟨hK.onCurve.resolve_left hfinite, hr⟩
  · rintro ⟨hpoint, hr⟩
    exact ⟨hrs, hpoint.not_isInfinite, hr⟩

omit law in
/-- If the abscissa is below the order, nothing is lost where it is reduced. -/
lemma IsVerificationPoint.holds_and_lt_iff (hK : IsVerificationPoint e r s c Q K)
    {hash : HashFunction} {digest : Octets} (he : c.challenge hash digest = .ok e)
    {key : PublicKeyForm} (hkey : c.publicKeyOf key = .ok Q) (hr : 0 < r ∧ r < c.n)
    (hs : 0 < s ∧ s < c.n) :
    verifyDigest digest key ⟨r, s, c⟩ hash = true ∧ K.x < c.n ↔ c.HasPoint K ∧ K.x = r := by
  rw [hK.holds_iff hc he hkey ⟨hr, hs⟩]
  constructor
  · rintro ⟨⟨hpoint, hx⟩, hlt⟩
    rw [Int.emod_eq_of_lt hpoint.abscissa.1 hlt] at hx
    exact ⟨hpoint, hx.symm⟩
  · rintro ⟨hpoint, rfl⟩
    exact ⟨⟨hpoint, (Int.emod_eq_of_lt hr.1.le hr.2).symm⟩, hr.2⟩

/-- A recovered key is one under which the reduced signature holds, if this has a scalar `s`. -/
lemma IsRecovered.verifyDigest_emod (h : IsRecovered id e r s c Q) (hs : ¬ c.n ∣ s)
    {hash : HashFunction} {digest : Octets} (he : c.challenge hash digest = .ok (e % c.n))
    {key : PublicKeyForm} (hkey : c.publicKeyOf key = .ok Q) :
    verifyDigest digest key ⟨r % c.n, s % c.n, c⟩ hash = true := by
  have hrange := emod_pos_lt hc.n_pos h.invertible
  have hsrange := emod_pos_lt hc.n_pos (mt Int.dvd_iff_emod_eq_zero.2 hs)
  obtain ⟨K, hK, hpoint, hx, -⟩ := h.exists_isVerificationPoint law hc (Int.mod_modEq e c.n)
    (Int.mod_modEq r c.n) (Int.mod_modEq s c.n) (not_dvd_of_pos_lt hsrange)
  rw [hK.holds_iff hc he hkey ⟨hrange, hsrange⟩, hx]
  exact ⟨hpoint, rfl⟩

variable (hsize : 2 ≤ c.fieldSize) (hodd : c.HasOddGroup)
include hsize hodd

lemma recoverPoint_eq_some_iff_isRecovered (hid : id = 0 ∨ id = 1) (hr : 0 ≤ r) (hs : 0 ≤ s)
    {digest : Octets} {bytes : List UInt8} (hread : digest.read = .ok bytes) :
    recoverPoint id r s (some digest) c = .ok (some Q) ↔
      IsRecovered id (BigEndian.decode bytes) r s c Q := by
  rw [recoverPoint_of_read hid hr hs hread, recoverUnchecked_eq_some_iff law hc hsize hodd hid hr]

/-- A key under which a signature holds is recovered exactly if the abscissa of the verification
point is below the order, with the parity of its ordinate and with no other recovery id. -/
theorem recoverPoint_iff_verifyDigest {hash : HashFunction} {digest : Octets}
    {bytes : List UInt8} (hread : digest.read = .ok bytes)
    (hlength : bytes.length = hash.digestSize) (hr : 0 < r ∧ r < c.n) (hs : 0 < s ∧ s < c.n)
    (hQ : c.HasPoint Q) (hn : c.n • c.element Q = 0) :
    ∃ e K, c.challenge hash digest = .ok e ∧ IsVerificationPoint e r s c Q K ∧
      ((∃ id, (id = 0 ∨ id = 1) ∧ recoverPoint id r s (some digest) c = .ok (some Q)) ↔
        verifyDigest digest Q ⟨r, s, c⟩ hash = true ∧ K.x < c.n) ∧
      (∀ id, id = 0 ∨ id = 1 → (recoverPoint id r s (some digest) c = .ok (some Q) ↔
        (verifyDigest digest Q ⟨r, s, c⟩ hash = true ∧ K.x < c.n) ∧ K.y % 2 = id)) ∧
      ∀ R, ¬ (recoverPoint 0 r s (some digest) c = .ok (some R) ∧
        recoverPoint 1 r s (some digest) c = .ok (some R)) := by
  have he := challenge_eq_ok hc.n_pos hread hlength
  have hmod := Int.mod_modEq (BigEndian.decode bytes : ℤ) c.n
  have hr' := not_dvd_of_pos_lt hr
  have hs' := not_dvd_of_pos_lt hs
  have hkey := publicKeyOf_coordinates hc (Coordinates.point_coordinates Q) hQ
  obtain ⟨K, hK⟩ := exists_isVerificationPoint law hc hQ hn (BigEndian.decode bytes % c.n) r hs'
  have hrecover : ∀ id, id = 0 ∨ id = 1 → (recoverPoint id r s (some digest) c = .ok (some Q) ↔
      (verifyDigest digest Q ⟨r, s, c⟩ hash = true ∧ K.x < c.n) ∧ K.y % 2 = id) := by
    intro id hid
    rw [recoverPoint_eq_some_iff_isRecovered law hc hsize hodd hid hr.1.le hs.1.le hread,
      isRecovered_iff law hc hQ hn hmod hr' hs' hK, hK.holds_and_lt_iff hc he hkey hr hs]
  refine ⟨_, K, he, hK, ?_, hrecover, ?_⟩
  · constructor
    · rintro ⟨id, hid, h⟩
      exact ((hrecover id hid).1 h).1
    · intro h
      have hid := Int.emod_two_eq_zero_or_one K.y
      exact ⟨_, hid, (hrecover _ hid).2 ⟨h, rfl⟩⟩
  · rintro R ⟨h₀, h₁⟩
    rw [recoverPoint_eq_some_iff_isRecovered law hc hsize hodd (Or.inl rfl) hr.1.le hs.1.le
      hread] at h₀
    rw [recoverPoint_eq_some_iff_isRecovered law hc hsize hodd (Or.inr rfl) hr.1.le hs.1.le
      hread] at h₁
    cases h₀.id_eq law hc hs' h₁

end Law

end Candidates

/-- The signature with the nonce 12. -/
theorem recoverPoint_iff_verifyDigest_small :
    letI := reducedAddition
    verifyDigest (.bytes (List.replicate 32 1)) (⟨114, 46⟩ : Point)
      ⟨(125 : ℤ), (128 : ℤ), small⟩ .sha256 = true ∧
    ∃ e K, small.challenge .sha256 (.bytes (List.replicate 32 1)) = .ok e ∧
      IsVerificationPoint e 125 128 small ⟨114, 46⟩ K ∧
      ((∃ id, (id = 0 ∨ id = 1) ∧ recoverPoint id 125 128
          (some (.bytes (List.replicate 32 1))) small = .ok (some ⟨114, 46⟩)) ↔
        verifyDigest (.bytes (List.replicate 32 1)) (⟨114, 46⟩ : Point)
          ⟨(125 : ℤ), (128 : ℤ), small⟩ .sha256 = true ∧ K.x < small.n) ∧
      (∀ id, id = 0 ∨ id = 1 → (recoverPoint id 125 128 (some (.bytes (List.replicate 32 1))) small =
          .ok (some ⟨114, 46⟩) ↔
        (verifyDigest (.bytes (List.replicate 32 1)) (⟨114, 46⟩ : Point)
          ⟨(125 : ℤ), (128 : ℤ), small⟩ .sha256 = true ∧ K.x < small.n) ∧ K.y % 2 = id)) ∧
      ∀ R, ¬ (recoverPoint 0 125 128 (some (.bytes (List.replicate 32 1))) small = .ok (some R) ∧
        recoverPoint 1 125 128 (some (.bytes (List.replicate 32 1))) small = .ok (some R)) :=
  letI := reducedAddition
  ⟨by decide +kernel, recoverPoint_iff_verifyDigest small_computesInGroup small_hasOddPrimeOrder
    small_two_le_fieldSize small_hasOddGroup rfl (by decide) (by decide) (by decide)
    ⟨by decide, by decide, by decide⟩
    (small_baseMultiple_five ▸ small_hasOddPrimeOrder.n_zsmul_element_baseMultiple 5)⟩

/-- The signature (13, 7) of seven holds under five times the generator, but where a coordinate takes
one byte its ephemeral point is taken to be (13, 13). -/
theorem not_forall_recoverPoint_iff_verifyDigest :
    ¬ ∀ (c : Curve) [Fact c.p.toNat.Prime] (hash : HashFunction) (digest : List UInt8) (e r s : ℤ)
      (Q K : Point), c.HasOddPrimeOrder → c.HasOddGroup → digest.length = hash.digestSize →
        (0 < r ∧ r < c.n) → (0 < s ∧ s < c.n) → c.HasPoint Q → c.n • c.element Q = 0 →
        c.challenge hash (.bytes digest) = .ok e → verificationPoint e Q r s c = .ok K →
          ((∃ id, (id = 0 ∨ id = 1) ∧
              recoverPoint id r s (some (.bytes digest)) c = .ok (some Q)) ↔
            verifyDigest (.bytes digest) Q ⟨r, s, c⟩ hash = true ∧ K.x < c.n) := by
  intro h
  have hpoint : oneByte.HasPoint ⟨7, 20⟩ := ⟨by decide, by decide, by decide⟩
  have hsubgroup : oneByte.n • oneByte.element ⟨7, 20⟩ = 0 :=
    (zsmul_element_eq_zero_iff_multiple (by decide) hpoint _).2 (by decide +kernel)
  have hK : (verificationPoint 7 (⟨7, 20⟩ : Point) 13 7 oneByte).toOption = some ⟨13, 12⟩ := by
    decide +kernel
  have hiff := h oneByte .sha256 (List.replicate 31 0 ++ [7]) 7 13 7 ⟨7, 20⟩ ⟨13, 12⟩
    oneByte_hasOddPrimeOrder oneByte_hasOddGroup rfl (by decide) (by decide) hpoint hsubgroup rfl
    (toOption_eq_some_iff.1 hK)
  obtain ⟨id, hid, hrecover⟩ := hiff.2 ⟨by decide +kernel, by decide⟩
  have hfails : (recoverPoint 0 13 7 (some (.bytes (List.replicate 31 0 ++ [7]))) oneByte).isOk =
      false := by
    decide +kernel
  rcases hid with rfl | rfl
  · rw [hrecover] at hfails
    cases hfails
  · rw [recoverPoint_of_fieldSize_eq_one rfl rfl (by decide) (by decide)] at hrecover
    rw [hrecover] at hfails
    cases hfails

end Ecdsa
