import Ecdsa.MessageSignature
import Ecdsa.Proofs.KeyPair
import Ecdsa.Proofs.Octets
import Ecdsa.Proofs.RecoverableSignature
import Ecdsa.Proofs.Recovery
import Ecdsa.Proofs.Signing

/-!
# Signing messages

Of the nonces that are drawn the degenerate ones are skipped, and so are the unlucky ones, whose
abscissa is not reduced, so that no recovery id leads back to the key. Signing stops at the first
good nonce, after too many degenerate ones in a row, or after too many unlucky ones. Where a
coordinate takes one byte recovery fails, and so may signing at a good nonce.
-/

namespace Ecdsa

open Ecdsa.Modular Curve

section Trial

variable {c : Curve} [Fact c.p.toNat.Prime] {d k e s : ℤ}

/-- The key of the signer is recovered with the parity of the ephemeral point, if its abscissa is
reduced. -/
lemma isRecovered_baseMultiple_iff (hc : c.HasOddPrimeOrder) (hd : 0 < d ∧ d < c.n)
    (hk : 0 < k ∧ k < c.n) (hr : c.nonceScalar k ≠ 0) (hs : IsNonceQuotient e d k c s) (id : ℤ) :
    IsRecovered id e (c.nonceScalar k) s c (c.baseMultiple d) ↔
      (c.baseMultiple k).x < c.n ∧ (c.baseMultiple k).y % 2 = id := by
  have hQ := hc.hasPoint_baseMultiple (not_dvd_of_pos_lt hd)
  have hK := hc.hasPoint_baseMultiple (not_dvd_of_pos_lt hk)
  have hKn := hc.n_zsmul_element_baseMultiple k
  have hequation : c.nonceScalar k • c.element (c.baseMultiple d) + e • c.element c.G =
      s • c.element (c.baseMultiple k) := by
    rw [hc.element_baseMultiple, hc.element_baseMultiple, ← mul_zsmul, ← mul_zsmul, ← add_zsmul,
      zsmul_eq_of_modEq hc.n_zsmul_generator hs.quotient, add_comm]
  have hrange := nonceScalar_nonneg_lt hc k
  constructor
  · rintro ⟨-, -, -, K, hK', hKn', hx, hparity, hequation'⟩
    obtain ⟨i, -, -, hinv⟩ := inverse_eq_ok (by linarith [hc.two_lt_n])
      (gcd_eq_one_of_prime hc.prime (not_dvd_of_pos_lt hs.range))
    have hn : c.n • s • c.element (c.baseMultiple k) = 0 := by
      rw [zsmul_comm, hKn, zsmul_zero]
    have helement : c.element K = c.element (c.baseMultiple k) :=
      ((zsmul_eq_iff hKn' hn hinv).1 (hequation'.symm.trans hequation)).trans
        ((zsmul_eq_iff hKn hn hinv).1 rfl).symm
    obtain rfl := hK'.eq_of_element_eq hc.p_ne_two hK helement
    rw [hx]
    exact ⟨hrange.2, hparity⟩
  · rintro ⟨hx, hparity⟩
    have hscalar : c.nonceScalar k = (c.baseMultiple k).x :=
      Int.emod_eq_of_lt hK.abscissa.1 hx
    refine ⟨hQ, ?_, ?_, _, hK, hKn, hscalar.symm, hparity, hequation⟩
    · exact hc.n_zsmul_element_baseMultiple d
    · rwa [Int.emod_eq_of_lt hrange.1 hrange.2]

variable [PointAddition] (law : c.ComputesInGroup) (hc : c.HasOddPrimeOrder)
  (hsize : 2 ≤ c.fieldSize) (hodd : c.HasOddGroup)
include law hc hsize hodd

/-- Among key integers, too, the key of the signer is recovered exactly if it is one of the keys. -/
lemma exists_recoverKeyInteger {id r : ℤ} (hid : id = 0 ∨ id = 1) (hr : 0 ≤ r) (hs : 0 ≤ s)
    (digest : List UInt8) {Q : Point} (hQ : c.HasPoint Q) :
    ∃ result, recoverKeyInteger id r s (some (.bytes digest)) c = .ok result ∧
      (result = some (c.keyNumber Q) ↔ IsRecovered id (BigEndian.decode digest) r s c Q) := by
  obtain ⟨result, hresult, hspec⟩ :=
    recoverUnchecked_spec law hc hsize hodd hid hr (BigEndian.decode digest) s
  rw [recoverKeyInteger, recoverPoint_eq_recoverUnchecked hid hr hs, hresult, ok_bind]
  cases result with
  | none => exact ⟨none, rfl, by simp [← hspec]⟩
  | some R =>
    have hR := ((hspec R).1 rfl).finite
    have hkey := keyInteger_eq_ok hc.hasArithmetic (Coordinates.point_coordinates R) hR
    refine ⟨some (c.keyNumber R), by simp only [hkey, map_ok], ?_⟩
    rw [← hspec, Option.some_inj, Option.some_inj]
    constructor
    · intro h
      exact hR.eq_of_keyNumber_eq hQ h
    · intro h
      rw [h]

/-- A trial finds a recovery id that recovers the key if there is one. -/
lemma exists_tryRecoveryIds {r : ℤ} (hr : 0 ≤ r) (hs : 0 ≤ s) (digest : List UInt8) {Q : Point}
    (hQ : c.HasPoint Q) (candidates : ℕ) (ids : List ℤ) (hids : ∀ id ∈ ids, id = 0 ∨ id = 1) :
    ∃ trial, tryRecoveryIds (c.keyNumber Q) r s digest c candidates ids = .ok trial ∧
      match trial with
      | .found id => IsRecovered id (BigEndian.decode digest) r s c Q
      | .mismatched _ => ∀ id ∈ ids, ¬ IsRecovered id (BigEndian.decode digest) r s c Q := by
  induction ids generalizing candidates with
  | nil => exact ⟨.mismatched candidates, rfl, by simp⟩
  | cons id ids ih =>
    obtain ⟨result, hresult, hspec⟩ := exists_recoverKeyInteger law hc hsize hodd
      (hids id List.mem_cons_self) hr hs digest hQ
    -- Once this recovery id fails, those left decide.
    have hrest : ∀ candidates, ¬ IsRecovered id (BigEndian.decode digest) r s c Q →
        ∃ trial, tryRecoveryIds (c.keyNumber Q) r s digest c candidates ids = .ok trial ∧
          match trial with
          | .found id => IsRecovered id (BigEndian.decode digest) r s c Q
          | .mismatched _ => ∀ i ∈ id :: ids, ¬ IsRecovered i (BigEndian.decode digest) r s c Q := by
      intro candidates hid
      obtain ⟨trial, htrial, h⟩ := ih candidates fun i hi => hids i (List.mem_cons_of_mem _ hi)
      refine ⟨trial, htrial, ?_⟩
      cases trial with
      | found => exact h
      | mismatched => exact List.forall_mem_cons.2 ⟨hid, h⟩
    rw [tryRecoveryIds, hresult, ok_bind]
    cases result with
    | none => exact hrest _ (mt hspec.2 (by simp))
    | some candidate =>
      rw [Option.some_inj] at hspec
      dsimp only
      split_ifs with heq
      · exact ⟨.found id, rfl, hspec.1 heq⟩
      · exact hrest _ (mt hspec.2 heq)

/-- With a signature of a nonce, the trial finds the parity of the ephemeral point, or else the
abscissa is not reduced. -/
lemma exists_trial (hd : 0 < d ∧ d < c.n) (hk : 0 < k ∧ k < c.n) (hr : c.nonceScalar k ≠ 0)
    {digest : List UInt8} (hs : IsNonceQuotient (BigEndian.decode digest) d k c s) :
    ∃ trial, tryRecoveryIds (c.keyNumber (c.baseMultiple d)) (c.nonceScalar k) s digest c 0 [0, 1] =
        .ok trial ∧
      match trial with
      | .found id => (c.baseMultiple k).x < c.n ∧ (c.baseMultiple k).y % 2 = id
      | .mismatched _ => c.n ≤ (c.baseMultiple k).x := by
  have hQ := hc.hasPoint_baseMultiple (not_dvd_of_pos_lt hd)
  have hrecovered := isRecovered_baseMultiple_iff hc hd hk hr hs
  obtain ⟨trial, htrial, hspec⟩ := exists_tryRecoveryIds law hc hsize hodd
    (nonceScalar_nonneg_lt hc k).1 hs.range.1.le digest hQ 0 [0, 1] (by simp)
  refine ⟨trial, htrial, ?_⟩
  cases trial with
  | found id => exact (hrecovered id).1 hspec
  | mismatched candidates =>
    by_contra hx
    have hparity := Int.emod_two_eq_zero_or_one (c.baseMultiple k).y
    exact hspec _ (by simpa using hparity) ((hrecovered _).2 ⟨not_le.1 hx, rfl⟩)

end Trial

/-! ### Where signing stops -/

section Stop

variable {c : Curve} [Fact c.p.toNat.Prime] {e d : ℤ} {ks : ℕ → ℤ} {i j attempts : ℕ}

/-- The nonce gives a signature that leads back to the key. -/
def IsGood (e d k : ℤ) (c : Curve) [Fact c.p.toNat.Prime] : Prop :=
  ¬ IsDegenerate e d k c ∧ (c.baseMultiple k).x < c.n

/-- The nonce gives a signature, but the abscissa of its point is not reduced. -/
def IsUnlucky (e d k : ℤ) (c : Curve) [Fact c.p.toNat.Prime] : Prop :=
  ¬ IsDegenerate e d k c ∧ c.n ≤ (c.baseMultiple k).x

/-- The nonces up to this one end in so many degenerate ones that an attempt is given up. They
belong to one attempt, as only other nonces end one. -/
def EndsDegenerate (e d : ℤ) (ks : ℕ → ℤ) (c : Curve) [Fact c.p.toNat.Prime] (i : ℕ) : Prop :=
  ∃ first, first + nonceAttempts = i + 1 ∧ ∀ j, first ≤ j → j ≤ i → IsDegenerate e d (ks j) c

open Classical in
/-- How many of the nonces up to this one are unlucky. -/
noncomputable def unluckyCount (e d : ℤ) (ks : ℕ → ℤ) (c : Curve) [Fact c.p.toNat.Prime]
    (i : ℕ) : ℕ :=
  Nat.count (fun j => IsUnlucky e d (ks j) c) (i + 1)

/-- There is a reason to stop at this nonce: it is good, the last in a row of degenerate ones, or
the last unlucky one that is allowed. -/
def StopsAt (attempts : ℕ) (e d : ℤ) (ks : ℕ → ℤ) (c : Curve) [Fact c.p.toNat.Prime]
    (i : ℕ) : Prop :=
  IsGood e d (ks i) c ∨ EndsDegenerate e d ks c i ∨
    IsUnlucky e d (ks i) c ∧ unluckyCount e d ks c i = attempts

/-- What signing comes to with the nonce that it stops at. -/
def IsOutcome (e d k : ℤ) (c : Curve) [Fact c.p.toNat.Prime] :
    Except Error RecoverableSignature → Prop
  | .ok sig => IsGood e d k c ∧ sig.v.toInt = (c.baseMultiple k).y % 2 ∧
      (sig.rInteger : ℤ) = (c.baseMultiple k).x ∧ IsNonceQuotient e d k c sig.sInteger
  | .error error => ¬ IsGood e d k c ∧ error.kind = .unsuccessful

/-- The run draws the nonces up to the first that there is reason to stop at. -/
structure IsSigningRun (attempts : ℕ) (e d : ℤ) (ks : ℕ → ℤ) (c : Curve) [Fact c.p.toNat.Prime]
    (supply : Supply) (run : Except Error RecoverableSignature × Supply) (i : ℕ) : Prop where
  stops : StopsAt attempts e d ks c i
  first : ∀ j < i, ¬ StopsAt attempts e d ks c j
  advances : supply.Advances (i + 1) run.2
  outcome : IsOutcome e d (ks i) c run.1

/-- A row of degenerate nonces is no reason to stop before it is long enough. -/
lemma not_stopsAt_of_isDegenerate (hi : i + 1 < nonceAttempts) (h : IsDegenerate e d (ks i) c) :
    ¬ StopsAt attempts e d ks c i := by
  rintro (hgood | ⟨first, hfirst, -⟩ | hunlucky)
  · exact hgood.1 h
  · omega
  · exact hunlucky.1.1 h

/-- The signature with a good nonce can be made, and its parts are as they should be. -/
lemma isOutcome_ofIntegers (hc : c.HasOddPrimeOrder) (hn : c.n ≤ 2 ^ 256) {k s : ℤ}
    (hk : 0 < k ∧ k < c.n) (hgood : IsGood e d k c) (hs : IsNonceQuotient e d k c s) :
    IsOutcome e d k c (RecoverableSignature.ofIntegers (.int ((c.baseMultiple k).y % 2))
      (c.nonceScalar k) s) := by
  have hK := hc.hasPoint_baseMultiple (not_dvd_of_pos_lt hk)
  have hr := nonceScalar_nonneg_lt hc k
  have hparity : (Numeral.int ((c.baseMultiple k).y % 2)).toInt = 0 ∨
      (Numeral.int ((c.baseMultiple k).y % 2)).toInt = 1 :=
    Int.emod_two_eq_zero_or_one _
  have hsig := RecoverableSignature.ofIntegers_eq_ok_iff.2
    ⟨hparity, ⟨hr.1, hr.2.trans_le hn⟩, ⟨hs.range.1.le, hs.range.2.trans_le hn⟩, rfl⟩
  obtain ⟨-, hv, hrint, hsint⟩ := RecoverableSignature.of_ofIntegers_eq_ok hsig
  rw [hsig]
  refine ⟨hgood, ?_, ?_, ?_⟩
  · rw [hv, Numeral.toInt_int]
  · rw [hrint]
    exact Int.emod_eq_of_lt hK.abscissa.1 hgood.2
  · rwa [hsint]

section Before

variable {supply : Supply} {run : Except Error RecoverableSignature × Supply}

/-- A run that comes to a good nonce in its first attempt stops there. -/
lemma IsSigningRun.of_isGood (hi : i < nonceAttempts)
    (hbefore : ∀ j < i, IsDegenerate e d (ks j) c) (hgood : IsGood e d (ks i) c)
    (hadvance : supply.Advances (i + 1) run.2) (houtcome : IsOutcome e d (ks i) c run.1) :
    IsSigningRun attempts e d ks c supply run i where
  stops := Or.inl hgood
  first j hj := not_stopsAt_of_isDegenerate (by omega) (hbefore j hj)
  advances := hadvance
  outcome := houtcome

/-- A run stops when it meets nothing but degenerate nonces in its first attempt. -/
lemma IsSigningRun.of_isDegenerate (hall : ∀ j < nonceAttempts, IsDegenerate e d (ks j) c)
    (hadvance : supply.Advances nonceAttempts run.2)
    (houtcome : run.1 = .error (.noUsableNonce nonceAttempts)) :
    IsSigningRun attempts e d ks c supply run (nonceAttempts - 1) where
  stops := Or.inr (Or.inl ⟨0, rfl, fun j _ hj => hall j (Nat.lt_succ_of_le hj)⟩)
  first j hj := not_stopsAt_of_isDegenerate (by omega) (hall j (by omega))
  advances := hadvance
  outcome := by
    rw [houtcome]
    exact ⟨fun hgood => hgood.1 (hall _ (by decide)), rfl⟩

end Before

section Unlucky

variable (hbefore : ∀ j < i, IsDegenerate e d (ks j) c) (h : IsUnlucky e d (ks i) c)
include hbefore h

lemma unluckyCount_eq_one : unluckyCount e d ks c i = 1 := by
  classical
  have hnone : Nat.count (fun j => IsUnlucky e d (ks j) c) i = 0 :=
    Nat.count_of_forall_not fun j hj hunlucky => hunlucky.1 (hbefore j hj)
  rw [unluckyCount, Nat.count_succ, if_pos h]
  convert congrArg (· + 1) hnone

/-- After the first unlucky nonce there is one more than among those left. -/
lemma unluckyCount_add :
    unluckyCount e d ks c (i + 1 + j) = unluckyCount e d (fun j => ks (i + 1 + j)) c j + 1 := by
  have hone := unluckyCount_eq_one hbefore h
  rw [unluckyCount] at hone ⊢
  rw [Nat.add_assoc (i + 1), Nat.count_add, hone, unluckyCount, Nat.add_comm]

lemma not_stopsAt_of_isUnlucky (hattempts : attempts ≠ 1) : ¬ StopsAt attempts e d ks c i := by
  rintro (hgood | ⟨first, hfirst, hdeg⟩ | hunlucky)
  · exact h.2.not_gt hgood.2
  · rw [nonceAttempts] at hfirst
    exact h.1 (hdeg i (by omega) le_rfl)
  · rw [unluckyCount_eq_one hbefore h] at hunlucky
    exact hattempts hunlucky.2.symm

/-- Where signing stops after the first unlucky nonce is where it would with the nonces left. -/
lemma stopsAt_add_iff :
    StopsAt (attempts + 1) e d ks c (i + 1 + j) ↔
      StopsAt attempts e d (fun j => ks (i + 1 + j)) c j := by
  have hrow : EndsDegenerate e d ks c (i + 1 + j) ↔
      EndsDegenerate e d (fun j => ks (i + 1 + j)) c j := by
    constructor
    · rintro ⟨first, hfirst, hdeg⟩
      have hlate : i < first := by
        by_contra hle
        exact h.1 (hdeg i (not_lt.1 hle) (by omega))
      exact ⟨first - (i + 1), by omega, fun j _ hj => hdeg _ (by omega) (by omega)⟩
    · rintro ⟨first, hfirst, hdeg⟩
      refine ⟨i + 1 + first, by omega, fun m hm hm' => ?_⟩
      obtain ⟨m, rfl⟩ := Nat.exists_eq_add_of_le (show i + 1 ≤ m by omega)
      exact hdeg m (by omega) (by omega)
  rw [StopsAt, StopsAt, hrow, unluckyCount_add hbefore h, Nat.add_right_cancel_iff]

/-- A run after the first unlucky nonce is a run that allows one more. -/
lemma IsSigningRun.add {supply supply' : Supply} {run : Except Error RecoverableSignature × Supply}
    (hi : i < nonceAttempts) (hadvance : supply.Advances (i + 1) supply')
    (hrun : IsSigningRun (attempts + 1) e d (fun j => ks (i + 1 + j)) c supply' run j) :
    IsSigningRun (attempts + 2) e d ks c supply run (i + 1 + j) where
  stops := (stopsAt_add_iff hbefore h).2 hrun.stops
  first m hm := by
    rcases lt_trichotomy m i with hmi | rfl | hmi
    · exact not_stopsAt_of_isDegenerate (by omega) (hbefore m hmi)
    · exact not_stopsAt_of_isUnlucky hbefore h (by omega)
    · obtain ⟨m, rfl⟩ := Nat.exists_eq_add_of_le (show i + 1 ≤ m from hmi)
      rw [stopsAt_add_iff hbefore h]
      exact hrun.first m (by omega)
  advances := hadvance.trans hrun.advances
  outcome := hrun.outcome

end Unlucky

end Stop

/-! ### Runs -/

section Attempt

variable [PointAddition] {pair : KeyPair} {key : ℤ} {digest : List UInt8} {mismatches left : ℕ}
  {supply supply' : Supply}

lemma trySignatures_of_error {error : Error}
    (h : signDigest digest (.number pair.privateKey) none pair.curve .blake2b256 supply =
      (.error error, supply')) :
    trySignatures pair key digest mismatches (left + 1) supply = (.error error, supply') := by
  rw [trySignatures, run_bind_error h]

variable {sig : Signature}
  (h : signDigest digest (.number pair.privateKey) none pair.curve .blake2b256 supply =
    (.ok sig, supply'))
include h

lemma trySignatures_of_found {id : ℤ} (htrial : tryRecoveryIds key sig.r.toInt sig.s.toInt digest
    pair.curve 0 [0, 1] = .ok (.found id)) :
    trySignatures pair key digest mismatches (left + 1) supply =
      (RecoverableSignature.ofIntegers (.int id) sig.r.toInt sig.s.toInt, supply') := by
  rw [trySignatures, run_bind_ok h, htrial]
  rfl

/-- An attempt that finds no recovery id is followed by the next. -/
lemma trySignatures_of_mismatched {candidates : ℕ} (htrial : tryRecoveryIds key sig.r.toInt
    sig.s.toInt digest pair.curve 0 [0, 1] = .ok (.mismatched candidates)) :
    ∃ mismatches' supply'', trySignatures pair key digest mismatches (left + 1) supply =
      trySignatures pair key digest mismatches' left supply'' ∧ supply'.Advances 0 supply'' := by
  obtain ⟨supply'', hrecord, hadvance⟩ := supply'.advances_record
    (.recoveryIdMissing (signAttempts - left) candidates)
  refine ⟨if candidates = 0 then mismatches else mismatches + 1, supply'', ?_, hadvance⟩
  rw [trySignatures, run_bind_ok h, htrial, run_bind_ok (run_lift _)]
  exact run_bind_ok hrecord _

end Attempt

section Run

variable [PointAddition] {pair : KeyPair} [Fact pair.curve.p.toNat.Prime]
  (law : pair.curve.ComputesInGroup) (hc : pair.curve.HasOddPrimeOrder)
  (hsize : 2 ≤ pair.curve.fieldSize) (hodd : pair.curve.HasOddGroup)
  (hn : pair.curve.n ≤ 2 ^ 256) (hpair : pair.IsValid) {digest : List UInt8} (hdigest : digest.length = HashFunction.blake2b256.digestSize)
  {ks : ℕ → ℤ} (hks : ∀ i, 0 < ks i ∧ ks i < pair.curve.n) {e d : ℤ}
  (he : e = BigEndian.decode digest % pair.curve.n) (hd : d = pair.privateKey.toInt)
include law hc hsize hodd hn hpair hdigest hks he hd

/-- An attempt is the end of signing, or it comes to an unlucky nonce. -/
lemma attempt_spec {supply : Supply} (hsupply : supply.Gives ks) (mismatches left : ℕ) :
    (∃ i, ∀ attempts, IsSigningRun attempts e d ks pair.curve supply
      (trySignatures pair (pair.curve.keyNumber (pair.curve.baseMultiple d)) digest mismatches
        (left + 1) supply) i) ∨
    ∃ i < nonceAttempts, (∀ j < i, IsDegenerate e d (ks j) pair.curve) ∧
      IsUnlucky e d (ks i) pair.curve ∧ ∃ mismatches' supply',
        trySignatures pair (pair.curve.keyNumber (pair.curve.baseMultiple d)) digest mismatches
          (left + 1) supply =
        trySignatures pair (pair.curve.keyNumber (pair.curve.baseMultiple d)) digest mismatches'
          left supply' ∧ supply.Advances (i + 1) supply' := by
  have hchallenge : pair.curve.challenge .blake2b256 digest =
      .ok (BigEndian.decode digest % pair.curve.n) :=
    challenge_eq_ok hc.n_pos rfl hdigest
  have hsign : signDigest digest (.number pair.privateKey) none pair.curve .blake2b256 supply =
      tryNonces e d pair.curve nonceAttempts supply := by
    rw [signDigest_none (privateKey_number_eq_ok_iff.2 ⟨hpair.privateKey, rfl⟩) hchallenge, ← he,
      ← hd]
  rcases tryNonces_spec (law.multipliesGenerator hc) hc hks hsupply nonceAttempts with
    ⟨i, hi, hbefore, hnot, s, supply₁, heq, hs, hadvance⟩ | ⟨hall, supply₁, heq, hadvance⟩
  · have hd' : 0 < d ∧ d < pair.curve.n := hd ▸ hpair.privateKey
    have he' : e ≡ BigEndian.decode digest [ZMOD pair.curve.n] := he ▸ Int.mod_modEq _ _
    obtain ⟨trial, htrial, hspec⟩ :=
      exists_trial law hc hsize hodd hd' (hks i) (not_or.1 hnot).1 (hs.of_modEq he')
    cases trial with
    | found id =>
      left
      obtain ⟨hx, rfl⟩ := hspec
      refine ⟨i, ?_⟩
      intro attempts
      rw [trySignatures_of_found (hsign.trans heq) htrial]
      exact .of_isGood hi hbefore ⟨hnot, hx⟩ hadvance
        (isOutcome_ofIntegers hc hn (hks i) ⟨hnot, hx⟩ hs)
    | mismatched candidates =>
      right
      obtain ⟨mismatches', supply₂, heq', hadvance'⟩ :=
        trySignatures_of_mismatched (hsign.trans heq) htrial
      exact ⟨i, hi, hbefore, ⟨hnot, hspec⟩, mismatches', supply₂, heq', hadvance.trans hadvance'⟩
  · left
    refine ⟨nonceAttempts - 1, ?_⟩
    intro attempts
    rw [trySignatures_of_error (hsign.trans heq)]
    exact .of_isDegenerate hall hadvance rfl

/-- Signing runs to the first nonce that there is reason to stop at. -/
lemma exists_isSigningRun {supply : Supply} (hsupply : supply.Gives ks)
    (attempts mismatches : ℕ) :
    ∃ i, IsSigningRun (attempts + 1) e d ks pair.curve supply
      (trySignatures pair (pair.curve.keyNumber (pair.curve.baseMultiple d)) digest mismatches
        (attempts + 1) supply) i := by
  induction attempts generalizing supply ks mismatches with
  | zero =>
    rcases attempt_spec law hc hsize hodd hn hpair hdigest hks he hd hsupply mismatches 0 with
      ⟨i, hrun⟩ | ⟨i, hi, hbefore, hunlucky, mismatches', supply', heq, hadvance⟩
    · exact ⟨i, hrun 1⟩
    · rw [heq]
      exact ⟨i, Or.inr (Or.inr ⟨hunlucky, unluckyCount_eq_one hbefore hunlucky⟩),
        fun j hj => not_stopsAt_of_isDegenerate (by omega) (hbefore j hj), hadvance,
        fun hgood => hunlucky.2.not_gt hgood.2, rfl⟩
  | succ attempts ih =>
    rcases attempt_spec law hc hsize hodd hn hpair hdigest hks he hd hsupply mismatches
      (attempts + 1) with
      ⟨i, hrun⟩ | ⟨i, hi, hbefore, hunlucky, mismatches', supply', heq, hadvance⟩
    · exact ⟨i, hrun (attempts + 2)⟩
    · obtain ⟨j, hrun⟩ := ih (fun j => hks (i + 1 + j)) (hsupply.advance hadvance) mismatches'
      rw [heq]
      exact ⟨i + 1 + j, hrun.add hbefore hunlucky hi hadvance⟩

end Run

lemma length_of_messageDigest {message : Octets} {hashFirst : Bool} {digest : List UInt8}
    (h : messageDigest message hashFirst = .ok digest) :
    digest.length = HashFunction.blake2b256.digestSize := by
  cases hashFirst with
  | false =>
    rw [messageDigest] at h
    exact (Octets.sized_exactly_eq_ok_iff.1 h).2
  | true =>
    rw [messageDigest, if_pos rfl, HashFunction.digestOctets] at h
    cases hread : message.read with
    | error e =>
      rw [hread] at h
      cases h
    | ok bytes =>
      rw [hread] at h
      obtain rfl := Except.ok.inj h
      exact Blake2b.length_digest (by decide) bytes

/-- Signing a message is a run through the nonces, with the challenge of its digest. -/
theorem signMessage_isSigningRun [PointAddition] {pair : KeyPair}
    [Fact pair.curve.p.toNat.Prime] (law : pair.curve.ComputesInGroup)
    (hc : pair.curve.HasOddPrimeOrder) (hsize : 2 ≤ pair.curve.fieldSize)
    (hodd : pair.curve.HasOddGroup) (hn : pair.curve.n ≤ 2 ^ 256) (hpair : pair.IsValid)
    {message : Octets} {hashFirst : Bool} {digest : List UInt8} (hmessage : messageDigest message hashFirst = .ok digest)
    {ks : ℕ → ℤ} (hks : ∀ i, 0 < ks i ∧ ks i < pair.curve.n) {supply : Supply}
    (hsupply : supply.Gives ks) :
    ∃ e i, pair.curve.challenge .blake2b256 digest = .ok e ∧
      IsSigningRun signAttempts e pair.privateKey.toInt ks pair.curve supply
        (signMessage message (.keyPair pair) hashFirst supply) i := by
  have hlength := length_of_messageDigest hmessage
  have hvalid : (Signer.keyPair pair).validKeyPair = .ok pair := by
    rw [Signer.validKeyPair,
      (KeyPair.assertValid_eq_ok_iff (law.multipliesGenerator hc) hc).2 hpair, ok_bind, pure_eq_ok]
  have hkey := hpair.publicKeyInteger_eq_ok hc
  obtain ⟨i, hrun⟩ :=
    exists_isSigningRun law hc hsize hodd hn hpair hlength hks rfl rfl hsupply (signAttempts - 1) 0
  refine ⟨_, i, challenge_eq_ok hc.n_pos rfl hlength, ?_⟩
  have hsign : signMessage message (.keyPair pair) hashFirst supply =
      trySignatures pair (pair.curve.keyNumber
        (pair.curve.baseMultiple pair.privateKey.toInt)) digest 0 signAttempts supply := by
    rw [signMessage, hvalid, hmessage, run_bind_ok (run_lift _), run_bind_ok (run_lift _), hkey,
      run_bind_ok (run_lift _)]
  rw [hsign]
  exact hrun

theorem signMessage_isSigningRun_small :
    letI := reducedAddition
    ∃ e i, small.challenge .blake2b256 (List.replicate 32 (7 : UInt8)) = .ok e ∧
      IsSigningRun signAttempts e 5 (fun _ => 12) small (.ofNumbers fun _ => some 11)
        (signMessage (List.replicate 32 (7 : UInt8)) (.keyPair .small) false
          (.ofNumbers fun _ => some 11)) i :=
  letI := reducedAddition
  signMessage_isSigningRun small_computesInGroup small_hasOddPrimeOrder small_two_le_fieldSize
    small_hasOddGroup (by decide) KeyPair.isValid_small rfl (fun _ => by decide) fun _ => rfl

/-! ### Coordinates of one byte -/

lemma Curve.oneByte_baseMultiple_five : oneByte.baseMultiple 5 = ⟨7, 20⟩ := by
  have heval : (oneByte.multBase 5).toOption = some ⟨7, 20⟩ := by decide +kernel
  rw [multBase_eq oneByte_hasOddPrimeOrder] at heval
  exact Option.some.inj heval

/-- The key pair of the private key 5 where a coordinate takes one byte. -/
def KeyPair.oneByte : KeyPair :=
  ⟨(5 : ℤ), (⟨7, 20⟩ : Point), Curve.oneByte⟩

instance : Fact KeyPair.oneByte.curve.p.toNat.Prime :=
  inferInstanceAs (Fact Curve.oneByte.p.toNat.Prime)

lemma KeyPair.isValid_oneByte : KeyPair.oneByte.IsValid where
  privateKey := by decide
  publicKey := congrArg Except.ok Curve.oneByte_baseMultiple_five.symm

/-- The nonce 2 is good, but its ephemeral point is then taken to be (13, 13), with which signing
fails. -/
lemma exists_signMessage_oneByte_eq_error :
    ∃ e, (signMessage (List.replicate 32 (7 : UInt8)) (.keyPair .oneByte) false
      (.ofNumbers fun _ => some 1)).1 = .error e ∧ e.kind = .inconsistent := by
  rw [← failure?_eq_some_iff]
  decide +kernel

theorem not_forall_signMessage_isSigningRun :
    ¬ ∀ (pair : KeyPair) [Fact pair.curve.p.toNat.Prime] (message : Octets) (hashFirst : Bool)
      (digest : List UInt8) (ks : ℕ → ℤ) (supply : Supply), pair.curve.HasOddPrimeOrder →
        pair.curve.HasOddGroup → pair.curve.n ≤ 2 ^ 256 → pair.IsValid →
        messageDigest message hashFirst = .ok digest →
        (∀ i, 0 < ks i ∧ ks i < pair.curve.n) → supply.Gives ks →
          ∃ e i, pair.curve.challenge .blake2b256 digest = .ok e ∧
            IsSigningRun signAttempts e pair.privateKey.toInt ks pair.curve supply
              (signMessage message (.keyPair pair) hashFirst supply) i := by
  intro h
  obtain ⟨e, i, -, hrun⟩ := h .oneByte (List.replicate 32 (7 : UInt8)) false _ (fun _ => 2)
    (.ofNumbers fun _ => some 1) oneByte_hasOddPrimeOrder oneByte_hasOddGroup (by decide)
    KeyPair.isValid_oneByte rfl (fun _ => by decide) fun _ => rfl
  obtain ⟨error, herror, hkind⟩ := exists_signMessage_oneByte_eq_error
  have houtcome := hrun.outcome
  rw [herror] at houtcome
  cases hkind.symm.trans houtcome.2

end Ecdsa
