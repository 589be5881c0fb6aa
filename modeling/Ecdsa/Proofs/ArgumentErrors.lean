import Ecdsa.Proofs.Closure
import Ecdsa.Proofs.RoundTrip

/-!
# Errors in the arguments of signing

Signing a message checks its arguments first, and a check that fails blames a value before anything
is drawn or logged. After the checks nothing that is computed fails where a coordinate takes two
bytes or more: recovery comes to an answer for every signature, and its parts have the right size.
What is left are the limits of the attempts (`tellsArgumentErrors`).
-/

namespace Ecdsa

open Ecdsa.Modular Curve

/-! ### Checks -/

section Checks

variable {α β : Type} {condition : Prop} {x : Except Error α}

/-- The step has a result exactly if the condition holds, and blames a value otherwise. -/
structure Checks {α : Type} (condition : Prop) (x : Except Error α) : Prop where
  passes_iff : (∃ a, x = .ok a) ↔ condition
  blames : ∀ e, x = .error e → e.BlamesValue

lemma Checks.exists_error (hx : Checks condition x) (h : ¬ condition) :
    ∃ e, x = .error e ∧ e.BlamesValue := by
  cases hresult : x with
  | ok a => exact absurd (hx.passes_iff.1 ⟨a, hresult⟩) h
  | error e => exact ⟨e, rfl, hx.blames e hresult⟩

/-- A step that does not fail after the check changes nothing about it. -/
lemma Checks.bind {f : α → Except Error β} (hx : Checks condition x)
    (hf : ∀ a, x = .ok a → ∃ b, f a = .ok b) : Checks condition (x >>= f) where
  passes_iff := by
    rw [← hx.passes_iff]
    constructor
    · rintro ⟨b, h⟩
      obtain ⟨a, ha, -⟩ := bind_eq_ok_iff.1 h
      exact ⟨a, ha⟩
    · rintro ⟨a, ha⟩
      obtain ⟨b, hb⟩ := hf a ha
      exact ⟨b, by rw [ha, ok_bind, hb]⟩
  blames e h := by
    rcases bind_eq_error_iff.1 h with h | ⟨a, ha, h⟩
    · exact hx.blames e h
    · obtain ⟨b, hb⟩ := hf a ha
      rw [hb] at h
      cases h

end Checks

/-- What can be signed: octets, which are those of a digest unless they are hashed first. -/
def IsMessage (message : Octets) (hashFirst : Bool) : Prop :=
  ∃ bytes, message.read = .ok bytes ∧ (hashFirst = false → bytes.length = 32)

lemma checks_messageDigest (message : Octets) (hashFirst : Bool) :
    Checks (IsMessage message hashFirst) (messageDigest message hashFirst) := by
  cases hashFirst with
  | false =>
    refine ⟨?_, fun e h => Octets.blamesValue_of_sized_eq_error h⟩
    simp only [messageDigest, Bool.false_eq_true, if_false, IsMessage, forall_const]
    exact exists_congr fun bytes => Octets.sized_exactly_eq_ok_iff
  | true =>
    rw [messageDigest, if_pos rfl, HashFunction.digestOctets]
    refine ⟨?_, fun e h => Octets.blamesValue_of_read_eq_error (map_eq_error_iff.1 h)⟩
    cases hread : message.read <;> simp [IsMessage, hread]

/-- What can be a private key: a number in range, or octets of the size of a scalar that are read as
one. -/
def Curve.IsPrivateKey (c : Curve) : IntegerForm → Prop
  | .number d => 0 < d.toInt ∧ d.toInt < c.n
  | .octets octets => ∃ bytes, octets.read = .ok bytes ∧ bytes.length = c.orderSize ∧
      0 < (BigEndian.decode bytes : ℤ) ∧ (BigEndian.decode bytes : ℤ) < c.n

lemma Curve.checks_privateKey (c : Curve) (key : IntegerForm) :
    Checks (c.IsPrivateKey key) (c.privateKey key) := by
  constructor
  case passes_iff =>
    cases key with
    | number d => simp only [privateKey_number_eq_ok_iff, exists_eq_right', IsPrivateKey]
    | octets octets =>
      simp only [privateKey_eq_ok_iff, readPrivateKey_octets_eq_ok_iff]
      constructor
      · rintro ⟨_, ⟨bytes, hread, hsize, rfl⟩, hrange⟩
        exact ⟨bytes, hread, hsize, hrange⟩
      · rintro ⟨bytes, hread, hsize, hrange⟩
        exact ⟨_, ⟨bytes, hread, hsize, rfl⟩, hrange⟩
  case blames =>
    intro e h
    rcases privateKey_eq_error_iff.1 h with ⟨rfl, -⟩ | ⟨rfl, -⟩
    · exact Or.inl rfl
    · exact Or.inl rfl

lemma Curve.blamesValue_of_requireOnCurve_eq_error {c : Curve} (ha : c.hasArithmetic = true)
    {Q : Coordinates} {P : Point} (hQ : Q.point = .ok P) {e : Error}
    (h : c.requireOnCurve Q = .error e) : e.BlamesValue := by
  rw [requireOnCurve, hQ, ok_bind, bind_eq_error_iff] at h
  rcases h with h | ⟨b, -, h⟩
  · exact blamesValue_of_contains_eq_error ha h
  · split_ifs at h
    · cases h
    · obtain rfl := Except.error.inj h
      exact Or.inl rfl

/-- A key pair is checked for the parts that belong together, if its public key is a pair. -/
lemma KeyPair.checks_assertValid {k : KeyPair} [Fact k.curve.p.toNat.Prime]
    (hc : k.curve.HasOddPrimeOrder) {P : Point} (hP : k.publicKey.point = .ok P) :
    Checks k.IsValid k.assertValid := by
  have hG : k.curve.MultipliesGenerator := multBase_eq hc
  constructor
  case passes_iff =>
    rw [← assertValid_eq_ok_iff hG hc]
    constructor
    · rintro ⟨⟨⟩, h⟩
      exact h
    · intro h
      exact ⟨(), h⟩
  case blames =>
    intro e h
    simp only [assertValid, throw_eq_error, error_bind] at h
    split_ifs at h with hd
    · rw [bind_eq_error_iff] at h
      rcases h with h | ⟨Q, -, h⟩
      · exact blamesValue_of_requireOnCurve_eq_error hc.hasArithmetic hP h
      · rw [Curve.publicKey_eq_ok hG hc hd, ok_bind] at h
        split_ifs at h
        · cases h
          exact Or.inl rfl
        · cases h
          exact Or.inl rfl
        · cases h
    · cases h
      exact Or.inl rfl

/-! ### Signers -/

namespace Signer

/-- The private key of a signer. -/
def key : Signer → IntegerForm
  | keyPair k => .number k.privateKey
  | privateKey key => key

/-- The private key of the signer is one, and the public key of a key pair is the private key times
the generator. -/
structure IsValid (signer : Signer) [Fact signer.curve.p.toNat.Prime] : Prop where
  privateKey : signer.curve.IsPrivateKey signer.key
  publicKey : ∀ k, signer = .keyPair k →
    k.publicKey.point = .ok (signer.curve.baseMultiple k.privateKey.toInt)

lemma isValid_keyPair_iff {k : KeyPair} [Fact k.curve.p.toNat.Prime] :
    (keyPair k).IsValid ↔ k.IsValid := by
  constructor
  · rintro ⟨hd, hQ⟩
    exact ⟨hd, hQ k rfl⟩
  · rintro ⟨hd, hQ⟩
    refine ⟨hd, ?_⟩
    rintro k' h
    cases h
    exact hQ

lemma isValid_privateKey_iff {key : IntegerForm} [Fact (privateKey key).curve.p.toNat.Prime] :
    (privateKey key).IsValid ↔ Curve.secp256k1.IsPrivateKey key := by
  constructor
  · intro h
    exact h.privateKey
  · intro h
    refine ⟨h, ?_⟩
    intro k hk
    cases hk

variable {signer : Signer} [prime : Fact signer.curve.p.toNat.Prime]
  (hc : signer.curve.HasOddPrimeOrder)
include hc

/-- The signer has a valid key pair exactly if it is valid. -/
lemma checks_validKeyPair (hpair : ∀ k, signer = .keyPair k → ∃ P, k.publicKey.point = .ok P) :
    Checks signer.IsValid signer.validKeyPair := by
  cases signer with
  | keyPair k =>
    have : Fact k.curve.p.toNat.Prime := prime
    obtain ⟨P, hP⟩ := hpair k rfl
    rw [isValid_keyPair_iff]
    exact (KeyPair.checks_assertValid hc hP).bind fun _ _ => ⟨k, rfl⟩
  | privateKey key =>
    have : Fact Curve.secp256k1.p.toNat.Prime := prime
    have hc : Curve.secp256k1.HasOddPrimeOrder := hc
    rw [isValid_privateKey_iff]
    refine (Curve.secp256k1.checks_privateKey key).bind ?_
    intro d hd
    rw [Curve.publicKey_eq_ok (multBase_eq hc) hc (Curve.of_privateKey_eq_ok hd)]
    exact ⟨_, rfl⟩

/-- The key pair of a valid signer is valid, and it is on the curve of the signer. -/
lemma exists_validKeyPair (h : signer.IsValid) :
    ∃ d Q, signer.validKeyPair = .ok ⟨d, Q, signer.curve⟩ ∧
      KeyPair.IsValid ⟨d, Q, signer.curve⟩ := by
  cases signer with
  | keyPair k =>
    have : Fact k.curve.p.toNat.Prime := prime
    rw [isValid_keyPair_iff] at h
    refine ⟨k.privateKey, k.publicKey, ?_, h⟩
    rw [validKeyPair, (KeyPair.assertValid_eq_ok_iff (multBase_eq hc) hc).2 h]
    rfl
  | privateKey key =>
    have : Fact Curve.secp256k1.p.toNat.Prime := prime
    have hc : Curve.secp256k1.HasOddPrimeOrder := hc
    rw [isValid_privateKey_iff] at h
    obtain ⟨d, hd⟩ := (Curve.secp256k1.checks_privateKey key).passes_iff.2 h
    refine ⟨d, _, ?_, KeyPair.isValid_of_privateKey_eq_ok hd⟩
    rw [validKeyPair, KeyPair.ofPrivateKey, hd, ok_bind,
      Curve.publicKey_eq_ok (multBase_eq hc) hc (Curve.of_privateKey_eq_ok hd)]
    rfl

end Signer

/-! ### Recovery -/

section Recovery

variable {c : Curve} [Fact c.p.toNat.Prime] (hc : c.HasOddPrimeOrder)
include hc

/-- The subgroup test comes to an answer. -/
lemma Curve.exists_isInSubgroup_eq_ok {K : Point} (hK : c.HasPoint K) :
    ∃ b, c.isInSubgroup K = .ok b := by
  have hon := requireOnCurve_eq_ok (Coordinates.point_coordinates K)
    ((contains_iff hc.hasArithmetic).2 (Or.inr hK))
  obtain ⟨R, P, hR, hP, -⟩ := givesPoint_unreducedMultiple hc.isUsable hc.n_pos.le hon
  rw [isInSubgroup, hR, ok_bind, (of_requireOnCurve_eq_ok hP).1]
  exact ⟨_, rfl⟩

/-- A key that goes with a finite point is finite, even if the sums are not those of the group. -/
lemma exists_keyOfEphemeralPoint? {K : Point} (hK : c.HasPoint K) (e r s : ℤ) :
    ∃ result, keyOfEphemeralPoint? K e r s c = .ok result ∧
      ∀ Q, result = some Q → c.HasPoint Q := by
  obtain ⟨b, hb⟩ := exists_isInSubgroup_eq_ok hc hK
  cases b with
  | false => exact ⟨none, keyOfEphemeralPoint?_of_not_isInSubgroup hb e r s, by simp⟩
  | true =>
    by_cases hr : r % c.n = 0
    · exact ⟨none, keyOfEphemeralPoint?_of_not_invertible hc hb hr e s, by simp⟩
    · obtain ⟨i, hi, -⟩ := inverse_eq_ok (by linarith [hc.two_lt_n])
        (gcd_eq_one_of_prime hc.prime (mt Int.dvd_iff_emod_eq_zero.1 hr))
      have hon {D : Point} (hD : c.HasPoint D) : c.requireOnCurve D = .ok D :=
        requireOnCurve_eq_ok (Coordinates.point_coordinates D)
          ((contains_iff hc.hasArithmetic).2 (Or.inr hD))
      obtain ⟨R, Q, hR, hQ, hpoint⟩ := givesPoint_sumOfMultiples hc.isUsable
        (value_number (i * s % c.n)) (value_number (i * (-e % c.n) % c.n)) (hon hK)
        (hon hc.generator)
      refine ⟨if Q.IsInfinite then none else some Q, ?_, ?_⟩
      · simp [keyOfEphemeralPoint?, hb, reduce_eq_ok hc.n_pos, hr, hi, hR,
          (of_requireOnCurve_eq_ok hQ).1]
      · intro Q' h
        split_ifs at h with hinfinite
        obtain rfl := Option.some.inj h
        exact hpoint.resolve_left hinfinite

variable (hsize : 2 ≤ c.fieldSize) (hodd : c.HasOddGroup)
include hsize hodd

/-- Recovery comes to an answer for all scalars that are not negative. -/
lemma exists_recoverKeyInteger_eq_ok {id r s : ℤ} (hid : id = 0 ∨ id = 1) (hr : 0 ≤ r)
    (hs : 0 ≤ s) (digest : List UInt8) :
    ∃ result, recoverKeyInteger id r s (some (.bytes digest)) c = .ok result := by
  rw [recoverKeyInteger, recoverPoint_eq_recoverUnchecked hid hr hs, recoverUnchecked]
  obtain ⟨K?, hK?, hspec⟩ := ephemeralPoint?_spec hc hsize hodd hid hr
  rw [hK?, ok_bind]
  cases K? with
  | none => exact ⟨none, rfl⟩
  | some K =>
    obtain ⟨result, hresult, hfinite⟩ := exists_keyOfEphemeralPoint? hc ((hspec K).1 rfl).1
      (BigEndian.decode digest) r s
    dsimp only
    rw [hresult, ok_bind]
    cases result with
    | none => exact ⟨none, rfl⟩
    | some Q =>
      have hkey := keyInteger_eq_ok hc.hasArithmetic (Coordinates.point_coordinates Q)
        (hfinite Q rfl)
      exact ⟨some (c.keyNumber Q), by simp only [hkey, map_ok]⟩

lemma exists_tryRecoveryIds_eq_ok (key : ℤ) {r s : ℤ} (hr : 0 ≤ r) (hs : 0 ≤ s)
    (digest : List UInt8) (candidates : ℕ) (ids : List ℤ) (hids : ∀ id ∈ ids, id = 0 ∨ id = 1) :
    ∃ trial, tryRecoveryIds key r s digest c candidates ids = .ok trial ∧
      ∀ id, trial = .found id → id = 0 ∨ id = 1 := by
  induction ids generalizing candidates with
  | nil => exact ⟨.mismatched candidates, rfl, by simp⟩
  | cons id ids ih =>
    rw [List.forall_mem_cons] at hids
    obtain ⟨result, hresult⟩ := exists_recoverKeyInteger_eq_ok hc hsize hodd hids.1 hr hs digest
    rw [tryRecoveryIds, hresult, ok_bind]
    cases result with
    | none => exact ih candidates hids.2
    | some candidate =>
      dsimp only
      split_ifs
      · refine ⟨.found id, rfl, ?_⟩
        intro id' h
        cases h
        exact hids.1
      · exact ih (candidates + 1) hids.2

end Recovery

/-! ### Attempts -/

/-- The errors that no argument is to blame for. -/
inductive IsBadLuck (number : ℕ → Option ℤ) : Error → Prop where
  | nonces : IsBadLuck number (.noUsableNonce nonceAttempts)
  | recoveryIds (mismatches : ℕ) : IsBadLuck number (.noRecoveryId signAttempts mismatches)
  | draws (i : ℕ) (h : number i = none) : IsBadLuck number .drawsExhausted

lemma IsBadLuck.not_blamesValue {number : ℕ → Option ℤ} {error : Error}
    (h : IsBadLuck number error) : ¬ error.BlamesValue := by
  cases h <;> rintro (hkind | hkind) <;> cases hkind

section Attempts

variable {number : ℕ → Option ℤ}

lemma yields_tryNonces {c : Curve} [Fact c.p.toNat.Prime] (hc : c.HasOddPrimeOrder)
    (hrange : ∀ i x, number i = some x → 0 < 1 + x ∧ 1 + x < c.n) (e d : ℤ) (left : ℕ) :
    Yields number (tryNonces e d c left)
      (fun sig => ∃ k, (0 < k ∧ k < c.n) ∧ signWithNonce e d k c = .ok sig) (IsBadLuck number) := by
  induction left with
  | zero => exact .throw .nonces
  | succ left ih =>
    refine (Yields.drawScalar hrange .draws).bind ?_
    intro k hk
    cases hsign : signWithNonce e d k c with
    | ok sig => exact .pure ⟨k, hk, hsign⟩
    | error cause =>
      have hkind := (isDegenerate_of_signWithNonce_eq_error (multBase_eq hc) hc hk hsign).2
      dsimp only
      rw [if_pos hkind]
      exact (Yields.record _).bind fun _ _ => ih

lemma yields_trySignatures {pair : KeyPair} [Fact pair.curve.p.toNat.Prime]
    (hc : pair.curve.HasOddPrimeOrder) (hsize : 2 ≤ pair.curve.fieldSize)
    (hodd : pair.curve.HasOddGroup) (hn : pair.curve.n ≤ 2 ^ 256) (hpair : pair.IsValid)
    {digest : List UInt8} (hdigest : digest.length = HashFunction.blake2b256.digestSize)
    (hrange : ∀ i x, number i = some x → 0 < 1 + x ∧ 1 + x < pair.curve.n) (key : ℤ)
    (mismatches left : ℕ) :
    Yields number (trySignatures pair key digest mismatches left) (fun _ => True)
      (IsBadLuck number) := by
  induction left generalizing mismatches with
  | zero => exact .throw (.recoveryIds mismatches)
  | succ left ih =>
    have hsign : signDigest digest (.number pair.privateKey) none pair.curve .blake2b256 =
        tryNonces (BigEndian.decode digest % pair.curve.n) pair.privateKey.toInt pair.curve
          nonceAttempts :=
      funext fun supply => signDigest_none
        (privateKey_number_eq_ok_iff.2 ⟨hpair.privateKey, rfl⟩)
        (challenge_eq_ok hc.n_pos rfl hdigest)
    rw [trySignatures, hsign]
    refine (yields_tryNonces hc hrange _ _ _).bind ?_
    rintro sig ⟨k, hk, hmade⟩
    obtain ⟨s, rfl, hr, hs⟩ := exists_scalar_of_signWithNonce (multBase_eq hc) hc hk hmade
    obtain ⟨trial, htrial, hfound⟩ := exists_tryRecoveryIds_eq_ok hc hsize hodd key hr.1.le
      hs.range.1.le digest 0 [0, 1] (by simp)
    refine .bind_of_eq_ok htrial ?_
    cases trial with
    | found id =>
      have hsig : RecoverableSignature.ofIntegers (.int id) (pair.curve.nonceScalar k) s = .ok _ :=
        RecoverableSignature.ofIntegers_eq_ok_iff.2 ⟨hfound id rfl, ⟨hr.1.le, hr.2.trans_le hn⟩,
          ⟨hs.range.1.le, hs.range.2.trans_le hn⟩, rfl⟩
      exact .lift hsig trivial
    | mismatched candidates => exact (Yields.record _).bind fun _ _ => ih _

end Attempts

/-! ### Signing a message -/

/-- Errors in the arguments are told apart from bad luck. -/
structure TellsArgumentErrors (message : Octets) (signer : Signer) (hashFirst : Bool)
    [Fact signer.curve.p.toNat.Prime] : Prop where
  /-- With nonces in range, a value is blamed exactly if the key or the message is not valid, where a
  coordinate takes two bytes or more. -/
  blamesValue_iff : 2 ≤ signer.curve.fieldSize → ∀ supply : Supply, supply.InRange signer.curve.n →
    ((∃ e, (signMessage message signer hashFirst supply).1 = .error e ∧ e.BlamesValue) ↔
      ¬ (signer.IsValid ∧ IsMessage message hashFirst))
  /-- If one of them is not, a value is blamed, and nothing was drawn and nothing logged. -/
  leavesSupply : ¬ (signer.IsValid ∧ IsMessage message hashFirst) → ∀ supply : Supply,
    ∃ e, signMessage message signer hashFirst supply = (.error e, supply) ∧ e.BlamesValue
  /-- Otherwise signing fails only at one of the limits of the attempts, if nonces never run out and
  a coordinate takes two bytes or more. -/
  eq_limit : 2 ≤ signer.curve.fieldSize → signer.IsValid → IsMessage message hashFirst →
    ∀ supply : Supply, supply.InRange signer.curve.n → (∀ i, ∃ x, supply.number i = some x) →
    ∀ e, (signMessage message signer hashFirst supply).1 = .error e → e.kind = .unsuccessful ∧
      (e = .noUsableNonce nonceAttempts ∨ ∃ mismatches, e = .noRecoveryId signAttempts mismatches)

section SignMessage

variable {message : Octets} {signer : Signer} {hashFirst : Bool}
  [Fact signer.curve.p.toNat.Prime] (hc : signer.curve.HasOddPrimeOrder)
include hc

/-- An argument that is not valid stops signing before anything is drawn. -/
lemma exists_signMessage_eq_error
    (hpair : ∀ k, signer = .keyPair k → ∃ P, k.publicKey.point = .ok P)
    (h : ¬ (signer.IsValid ∧ IsMessage message hashFirst)) (supply : Supply) :
    ∃ e, signMessage message signer hashFirst supply = (.error e, supply) ∧ e.BlamesValue := by
  by_cases hsigner : signer.IsValid
  · obtain ⟨d, Q, hvalid, -⟩ := Signer.exists_validKeyPair hc hsigner
    obtain ⟨e, he, hblames⟩ := (checks_messageDigest message hashFirst).exists_error
      fun hmessage => h ⟨hsigner, hmessage⟩
    refine ⟨e, ?_, hblames⟩
    rw [signMessage, hvalid, run_bind_ok (run_lift _), he, run_bind_error (run_lift _)]
  · obtain ⟨e, he, hblames⟩ := (Signer.checks_validKeyPair hc hpair).exists_error hsigner
    refine ⟨e, ?_, hblames⟩
    rw [signMessage, he, run_bind_error (run_lift _)]

/-- With valid arguments no argument is to blame. -/
lemma isBadLuck_of_signMessage (hsize : 2 ≤ signer.curve.fieldSize)
    (hodd : signer.curve.HasOddGroup) (hn : signer.curve.n ≤ 2 ^ 256) (hsigner : signer.IsValid)
    (hmessage : IsMessage message hashFirst) {supply : Supply} (hsupply : supply.InRange signer.curve.n) {e : Error}
    (h : (signMessage message signer hashFirst supply).1 = .error e) :
    IsBadLuck supply.number e := by
  obtain ⟨d, Q, hvalid, hpair⟩ := Signer.exists_validKeyPair hc hsigner
  obtain ⟨digest, hdigest⟩ := (checks_messageDigest message hashFirst).passes_iff.2 hmessage
  have hkey := hpair.publicKeyInteger_eq_ok hc
  obtain ⟨outcome, supply', hrun, -, houtcome⟩ := yields_trySignatures hc hsize hodd hn hpair
    (length_of_messageDigest hdigest) hsupply _ 0 signAttempts supply rfl
  rw [signMessage, hvalid, run_bind_ok (run_lift _), hdigest, run_bind_ok (run_lift _), hkey,
    run_bind_ok (run_lift _), hrun] at h
  obtain rfl : outcome = .error e := h
  exact houtcome

theorem tellsArgumentErrors (hodd : signer.curve.HasOddGroup) (hn : signer.curve.n ≤ 2 ^ 256)
    (hpair : ∀ k, signer = .keyPair k → ∃ P, k.publicKey.point = .ok P) :
    TellsArgumentErrors message signer hashFirst where
  blamesValue_iff hsize supply hsupply := by
    constructor
    · rintro ⟨e, he, hblames⟩ ⟨hsigner, hmessage⟩
      have hluck := isBadLuck_of_signMessage hc hsize hodd hn hsigner hmessage hsupply he
      exact hluck.not_blamesValue hblames
    · intro h
      obtain ⟨e, he, hblames⟩ := exists_signMessage_eq_error hc hpair h supply
      exact ⟨e, by rw [he], hblames⟩
  leavesSupply h supply := exists_signMessage_eq_error hc hpair h supply
  eq_limit hsize hsigner hmessage supply hsupply hunlimited e he := by
    cases isBadLuck_of_signMessage hc hsize hodd hn hsigner hmessage hsupply he with
    | nonces => exact ⟨rfl, Or.inl rfl⟩
    | recoveryIds mismatches => exact ⟨rfl, Or.inr ⟨mismatches, rfl⟩⟩
    | draws i hnone =>
      obtain ⟨x, hx⟩ := hunlimited i
      cases hx.symm.trans hnone

end SignMessage

theorem tellsArgumentErrors_small :
    TellsArgumentErrors (List.replicate 32 (7 : UInt8)) (.keyPair .small) false :=
  tellsArgumentErrors small_hasOddPrimeOrder small_hasOddGroup (by decide) fun k hk => by
    cases hk
    exact ⟨_, rfl⟩

/-- Where a coordinate takes one byte, signing may fail for another reason. -/
theorem not_forall_eq_limit :
    ¬ ∀ (message : Octets) (signer : Signer) (hashFirst : Bool)
      [Fact signer.curve.p.toNat.Prime] (supply : Supply) (e : Error),
        signer.curve.HasOddPrimeOrder → signer.curve.HasOddGroup → signer.curve.n ≤ 2 ^ 256 →
        signer.IsValid → IsMessage message hashFirst → supply.InRange signer.curve.n →
        (∀ i, ∃ x, supply.number i = some x) →
        (signMessage message signer hashFirst supply).1 = .error e → e.kind = .unsuccessful := by
  intro h
  have hrange : (Supply.ofNumbers fun _ => some 1).InRange oneByte.n := by
    intro i x hx
    cases hx
    decide
  obtain ⟨e, herror, hkind⟩ := exists_signMessage_oneByte_eq_error
  cases hkind.symm.trans (h (List.replicate 32 (7 : UInt8)) (.keyPair .oneByte) false
    (.ofNumbers fun _ => some 1) e oneByte_hasOddPrimeOrder oneByte_hasOddGroup (by decide)
    (Signer.isValid_keyPair_iff.2 KeyPair.isValid_oneByte) ⟨_, rfl, fun _ => rfl⟩ hrange
    (fun _ => ⟨1, rfl⟩) herror)

end Ecdsa
