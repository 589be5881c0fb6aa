import Ecdsa.Proofs.Curve.Arithmetic
import Ecdsa.Proofs.Signing

/-!
# Degenerate nonces

An attempt to sign fails exactly with the degenerate nonces, and always in the way that a drawn
nonce may fail (`signsUnlessDegenerate`). So no failure leaves the loop over drawn nonces, which
goes on to the first one that is of use.
-/

namespace Ecdsa

open Ecdsa.Modular Curve

variable {c : Curve} [Fact c.p.toNat.Prime]

/-- What signing the challenge `e` under the private key `d` comes to. -/
structure SignsUnlessDegenerate (e d : ℤ) (c : Curve) [Fact c.p.toNat.Prime] : Prop where
  /-- A nonce `k` is of no use if one of the scalars that come of it is zero. -/
  fails_iff : ∀ k, 0 < k ∧ k < c.n →
    ((∃ error, signWithNonce e d k c = .error error ∧ error.kind = .unsuccessful) ↔
      (c.baseMultiple k).x % c.n = 0 ∨ (e + (c.baseMultiple k).x * d) % c.n = 0)
  /-- There is no other way to fail. -/
  kind_of_error : ∀ k error, 0 < k ∧ k < c.n → signWithNonce e d k c = .error error →
    error.kind = .unsuccessful
  /-- All other nonces give signatures. -/
  signs : ∀ k, 0 < k ∧ k < c.n → ¬ IsDegenerate e d k c →
    ∃ r s : ℤ, signWithNonce e d k c = .ok ⟨r, s, c⟩ ∧ (0 < r ∧ r < c.n) ∧ (0 < s ∧ s < c.n) ∧
      r = (c.baseMultiple k).x % c.n ∧ s * k ≡ e + r * d [ZMOD c.n]
  /-- Of the drawn nonces the first that is not degenerate makes the signature, and none is drawn
  after it, or all that may be drawn are degenerate. -/
  drawn : ∀ (hash : HashFunction) (digest : Octets) (key : IntegerForm) (number : Numeral)
    (supply : Supply) (ks : ℕ → ℤ), c.privateKey key = .ok number → number.toInt = d →
    c.challenge hash digest = .ok e → supply.Gives ks → (∀ i, 0 < ks i ∧ ks i < c.n) →
    (∃ i < nonceAttempts, (∀ j < i, IsDegenerate e d (ks j) c) ∧ ¬ IsDegenerate e d (ks i) c ∧
      ∃ supply', signDigest digest key none c hash supply =
        (signWithNonce e d (ks i) c, supply') ∧ supply.Advances (i + 1) supply') ∨
    (∀ j < nonceAttempts, IsDegenerate e d (ks j) c) ∧
      ∃ supply', signDigest digest key none c hash supply =
        (.error (.noUsableNonce nonceAttempts), supply') ∧ supply.Advances nonceAttempts supply'

/-- For the second scalar the abscissa need not be reduced. -/
lemma isDegenerate_iff {e d k : ℤ} :
    IsDegenerate e d k c ↔
      (c.baseMultiple k).x % c.n = 0 ∨ (e + (c.baseMultiple k).x * d) % c.n = 0 := by
  have hmod : e + c.nonceScalar k * d ≡ e + (c.baseMultiple k).x * d [ZMOD c.n] :=
    ((Int.mod_modEq _ _).mul_right d).add_left e
  rw [IsDegenerate, hmod.eq, nonceScalar]

/-- Nothing is assumed of the sums, as all that is computed is a multiple of the generator. -/
theorem signsUnlessDegenerate (hc : c.HasOddPrimeOrder) (e d : ℤ) :
    SignsUnlessDegenerate e d c := by
  have hG : c.MultipliesGenerator := multBase_eq hc
  constructor
  case fails_iff =>
    intro k hk
    rw [← isDegenerate_iff]
    constructor
    · rintro ⟨error, hsign, -⟩
      exact (isDegenerate_of_signWithNonce_eq_error hG hc hk hsign).1
    · intro h
      obtain ⟨component, hsign⟩ := signWithNonce_of_isDegenerate hG hc hk h
      exact ⟨_, hsign, rfl⟩
  case kind_of_error =>
    intro k error hk h
    exact (isDegenerate_of_signWithNonce_eq_error hG hc hk h).2
  case signs =>
    intro k hk h
    obtain ⟨s, hsign, hs⟩ := signWithNonce_of_not_isDegenerate hG hc hk h
    exact ⟨c.nonceScalar k, s, hsign, nonceScalar_pos_lt hc (not_or.1 h).1, hs.range, rfl,
      hs.quotient⟩
  case drawn =>
    rintro hash digest key number supply ks hkey rfl he hsupply hks
    rw [signDigest_none hkey he]
    rcases tryNonces_spec hG hc hks hsupply nonceAttempts with
      ⟨i, hi, hbefore, hnot, s, supply', heq, hs, hadvance⟩ | hall
    · have hr := nonceScalar_pos_lt hc (not_or.1 hnot).1
      rw [← (signWithNonce_eq_ok_iff hG hc (hks i)).2 ⟨hr, rfl, hs⟩] at heq
      exact Or.inl ⟨i, hi, hbefore, hnot, supply', heq, hadvance⟩
    · exact Or.inr hall

theorem signsUnlessDegenerate_small : SignsUnlessDegenerate 7 5 small :=
  signsUnlessDegenerate small_hasOddPrimeOrder 7 5

end Ecdsa
