import Ecdsa.Supply
import Mathlib.Tactic

/-!
# Drawing

What one step of a drawing computation does to the supply. A supply that gives nonces goes on giving
the ones that follow.
-/

namespace Ecdsa

section Steps

variable {α β : Type} {x : Drawing α} {supply supply' : Supply}

lemma run_bind_ok {a : α} (h : x supply = (.ok a, supply')) (f : α → Drawing β) :
    (x >>= f) supply = f a supply' := by
  show (match x supply with | (a, s) => ExceptT.bindCont f a s) = _
  rw [h]
  rfl

lemma run_bind_error {e : Error} (h : x supply = (.error e, supply')) (f : α → Drawing β) :
    (x >>= f) supply = (.error e, supply') := by
  show (match x supply with | (a, s) => ExceptT.bindCont f a s) = _
  rw [h]
  rfl

lemma run_lift (x : Except Error α) : (liftM x : Drawing α) supply = (x, supply) := rfl

lemma run_pure (a : α) : (pure a : Drawing α) supply = (.ok a, supply) := rfl

/-- A computation that has a result had one at every step. -/
lemma run_bind_eq_ok_iff {f : α → Drawing β} {b : β} :
    (x >>= f) supply = (.ok b, supply') ↔
      ∃ a supply₁, x supply = (.ok a, supply₁) ∧ f a supply₁ = (.ok b, supply') := by
  obtain ⟨⟨result, supply₁⟩, hx⟩ : ∃ run, x supply = run := ⟨_, rfl⟩
  cases result with
  | error e =>
    rw [run_bind_error hx]
    constructor
    · intro h
      cases h
    · rintro ⟨a, supply₂, h, -⟩
      rw [hx] at h
      cases h
  | ok a =>
    rw [run_bind_ok hx]
    constructor
    · intro h
      exact ⟨a, supply₁, hx, h⟩
    · rintro ⟨a', supply₂, h, h'⟩
      rw [hx] at h
      cases h
      exact h'

lemma run_lift_eq_ok_iff {x : Except Error α} {a : α} :
    (liftM x : Drawing α) supply = (.ok a, supply') ↔ x = .ok a ∧ supply = supply' := by
  rw [run_lift, Prod.mk.injEq]

end Steps

namespace Supply

variable {supply supply' supply'' : Supply} {k : ℕ → ℤ}

/-- From its position on the supply gives these nonces, each one more than the number drawn. -/
def Gives (supply : Supply) (k : ℕ → ℤ) : Prop :=
  ∀ i, supply.number (supply.drawn + i) = some (k i - 1)

/-- The second supply is the first after so many draws, whatever was logged. -/
structure Advances (supply : Supply) (count : ℕ) (supply' : Supply) : Prop where
  number : supply'.number = supply.number
  drawn : supply'.drawn = supply.drawn + count

lemma Advances.refl : supply.Advances 0 supply := ⟨rfl, rfl⟩

lemma Advances.trans {i j : ℕ} (h : supply.Advances i supply') (h' : supply'.Advances j supply'') :
    supply.Advances (i + j) supply'' :=
  ⟨h'.number.trans h.number, by rw [h'.drawn, h.drawn, Nat.add_assoc]⟩

lemma Gives.advance {count : ℕ} (hk : supply.Gives k) (h : supply.Advances count supply') :
    supply'.Gives fun i => k (count + i) := fun i => by
  rw [h.number, h.drawn, Nat.add_assoc]
  exact hk (count + i)

lemma advances_record (supply : Supply) (event : Event) :
    ∃ supply', record event supply = (.ok (), supply') ∧ supply.Advances 0 supply' :=
  ⟨_, rfl, rfl, rfl⟩

/-- A scalar is one more than the number drawn for it. -/
lemma run_drawScalar {i : ℤ} (h : supply.number supply.drawn = some i) :
    drawScalar supply = (.ok (1 + i), { supply with drawn := supply.drawn + 1 }) := by
  have hmap : drawScalar = draw >>= fun i => pure (1 + i) := rfl
  have hget : (get : Drawing Supply) supply = (.ok supply, supply) := rfl
  have hdraw : draw supply = (.ok i, { supply with drawn := supply.drawn + 1 }) := by
    rw [draw, run_bind_ok hget, h]
    rfl
  rw [hmap, run_bind_ok hdraw, run_pure]

lemma run_drawScalar_none (h : supply.number supply.drawn = none) :
    drawScalar supply = (.error .drawsExhausted, supply) := by
  have hmap : drawScalar = draw >>= fun i => pure (1 + i) := rfl
  have hget : (get : Drawing Supply) supply = (.ok supply, supply) := rfl
  have hdraw : draw supply = (.error .drawsExhausted, supply) := by
    rw [draw, run_bind_ok hget, h]
    rfl
  rw [hmap, run_bind_error hdraw]

/-- A draw takes the next nonce. -/
lemma Gives.drawScalar (hk : supply.Gives k) :
    ∃ supply', drawScalar supply = (.ok (k 0), supply') ∧ supply.Advances 1 supply' := by
  refine ⟨{ supply with drawn := supply.drawn + 1 }, ?_, rfl, rfl⟩
  rw [run_drawScalar (hk 0), add_sub_cancel]

/-! ### Supplies in range -/

/-- Every number of the supply gives a nonce in range. -/
def InRange (supply : Supply) (n : ℤ) : Prop :=
  ∀ i x, supply.number i = some x → 0 < 1 + x ∧ 1 + x < n

variable {n : ℤ}

lemma InRange.of_drawScalar {k : ℤ} (hsupply : supply.InRange n)
    (h : drawScalar supply = (.ok k, supply')) : (0 < k ∧ k < n) ∧ supply'.InRange n := by
  cases hnumber : supply.number supply.drawn with
  | none =>
    rw [run_drawScalar_none hnumber] at h
    cases h
  | some i =>
    rw [run_drawScalar hnumber] at h
    cases h
    exact ⟨hsupply _ _ hnumber, hsupply⟩

lemma InRange.of_record {event : Event} (hsupply : supply.InRange n)
    (h : record event supply = (.ok (), supply')) : supply'.InRange n := by
  cases h
  exact hsupply

end Supply

/-! ### What a computation may come to -/

section Yields

variable {α β : Type} {number : ℕ → Option ℤ} {x : Drawing α} {result : α → Prop}
  {failure : Error → Prop}

/-- However many of the numbers were drawn before, the results of the computation are as required,
and so are its errors. -/
def Yields (number : ℕ → Option ℤ) (x : Drawing α) (result : α → Prop) (failure : Error → Prop) :
    Prop :=
  ∀ supply : Supply, supply.number = number → ∃ outcome supply', x supply = (outcome, supply') ∧
    supply'.number = number ∧ match outcome with
      | .ok a => result a
      | .error e => failure e

lemma Yields.pure {a : α} (h : result a) : Yields number (pure a) result failure :=
  fun supply hsupply => ⟨.ok a, supply, rfl, hsupply, h⟩

lemma Yields.throw {e : Error} (h : failure e) : Yields number (throw e : Drawing α) result failure :=
  fun supply hsupply => ⟨.error e, supply, rfl, hsupply, h⟩

lemma Yields.lift {y : Except Error α} {a : α} (h : y = .ok a) (ha : result a) :
    Yields number (liftM y) result failure :=
  fun supply hsupply => ⟨y, supply, run_lift y, hsupply, by rwa [h]⟩

lemma Yields.record (event : Event) : Yields number (record event) (fun _ => True) failure :=
  fun _ hsupply => ⟨.ok (), _, rfl, hsupply, trivial⟩

lemma Yields.bind {f : α → Drawing β} {result' : β → Prop} (hx : Yields number x result failure)
    (hf : ∀ a, result a → Yields number (f a) result' failure) :
    Yields number (x >>= f) result' failure := by
  intro supply hsupply
  obtain ⟨outcome, supply', hrun, hnumber, houtcome⟩ := hx supply hsupply
  cases outcome with
  | error e => exact ⟨.error e, supply', run_bind_error hrun f, hnumber, houtcome⟩
  | ok a =>
    rw [run_bind_ok hrun]
    exact hf a houtcome supply' hnumber

lemma Yields.bind_of_eq_ok {y : Except Error α} {a : α} {f : α → Drawing β} {result' : β → Prop}
    (h : y = .ok a) (hf : Yields number (f a) result' failure) :
    Yields number (liftM y >>= f) result' failure := by
  intro supply hsupply
  rw [h, run_bind_ok (run_lift _)]
  exact hf supply hsupply

/-- Only a supply that is exhausted gives no scalar. -/
lemma Yields.drawScalar {n : ℤ} (hrange : ∀ i x, number i = some x → 0 < 1 + x ∧ 1 + x < n)
    (hnone : ∀ i, number i = none → failure .drawsExhausted) :
    Yields number drawScalar (fun k => 0 < k ∧ k < n) failure := by
  rintro supply rfl
  cases hnumber : supply.number supply.drawn with
  | none => exact ⟨_, _, Supply.run_drawScalar_none hnumber, rfl, hnone _ hnumber⟩
  | some i => exact ⟨_, _, Supply.run_drawScalar hnumber, rfl, hrange _ _ hnumber⟩

end Yields

end Ecdsa
