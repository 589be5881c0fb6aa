import Ecdsa.Proofs.Curve.Multiple

/-!
# Multiples of the generator

Multiples of the generator are added up from a table of its doublings. Sums may be excepted, but on
the way to a multiple of the generator none are. What was added up from the table is less than the
doubling that comes next, and a doubling is subtracted only below another that is added: so the two
would have to make up the order and are less than it. Multiples of the generator are therefore those
of the group (`represents_tableMultiple_generator`), also with the standard sums.
-/

namespace Ecdsa.Curve

open WeierstrassCurve.Affine Ecdsa.Modular

variable {c : Curve}

/-- The table is long enough for the digits of a reduced factor. -/
lemma length_digits_le_tableLength {m : ℤ} (hm : 0 ≤ m ∧ m < c.n) :
    (SignedDigit.digits m).length ≤ c.tableLength + 1 := by
  apply SignedDigit.length_digits_le
  have := BigEndian.natAbs_lt_two_pow_bitLength (4 * c.n - 1).toNat
  rw [tableLength]
  omega

variable [Fact c.p.toNat.Prime] {P Q : Jacobian} {A B : c.Element}

/-! ### Tables of doublings -/

/-- The points of the table are the element and its doublings. -/
def DoublesFrom (c : Curve) [Fact c.p.toNat.Prime] : c.Element → List Ecdsa.Point → Prop
  | _, [] => True
  | B, D :: rest => (c.HasPoint D ∧ c.element D = B) ∧ DoublesFrom c (B + B) rest

/-- An element none of whose doublings is infinite has a table of them. -/
lemma exists_doublings (odd : c.p ≠ 2) (count : ℕ) {D : Ecdsa.Point} (hD : c.HasPoint D)
    (hB : c.element D = B) (hfinite : ∀ k : ℕ, 2 ^ k • B ≠ 0) :
    ∃ table, c.doublings count D = .ok table ∧ table.length = count + 1 ∧
      c.DoublesFrom B table := by
  induction count generalizing D B with
  | zero => exact ⟨[D], rfl, rfl, ⟨hD, hB⟩, trivial⟩
  | succ count ih =>
    have hshift : ∀ k : ℕ, 2 ^ k • (B + B) = 2 ^ (k + 1) • B := fun k => by
      rw [← two_nsmul, ← mul_nsmul', pow_succ]
    have hdouble := (hB ▸ hD.represents odd).double odd
    have hne : B + B ≠ 0 := by simpa only [pow_one, two_nsmul] using hfinite 1
    have hne' : (B + B) + (B + B) ≠ 0 := by
      rw [← two_nsmul, ← pow_one 2, hshift]
      exact hfinite 2
    have hZ : ((Jacobian.ofPoint D).double c.p c.a).Z ≠ 0 := mt hdouble.Z_eq_zero_iff.1 hne
    have haffine := hdouble.toPoint (Jacobian.isReduced_double p_pos _ _)
    obtain ⟨rest, hrest, hlen, hdoubles⟩ := ih (hasPoint_pointOf odd hne')
      (element_pointOf odd fun h => absurd h hne') fun k => hshift k ▸ hfinite (k + 1)
    refine ⟨D :: rest, ?_, by rw [List.length_cons, hlen], ⟨hD, hB⟩, hdoubles⟩
    simp only [doublings, bind, Except.bind, if_neg hZ, haffine, hrest, pure, Except.pure]

/-- What sums and multiples need of a curve. A generator that is a finite point has a table only if
none of its doublings is infinite, as of any generator of prime order. -/
structure IsUsable (c : Curve) [Fact c.p.toNat.Prime] : Prop where
  hasArithmetic : c.hasArithmetic = true
  p_ne_two : c.p ≠ 2
  n_pos : 0 < c.n
  doublings : c.HasPoint c.G → ∀ k : ℕ, 2 ^ k • c.element c.G ≠ 0

lemma isUsable_of_prime (ha : c.hasArithmetic = true) (odd : c.p ≠ 2) (hn : c.n.toNat.Prime)
    (h : c.n • c.element c.G = 0) : c.IsUsable where
  hasArithmetic := ha
  p_ne_two := odd
  n_pos := by
    have := hn.pos
    omega
  doublings hG := by
    by_cases htwo : c.n = 2
    · have hself : c.element c.G + c.element c.G = 0 := by rw [← two_zsmul, ← htwo, h]
      rw [add_self_eq_zero_iff odd, hG.pointOf_element odd] at hself
      exact absurd hself hG.not_isInfinite
    · have hc := hasOddPrimeOrder_of_zsmul_eq_zero odd ha hG hn htwo h
      exact hc.two_pow_nsmul_generator_ne_zero

lemma HasOddPrimeOrder.isUsable (hc : c.HasOddPrimeOrder) : c.IsUsable :=
  isUsable_of_prime hc.hasArithmetic hc.p_ne_two hc.prime hc.n_zsmul_generator

lemma exists_generatorTable (hc : c.IsUsable) (hG : c.HasPoint c.G) :
    ∃ table, c.generatorTable = .ok table ∧ table.length = c.tableLength + 1 ∧
      c.DoublesFrom (c.element c.G) table :=
  exists_doublings hc.p_ne_two _ hG rfl (hc.doublings hG)

/-! ### Partial sums -/

/-- Where a digit is negative, some digit after it is positive, as the whole number is. -/
lemma add_pos_lt_of_minus {n s w : ℤ} {ds : List SignedDigit} (hs : |s| < w)
    (hm : 0 ≤ s + w * SignedDigit.value (.minus :: ds) ∧
      s + w * SignedDigit.value (.minus :: ds) < n) : 0 < s + w ∧ s + w < n := by
  obtain ⟨hlower, hupper⟩ := abs_lt.1 hs
  rw [SignedDigit.value, SignedDigit.toInt_minus] at hm
  have hpos : 0 < SignedDigit.value ds := by
    by_contra hle
    rw [not_lt] at hle
    nlinarith
  constructor
  · linarith
  · nlinarith

/-- The next digit keeps what was added up below the next doubling. -/
lemma abs_add_toInt_mul_lt {s w : ℤ} (hs : |s| < w) (d : SignedDigit) :
    |s + d.toInt * w| < w * 2 := by
  rw [abs_lt] at hs ⊢
  cases d with
  | minus =>
    rw [SignedDigit.toInt_minus]
    constructor <;> linarith
  | zero =>
    rw [SignedDigit.toInt_zero]
    constructor <;> linarith
  | plus =>
    rw [SignedDigit.toInt_plus]
    constructor <;> linarith

/-! ### One digit -/

section Generator

variable [PointAddition] {Excepted : Jacobian → Jacobian → Prop}

/-- A point is added to a reduced triple unless it is subtracted from its opposite. -/
lemma Represents.addSigned (law : c.AddsInGroup Excepted) (odd : c.p ≠ 2)
    (hP : c.Represents P A) (hred : P.IsReduced c.p) {D : Ecdsa.Point} (hD : c.HasPoint D)
    {d : SignedDigit} (hne : d = .minus → A + c.element D ≠ 0) :
    c.Represents (Jacobian.addSigned c.p c.a P (.ofPoint D) d) (A + d.toInt • c.element D) := by
  have hDrep := hD.represents odd
  rw [Jacobian.addSigned_eq, add_comm]
  refine hP.addTerm law (hDrep.signed d) ?_
  rintro ⟨T, hT, hexcepted⟩
  cases d with
  | zero => cases hT
  | plus =>
    obtain rfl := Option.some.inj hT
    exact law.not_excepted hred hD.isReduced hexcepted
  | minus =>
    obtain rfl := Option.some.inj hT
    apply hne rfl
    rw [law.eq_of_excepted hP hDrep.neg hexcepted, neg_add_cancel]

omit [Fact c.p.toNat.Prime] in
lemma isReduced_addSigned (hsum : c.SumsAreReduced) (hP : P.IsReduced c.p) (d : SignedDigit) :
    (Jacobian.addSigned c.p c.a P Q d).IsReduced c.p := by
  rw [Jacobian.addSigned_eq]
  exact Jacobian.isReduced_addTerm hsum hP _

/-! ### All digits -/

/-- Adding along digits from the table of the generator: `s` was added up before, from the doublings
below the `j`-th, and the digits that are left stand for what is missing from a reduced factor. -/
lemma represents_foldl_generator (law : c.AddsInGroup Excepted) (hc : c.HasOddPrimeOrder)
    (ds : List SignedDigit) (table : List Ecdsa.Point) {j : ℕ} {s : ℤ}
    (htable : c.DoublesFrom (2 ^ j • c.element c.G) table) (hlen : ds.length ≤ table.length)
    (hP : c.Represents P (s • c.element c.G)) (hred : P.IsReduced c.p) (hs : |s| < 2 ^ j)
    (hm : 0 ≤ s + 2 ^ j * SignedDigit.value ds ∧ s + 2 ^ j * SignedDigit.value ds < c.n) :
    c.Represents ((table.zip ds).foldl
      (fun P (D, digit) => Jacobian.addSigned c.p c.a P (.ofPoint D) digit) P)
      ((s + 2 ^ j * SignedDigit.value ds) • c.element c.G) := by
  induction ds generalizing table j s P with
  | nil => simpa [SignedDigit.value] using hP
  | cons d ds ih =>
    cases table with
    | nil => simp at hlen
    | cons D rest =>
      obtain ⟨⟨hD, hB⟩, hrest⟩ := htable
      have hdouble : 2 ^ j • c.element c.G + 2 ^ j • c.element c.G = 2 ^ (j + 1) • c.element c.G := by
        rw [← two_nsmul, ← mul_nsmul', ← pow_succ']
      have hDs : c.element D = (2 ^ j : ℤ) • c.element c.G := by
        rw [hB, ← natCast_zsmul]
        push_cast
        rfl
      have hne : d = .minus → s • c.element c.G + c.element D ≠ 0 := by
        rintro rfl
        rw [hDs, ← add_zsmul, Ne, hc.zsmul_generator_eq_zero_iff]
        exact not_dvd_of_pos_lt (add_pos_lt_of_minus hs hm)
      have hstep := hP.addSigned law hc.p_ne_two hred hD hne
      rw [hDs, ← mul_zsmul, ← add_zsmul] at hstep
      have hvalue : s + d.toInt * 2 ^ j + 2 ^ (j + 1) * SignedDigit.value ds =
          s + 2 ^ j * SignedDigit.value (d :: ds) := by
        rw [SignedDigit.value]
        ring
      have hsmall : |s + d.toInt * 2 ^ j| < 2 ^ (j + 1) := by
        rw [pow_succ]
        exact abs_add_toInt_mul_lt hs d
      rw [← hvalue] at hm ⊢
      exact ih rest (hdouble ▸ hrest) (by simpa using hlen) hstep
        (isReduced_addSigned law.isReduced hred d) hsmall hm

omit [Fact c.p.toNat.Prime] in
lemma isReduced_foldl (hsum : c.SumsAreReduced) (steps : List (Ecdsa.Point × SignedDigit))
    (hP : P.IsReduced c.p) :
    (steps.foldl (fun P (D, digit) => Jacobian.addSigned c.p c.a P (.ofPoint D) digit)
      P).IsReduced c.p := by
  induction steps generalizing P with
  | nil => exact hP
  | cons step steps ih => exact ih (isReduced_addSigned hsum hP _)

/-! ### The multiple -/

lemma represents_tableMultiple_generator (law : c.AddsInGroup Excepted) (hc : c.HasOddPrimeOrder)
    {table : List Ecdsa.Point} (htable : c.DoublesFrom (c.element c.G) table) {m : ℤ}
    (hm : 0 ≤ m ∧ m < c.n) (hone : m ≠ 1) (hlen : (SignedDigit.digits m).length ≤ table.length) :
    c.Represents (.tableMultiple c.p c.a m table) (m • c.element c.G) := by
  rw [Jacobian.tableMultiple, if_neg hone]
  have hstart : c.Represents .infinity ((0 : ℤ) • c.element c.G) := by
    rw [zero_zsmul]
    exact represents_zero.2 rfl
  have hvalue : 0 + 2 ^ 0 * SignedDigit.value (SignedDigit.digits m) = m := by
    rw [SignedDigit.value_digits, pow_zero, one_mul, zero_add]
  have hsum := represents_foldl_generator law hc (SignedDigit.digits m) table (j := 0)
    (by rwa [pow_zero, one_nsmul]) hlen hstart (Jacobian.isReduced_infinity p_pos) (by simp)
    (by rwa [hvalue])
  rwa [hvalue] at hsum

lemma isReduced_tableMultiple (hsum : c.SumsAreReduced) {table : List Ecdsa.Point}
    (htable : c.DoublesFrom B table) (m : ℤ) :
    (Jacobian.tableMultiple c.p c.a m table).IsReduced c.p := by
  rw [Jacobian.tableMultiple]
  split_ifs
  · match table, htable with
    | [], _ => exact Jacobian.isReduced_infinity p_pos
    | D :: _, ⟨⟨hD, _⟩, _⟩ => exact hD.isReduced
  · exact isReduced_foldl hsum _ (Jacobian.isReduced_infinity p_pos)

end Generator

end Ecdsa.Curve
