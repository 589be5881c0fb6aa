import Ecdsa.Proofs.BigEndian
import Ecdsa.Proofs.Octets

/-!
# Grouped hexadecimal

The grouped text of a number is made of groups of upper-case digits (`isGrouped_groupedDigits`), and
it writes the shortest byte string of the number (`isHexText_groupedDigits`, `isShortest_encode`).
Both go along the recursion that takes eight digits off the end.
-/

namespace Ecdsa

/-- Of the byte strings of a number that are not empty, the shortest. -/
structure BigEndian.IsShortest (n : ℕ) (bytes : List UInt8) : Prop where
  ne_nil : bytes ≠ []
  decode_eq : decode bytes = n
  length_le : ∀ bytes', bytes' ≠ [] → decode bytes' = n → bytes.length ≤ bytes'.length

namespace Hexadecimal

open BigEndian Octets

variable {n : ℕ} {text : List Char}

/-! ### How many digits and bytes -/

lemma lt_pow_length (n : ℕ) : n < 16 ^ length n := by
  calc n
    _ < 2 ^ (n.log2 + 1) := Nat.lt_log2_self
    _ ≤ 2 ^ (4 * length n) := by
      refine Nat.pow_le_pow_right two_pos ?_
      rw [length]
      omega
    _ = 16 ^ length n := by
      rw [pow_mul]
      norm_num

lemma byteCount_pos (n : ℕ) : 0 < byteCount n :=
  Nat.succ_pos _

/-- The bytes are as many as it takes. -/
lemma byteCount_le_iff {k : ℕ} (hk : 0 < k) : byteCount n ≤ k ↔ n < 256 ^ k := by
  have hpow : 256 ^ k = 2 ^ (8 * k) := by
    rw [pow_mul]
    norm_num
  rw [byteCount, hpow]
  rcases eq_or_ne n 0 with rfl | hn
  · simp
    omega
  · rw [← Nat.log2_lt hn]
    omega

lemma lt_pow_byteCount (n : ℕ) : n < 256 ^ byteCount n :=
  (byteCount_le_iff (byteCount_pos n)).1 le_rfl

/-- Four bytes more than without the last eight digits. -/
lemma byteCount_of_le (h : 0x100000000 ≤ n) : byteCount n = byteCount (n / 0x100000000) + 4 := by
  have hpow (k : ℕ) : 256 ^ (k + 4) = 256 ^ k * 0x100000000 := pow_add 256 k 4
  apply le_antisymm
  · rw [byteCount_le_iff (Nat.succ_pos _), hpow, ← Nat.div_lt_iff_lt_mul (by decide)]
    exact lt_pow_byteCount _
  · have hfour : ¬ byteCount n ≤ 4 := by
      rw [byteCount_le_iff (by decide)]
      omega
    obtain ⟨k, hk⟩ : ∃ k, byteCount n = k + 4 := ⟨byteCount n - 4, by omega⟩
    have hlt := lt_pow_byteCount n
    rw [hk, hpow, ← Nat.div_lt_iff_lt_mul (by decide), ← byteCount_le_iff (by omega)] at hlt
    omega

lemma isShortest_encode (n : ℕ) : IsShortest n (encode (byteCount n) n) where
  ne_nil := by
    rw [← List.length_pos_iff, length_encode]
    exact byteCount_pos n
  decode_eq := decode_encode_of_lt (lt_pow_byteCount n)
  length_le bytes hne hdecode := by
    rw [length_encode, byteCount_le_iff (List.length_pos_iff.2 hne), ← hdecode]
    exact decode_lt bytes

/-! ### Groups -/

def upperDigits : List Char :=
  ['0', '1', '2', '3', '4', '5', '6', '7', '8', '9', 'A', 'B', 'C', 'D', 'E', 'F']

/-- Groups of upper-case digits with single spaces between them: eight digits in each but the first,
which has two, four, six or eight. -/
inductive IsGrouped : List Char → Prop where
  | first {group : List Char} (hdigits : ∀ ch ∈ group, ch ∈ upperDigits)
    (hlength : group.length = 2 ∨ group.length = 4 ∨ group.length = 6 ∨ group.length = 8) :
    IsGrouped group
  | more {text group : List Char} (h : IsGrouped text) (hdigits : ∀ ch ∈ group, ch ∈ upperDigits)
    (hlength : group.length = 8) : IsGrouped (text ++ ' ' :: group)

@[simp] lemma length_digits (digit : ℕ → Char) (width n : ℕ) :
    (digits digit width n).length = width := by
  induction width generalizing n with
  | zero => rfl
  | succ width ih => simp [digits_succ, ih]

/-- What holds of all digits holds of those of a number. -/
lemma forall_mem_digits {P : Char → Prop} {digit : ℕ → Char} (h : ∀ d < 16, P (digit d))
    (width n : ℕ) : ∀ ch ∈ digits digit width n, P ch := by
  induction width generalizing n with
  | zero => simp
  | succ width ih =>
    intro ch hch
    rw [digits_succ, List.mem_append, List.mem_singleton] at hch
    rcases hch with hch | rfl
    · exact ih _ ch hch
    · exact h _ (Nat.mod_lt n (by decide))

lemma upperDigit_mem : ∀ d < 16, upperDigit d ∈ upperDigits := by
  decide

lemma isGrouped_groupedDigits (n : ℕ) : IsGrouped (groupedDigits n) := by
  induction n using Nat.strongRecOn with
  | ind n ih =>
    rcases lt_or_ge n 0x100000000 with h | h
    · rw [groupedDigits_of_lt h]
      refine .first (forall_mem_digits upperDigit_mem _ _) ?_
      have hpos := byteCount_pos n
      have hfour : byteCount n ≤ 4 := (byteCount_le_iff (by decide)).2 h
      rw [length_digits]
      omega
    · rw [groupedDigits_of_le h]
      have smaller : n / 0x100000000 < n := Nat.div_lt_self (by omega) (by decide)
      exact .more (ih _ smaller) (forall_mem_digits upperDigit_mem _ _) (length_digits _ _ _)

lemma IsGrouped.ne_nil (h : IsGrouped text) : text ≠ [] := by
  cases h with
  | first _ hlength =>
    rintro rfl
    simp at hlength
  | more => simp

/-- A grouped text starts with a digit. -/
lemma IsGrouped.head?_mem (h : IsGrouped text) : ∀ ch ∈ text.head?, ch ∈ upperDigits := by
  induction h with
  | first hdigits _ =>
    intro ch hch
    exact hdigits ch (List.mem_of_mem_head? hch)
  | more h _ _ ih => rwa [List.head?_append_of_ne_nil _ h.ne_nil]

/-- And it ends with one. -/
lemma IsGrouped.getLast?_mem (h : IsGrouped text) : ∀ ch ∈ text.getLast?, ch ∈ upperDigits := by
  intro ch hch
  cases h with
  | first hdigits _ => exact hdigits ch (List.mem_of_mem_getLast? hch)
  | @more text group _ hdigits hlength =>
    have hne : group ≠ [] := List.ne_nil_of_length_eq_add_one hlength
    rw [List.append_cons, List.getLast?_append_of_ne_nil _ hne] at hch
    exact hdigits ch (List.mem_of_mem_getLast? hch)

/-! ### The bytes that are written -/

lemma digit?_upperDigit : ∀ d < 16, digit? (upperDigit d) = some d := by
  decide

lemma isHexText_pair (n : ℕ) :
    IsHexText [UInt8.ofNat n] [upperDigit (n / 16 % 16), upperDigit (n % 16)] := by
  have hbyte : UInt8.ofNat (16 * (n / 16 % 16) + n % 16) = UInt8.ofNat n := by
    apply UInt8.toNat_inj.1
    rw [UInt8.toNat_ofNat', UInt8.toNat_ofNat']
    omega
  rw [← hbyte]
  exact .pair (digit?_upperDigit _ (Nat.mod_lt _ (by decide)))
    (digit?_upperDigit _ (Nat.mod_lt _ (by decide))) .nil

lemma isHexText_digits (width n : ℕ) :
    IsHexText (encode width n) (digits upperDigit (2 * width) n) := by
  induction width generalizing n with
  | zero => exact .nil
  | succ width ih =>
    have hn : n / 16 / 16 = n / 256 := Nat.div_div_eq_div_mul n 16 16
    rw [encode_succ, Nat.mul_succ, digits_succ, digits_succ, List.append_assoc, hn]
    exact (ih _).append (isHexText_pair n)

lemma isHexText_groupedDigits (n : ℕ) :
    IsHexText (encode (byteCount n) n) (groupedDigits n) := by
  induction n using Nat.strongRecOn with
  | ind n ih =>
    rcases lt_or_ge n 0x100000000 with h | h
    · rw [groupedDigits_of_lt h]
      exact isHexText_digits _ _
    · have smaller : n / 0x100000000 < n := Nat.div_lt_self (by omega) (by decide)
      have hlast : n % 0x100000000 < 256 ^ 4 := Nat.mod_lt n (by decide)
      have hsplit := encode_add (lt_pow_byteCount (n / 0x100000000)) hlast
      rw [show n / 0x100000000 * 256 ^ 4 + n % 0x100000000 = n by omega] at hsplit
      rw [groupedDigits_of_le h, byteCount_of_le h, hsplit]
      exact (ih _ smaller).append (.blank rfl (isHexText_digits 4 _))

end Hexadecimal

end Ecdsa
