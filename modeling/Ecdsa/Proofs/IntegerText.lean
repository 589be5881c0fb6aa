import Ecdsa.IntegerForm
import Ecdsa.Proofs.Hexadecimal

/-!
# Integer texts

An integer is written in grouped or in plain hexadecimal, and read back from either. Which of the two
a text is taken for is decided by its start, and no grouped text starts like a plain one, as it has
no `x` (`readTrimmed_of_isHexText`). White space around a text and the case of its letters do not
matter, since the text is trimmed and put into lower case before (`hasAgreeingTexts`).
-/

namespace Ecdsa

/-! ### Trimming, and the lower case of ASCII -/

namespace Text

variable {before text after : List Char}

/-- A property of the ASCII characters is checked one by one. -/
lemma forall_ascii {P : Char → Prop} (h : ∀ n < 128, P (Char.ofNat n)) {ch : Char}
    (hch : ch.toNat < 128) : P ch := by
  have := h ch.toNat hch
  rwa [Char.ofNat_toNat] at this

lemma lowerFrom_of_ascii (h : ∀ ch ∈ text, ch.toNat < 128) (inWord : Bool) :
    lowerFrom inWord text = text.map Char.toLower := by
  induction text generalizing inWord with
  | nil => rfl
  | cons ch text ih =>
    rw [List.forall_mem_cons] at h
    have hsigma : ch.toNat ≠ 0x3a3 := by omega
    simp [lowerFrom, lowerChar, h.1, hsigma, ih h.2]

/-- In ASCII every letter has its lower case by itself. -/
lemma lowerCase_of_ascii (h : ∀ ch ∈ text, ch.toNat < 128) :
    lowerCase text = text.map Char.toLower :=
  lowerFrom_of_ascii h false

lemma dropWhile_isBlank_of_head? (h : ∀ ch ∈ text.head?, isBlank ch = false) :
    text.dropWhile isBlank = text := by
  cases text with
  | nil => rfl
  | cons ch text => simp [h ch rfl]

/-- The white space around a text that neither starts nor ends with any is trimmed. -/
lemma trim_append (hne : text ≠ []) (hbefore : ∀ ch ∈ before, isBlank ch = true)
    (hafter : ∀ ch ∈ after, isBlank ch = true) (hhead : ∀ ch ∈ text.head?, isBlank ch = false)
    (hlast : ∀ ch ∈ text.getLast?, isBlank ch = false) :
    trim (before ++ text ++ after) = text := by
  have hfront : (text ++ after).dropWhile isBlank = text ++ after := by
    apply dropWhile_isBlank_of_head?
    rwa [List.head?_append_of_ne_nil _ hne]
  have hback : text.reverse.dropWhile isBlank = text.reverse := by
    apply dropWhile_isBlank_of_head?
    rwa [List.head?_reverse]
  rw [trim, List.append_assoc, List.dropWhile_append_of_pos hbefore, hfront, List.reverse_append,
    List.dropWhile_append_of_pos (by simpa using hafter), hback, List.reverse_reverse]

lemma trim_eq_self (hne : text ≠ []) (hhead : ∀ ch ∈ text.head?, isBlank ch = false)
    (hlast : ∀ ch ∈ text.getLast?, isBlank ch = false) : trim text = text := by
  have h : trim ([] ++ text ++ []) = text := trim_append hne (by simp) (by simp) hhead hlast
  rwa [List.nil_append, List.append_nil] at h

/-- Letters of either case are ASCII if the lower ones are. -/
lemma toNat_lt_of_toLower {ch : Char} (h : ch.toLower.toNat < 128) : ch.toNat < 128 := by
  delta Char.toLower at h
  split at h
  · next hletter =>
    have : ch.toNat ≤ 90 := hletter.2
    omega
  · exact h

lemma isBlank_toLower {ch : Char} (h : ch.toNat < 128) : isBlank ch.toLower = isBlank ch :=
  forall_ascii (P := fun ch => isBlank ch.toLower = isBlank ch) (by decide) h

end Text

/-! ### Texts of octets -/

namespace Octets

variable {bytes : List UInt8} {text : List Char}

lemma isHexBlank_toLower {ch : Char} (h : ch.toNat < 128) :
    isHexBlank ch.toLower = isHexBlank ch :=
  Text.forall_ascii (P := fun ch => isHexBlank ch.toLower = isHexBlank ch) (by decide) h

lemma digit?_toLower {ch : Char} (h : ch.toNat < 128) :
    Hexadecimal.digit? ch.toLower = Hexadecimal.digit? ch :=
  Text.forall_ascii (P := fun ch => Hexadecimal.digit? ch.toLower = Hexadecimal.digit? ch)
    (by decide) h

/-- The case of the digits does not matter. -/
lemma IsHexText.map_toLower (h : IsHexText bytes text) :
    IsHexText bytes (text.map Char.toLower) := by
  induction h with
  | nil => exact .nil
  | blank hch _ ih =>
    refine .blank ?_ ih
    rwa [isHexBlank_toLower (toNat_lt_of_isHexBlank hch)]
  | pair hhigh hlow _ ih =>
    refine .pair ?_ ?_ ih
    · rwa [digit?_toLower (of_digit?_eq_some hhigh).2]
    · rwa [digit?_toLower (of_digit?_eq_some hlow).2]

/-- The letter that marks a plain text is no digit. -/
lemma IsHexText.x_not_mem (h : IsHexText bytes text) : 'x' ∉ text := by
  have hx (d : ℕ) : Hexadecimal.digit? 'x' ≠ some d := by
    have hnone : Hexadecimal.digit? 'x' = none := by decide
    simp [hnone]
  induction h with
  | nil => simp
  | blank hch _ ih =>
    rw [List.mem_cons, not_or]
    refine ⟨?_, ih⟩
    rintro rfl
    exact absurd hch (by decide)
  | pair hhigh hlow _ ih =>
    rw [List.mem_cons, List.mem_cons, not_or, not_or]
    refine ⟨?_, ?_, ih⟩
    · rintro rfl
      exact hx _ hhigh
    · rintro rfl
      exact hx _ hlow

lemma sized_any_eq_ok {octets : Octets} (h : octets.read = .ok bytes) :
    octets.sized .any = .ok bytes := by
  rw [sized, h, ok_bind]
  rfl

end Octets

/-! ### Plain texts -/

namespace Hexadecimal

lemma toList_plain (i : ℤ) :
    (plain i).toList =
      (if i < 0 then ['-', '0', 'x'] else ['0', 'x']) ++
        digits lowerDigit (length i.natAbs) i.natAbs := by
  rw [plain, String.toList_append, String.toList_ofList]
  split_ifs <;> rfl

lemma isBlank_of_mem_upperDigits {ch : Char} (h : ch ∈ upperDigits) : Text.isBlank ch = false := by
  fin_cases h <;> rfl

lemma of_mem_plain {i : ℤ} {ch : Char} (h : ch ∈ (plain i).toList) :
    ch.toNat < 128 ∧ Text.isBlank ch = false := by
  rw [toList_plain, List.mem_append] at h
  rcases h with h | h
  · have hmark : ch ∈ ['-', '0', 'x'] := by
      split_ifs at h
      · exact h
      · exact List.mem_cons_of_mem _ h
    fin_cases hmark <;> decide
  · exact forall_mem_digits (P := fun ch => ch.toNat < 128 ∧ Text.isBlank ch = false) (by decide)
      _ _ ch h

end Hexadecimal

namespace IntegerForm

open Hexadecimal

variable {text before after : List Char} {bytes : List UInt8} {form : IntegerForm} {i : ℤ}

lemma digit?_lowerDigit {d : ℕ} (hd : d < 16) : IntegerForm.digit? (lowerDigit d) = some d := by
  rw [IntegerForm.digit?, Octets.digit?_lowerDigit d hd]

lemma readDigits_cons {n d : ℕ} {ch : Char} {rest : List Char}
    (h : IntegerForm.digit? ch = some d) :
    readDigits n (ch :: rest) = readDigits (16 * n + d) rest := by
  have hunderscore : ch ≠ '_' := by
    rintro rfl
    have hnone : IntegerForm.digit? '_' = none := by decide
    cases hnone.symm.trans h
  cases rest with
  | nil => simp [readDigits, h]
  | cons ch' rest => simp [readDigits, hunderscore, h]

/-- Digits are appended to the number read before them. -/
lemma readDigits_digitsOnto (m n width : ℕ) (rest : List Char) :
    readDigits m (digitsOnto lowerDigit rest width n) =
      readDigits (m * 16 ^ width + n % 16 ^ width) rest := by
  induction width generalizing n rest with
  | zero => simp [digitsOnto, Nat.mod_one]
  | succ width ih =>
    have hmod : n % 16 ^ (width + 1) = 16 * (n / 16 % 16 ^ width) + n % 16 := by
      rw [pow_succ', Nat.mod_mul]
      ring
    rw [digitsOnto, ih, readDigits_cons (digit?_lowerDigit (Nat.mod_lt n (by decide))), hmod]
    congr 1
    ring

lemma readNumber_digits (n : ℕ) : readNumber (digits lowerDigit (length n) n) = some n := by
  have hne : (digits lowerDigit (length n) n).isEmpty = false := by
    rw [List.isEmpty_eq_false_iff, ← List.length_pos_iff, length_digits]
    exact Nat.succ_pos _
  rw [readNumber, hne, digits, readDigits_digitsOnto, Nat.mod_eq_of_lt (lt_pow_length n), zero_mul,
    zero_add]
  rfl

/-- The plain text is read back. -/
lemma readTrimmed_plain (i : ℤ) : readTrimmed (plain i).toList = .ok i := by
  rw [toList_plain]
  split_ifs with hi
  · have habs : -(i.natAbs : ℤ) = i := by omega
    change readTrimmed.ofNumber _ (Option.map (-·) (readNumber (digits lowerDigit _ _))) = _
    rw [readNumber_digits]
    exact congrArg Except.ok habs
  · have habs : (i.natAbs : ℤ) = i := by omega
    change readTrimmed.ofNumber _ (readNumber (digits lowerDigit _ _)) = _
    rw [readNumber_digits]
    exact congrArg Except.ok habs

/-- A text of octets is not taken for a number. -/
lemma readTrimmed_of_isHexText (h : Octets.IsHexText bytes text) :
    readTrimmed text = .ok (BigEndian.decode bytes : ℤ) := by
  unfold readTrimmed
  split
  · exact absurd (by simp) h.x_not_mem
  · exact absurd (by simp) h.x_not_mem
  · rw [Octets.readHex_eq_ok_iff.2 h, map_ok]

/-! ### Reading what was written -/

/-- The plain text of any integer, in any case and with white space around it. -/
lemma read_plain (hbefore : ∀ ch ∈ before, Text.isBlank ch = true)
    (hafter : ∀ ch ∈ after, Text.isBlank ch = true)
    (htext : text.map Char.toLower = (plain i).toList) :
    read (.octets (.hex (String.ofList (before ++ text ++ after)))) = .ok (.int i) := by
  have hlower {ch : Char} (hch : ch ∈ text) : ch.toLower ∈ (plain i).toList := by
    rw [← htext]
    exact List.mem_map_of_mem hch
  have hascii : ∀ ch ∈ text, ch.toNat < 128 := fun ch hch =>
    Text.toNat_lt_of_toLower (of_mem_plain (hlower hch)).1
  have hblank : ∀ ch ∈ text, Text.isBlank ch = false := by
    intro ch hch
    rw [← Text.isBlank_toLower (hascii ch hch)]
    exact (of_mem_plain (hlower hch)).2
  have hne : text ≠ [] := by
    rintro rfl
    rw [toList_plain] at htext
    split_ifs at htext <;> cases htext
  have htrim : Text.trim (before ++ text ++ after) = text :=
    Text.trim_append hne hbefore hafter
      (fun ch hch => hblank ch (List.mem_of_mem_head? hch))
      (fun ch hch => hblank ch (List.mem_of_mem_getLast? hch))
  rw [read, String.toList_ofList, htrim, Text.lowerCase_of_ascii hascii, htext, readTrimmed_plain,
    map_ok]

/-- The grouped text of a natural number, which is read as octets. -/
lemma read_grouped (n : ℕ) : read (.octets (.hex (grouped n))) = .ok (.int n) := by
  have hgrouped := isGrouped_groupedDigits n
  have hhex := isHexText_groupedDigits n
  have htrim : Text.trim (groupedDigits n) = groupedDigits n :=
    Text.trim_eq_self hgrouped.ne_nil
      (fun ch hch => isBlank_of_mem_upperDigits (hgrouped.head?_mem ch hch))
      (fun ch hch => isBlank_of_mem_upperDigits (hgrouped.getLast?_mem ch hch))
  rw [read, grouped, String.toList_ofList, htrim, Text.lowerCase_of_ascii hhex.toNat_lt,
    readTrimmed_of_isHexText hhex.map_toLower, (isShortest_encode n).decode_eq, map_ok]

lemma value_of_read (h : form.read = .ok (.int i)) : form.value = .ok i := by
  rw [value, h, map_ok, Numeral.toInt_int]

/-- Every integer that is not negative has a grouped text, in whichever form it is given. -/
lemma groupedHex_eq_ok (h : form.value = .ok i) (hi : 0 ≤ i) :
    form.groupedHex = .ok (grouped i.toNat) := by
  rw [groupedHex, h, ok_bind, if_neg hi.not_gt, pure_eq_ok]

end IntegerForm

/-! ### Agreement -/

open Hexadecimal in
/-- The written forms of an integer are read back as the integer, and the grouped one as its octets
too. -/
structure HasAgreeingTexts : Prop where
  /-- The grouped text is that of the integer, whatever the form that it is given in. -/
  groupedHex_eq : ∀ (form : IntegerForm) (i : ℤ), form.value = .ok i → 0 ≤ i →
    form.groupedHex = .ok (grouped i.toNat)
  /-- It is made of groups of digits. -/
  isGrouped : ∀ n : ℕ, IsGrouped (grouped n).toList
  /-- It is read back, and grouping it again changes nothing. -/
  read_grouped : ∀ n : ℕ, IntegerForm.read (.octets (.hex (grouped n))) = .ok (.int n)
  groupedHex_grouped : ∀ n : ℕ,
    IntegerForm.groupedHex (.octets (.hex (grouped n))) = .ok (grouped n)
  /-- As octets it is the shortest byte string of the integer. -/
  octets_grouped : ∀ n : ℕ, ∃ bytes, Octets.sized .any (.hex (grouped n)) = .ok bytes ∧
    BigEndian.IsShortest n bytes
  /-- The plain text of an integer of either sign is read back, with its letters in any case and
  white space around it. -/
  read_plain : ∀ (i : ℤ) (before text after : List Char),
    (∀ ch ∈ before, Text.isBlank ch = true) → (∀ ch ∈ after, Text.isBlank ch = true) →
      text.map Char.toLower = (plain i).toList →
        IntegerForm.read (.octets (.hex (String.ofList (before ++ text ++ after)))) = .ok (.int i)

theorem hasAgreeingTexts : HasAgreeingTexts where
  groupedHex_eq _ _ h hi := IntegerForm.groupedHex_eq_ok h hi
  isGrouped n := by
    rw [Hexadecimal.grouped, String.toList_ofList]
    exact Hexadecimal.isGrouped_groupedDigits n
  read_grouped n := IntegerForm.read_grouped n
  groupedHex_grouped n := by
    have hvalue := IntegerForm.value_of_read (IntegerForm.read_grouped n)
    exact IntegerForm.groupedHex_eq_ok hvalue (Int.natCast_nonneg n)
  octets_grouped n := by
    refine ⟨_, Octets.sized_any_eq_ok ?_, Hexadecimal.isShortest_encode n⟩
    rw [Octets.read, Hexadecimal.grouped, String.toList_ofList]
    exact Octets.readHex_eq_ok_iff.2 (Hexadecimal.isHexText_groupedDigits n)
  read_plain _ _ _ _ hbefore hafter htext := IntegerForm.read_plain hbefore hafter htext

example : IntegerForm.read (.octets (.hex " -0XfF\n")) = .ok (.int (-255)) := rfl

/-- What looks like the mark of binary digits is the first byte. -/
example : IntegerForm.read (.octets (.hex "0B 11")) = .ok (.int 0xb11) := rfl

end Ecdsa
