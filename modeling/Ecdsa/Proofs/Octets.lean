import Ecdsa.Octets
import Mathlib.Tactic

/-!
# Octets

Octets are read if they have the right size, and bytes are read back from their hexadecimal text.
The texts that are read are those of a grammar (`readHex_eq_ok_iff`).
-/

namespace Ecdsa.Octets

variable {octets : Octets} {bytes : List UInt8} {size : ℕ}

lemma sized_exactly_eq_ok_iff :
    octets.sized (.exactly (size : ℤ)) = .ok bytes ↔
      octets.read = .ok bytes ∧ bytes.length = size := by
  rw [sized, bind_eq_ok_iff]
  constructor
  · rintro ⟨bs, hread, h⟩
    split_ifs at h with hsize
    · obtain rfl : bs = bytes := by simpa using h
      rw [SizeRule.allows, beq_iff_eq] at hsize
      exact ⟨hread, (Int.natCast_inj.1 hsize).symm⟩
    · exact absurd h reject_ne_ok
  · rintro ⟨hread, rfl⟩
    exact ⟨bytes, hread, by simp [SizeRule.allows]⟩

/-! ### Octets that are refused -/

lemma blamesValue_of_readPairs_eq_error {position : ℕ} {text : List Char} {e : Error}
    (h : readPairs position text = .error e) : e.BlamesValue := by
  fun_induction readPairs position text with
  | case1 => cases h
  | case2 position c rest blank ih => exact ih h
  | case3 | case4 | case5 =>
    cases h
    exact Or.inr rfl
  | case6 position c rest high d rest' blank low hlow ih => exact ih (map_eq_error_iff.1 h)

/-- Whatever cannot be read is blamed. -/
lemma blamesValue_of_read_eq_error {e : Error} (h : octets.read = .error e) : e.BlamesValue := by
  cases octets with
  | bytes bytes => cases h
  | hex text =>
    rw [read, readHex] at h
    split at h
    · cases h
      exact Or.inr rfl
    · exact blamesValue_of_readPairs_eq_error h

/-- So are octets of the wrong size. -/
lemma blamesValue_of_sized_eq_error {rule : SizeRule} {e : Error}
    (h : octets.sized rule = .error e) : e.BlamesValue := by
  rw [sized, bind_eq_error_iff] at h
  rcases h with h | ⟨bytes, -, h⟩
  · exact blamesValue_of_read_eq_error h
  · split_ifs at h
    · cases h
    · exact blamesValue_of_reject h (Or.inl rfl)

/-! ### Hexadecimal texts -/

/-- The lower-case hexadecimal digits of bytes. -/
def hexDigits (bytes : List UInt8) : List Char :=
  bytes.flatMap fun b => Hexadecimal.digits Hexadecimal.lowerDigit 2 b.toNat

/-- The lower-case hexadecimal text of bytes. -/
def hexText (bytes : List UInt8) : String :=
  .ofList (hexDigits bytes)

lemma hexDigits_cons (b : UInt8) (bytes : List UInt8) :
    hexDigits (b :: bytes) = Hexadecimal.lowerDigit (b.toNat / 16) ::
      Hexadecimal.lowerDigit (b.toNat % 16) :: hexDigits bytes := by
  have hb := b.toNat_lt
  rw [hexDigits, List.flatMap_cons, Hexadecimal.digits_succ, Hexadecimal.digits_succ,
    Hexadecimal.digits_zero, Nat.mod_eq_of_lt (show b.toNat / 16 < 16 by omega)]
  rfl

lemma digit?_lowerDigit : ∀ d < 16,
    Hexadecimal.digit? (Hexadecimal.lowerDigit d) = some d := by
  decide

lemma isHexBlank_lowerDigit : ∀ d < 16, isHexBlank (Hexadecimal.lowerDigit d) = false := by
  decide

lemma toNat_lowerDigit_lt : ∀ d < 16, (Hexadecimal.lowerDigit d).toNat < 128 := by
  decide

lemma readPairs_hexDigits (position : ℕ) (bytes : List UInt8) :
    readPairs position (hexDigits bytes) = .ok bytes := by
  induction bytes generalizing position with
  | nil => rfl
  | cons b bytes ih =>
    have hb := b.toNat_lt
    have hhigh : b.toNat / 16 < 16 := by omega
    have hlow : b.toNat % 16 < 16 := by omega
    have hbyte : UInt8.ofNat (16 * (b.toNat / 16) + b.toNat % 16) = b := by
      rw [Nat.div_add_mod, UInt8.ofNat_toNat]
    rw [hexDigits_cons]
    unfold readPairs
    simp only [isHexBlank_lowerDigit _ hhigh, digit?_lowerDigit _ hhigh,
      digit?_lowerDigit _ hlow, Bool.false_eq_true, if_false, ih, map_ok, hbyte]

lemma toNat_lt_of_mem_hexDigits {bytes : List UInt8} {ch : Char} (h : ch ∈ hexDigits bytes) :
    ch.toNat < 128 := by
  induction bytes with
  | nil => cases h
  | cons b bytes ih =>
    have hb := b.toNat_lt
    rw [hexDigits_cons, List.mem_cons, List.mem_cons] at h
    rcases h with rfl | rfl | h
    · exact toNat_lowerDigit_lt _ (by omega)
    · exact toNat_lowerDigit_lt _ (by omega)
    · exact ih h

/-- Bytes are read back from their text. -/
lemma read_hexText (bytes : List UInt8) : (hex (hexText bytes)).read = .ok bytes := by
  have hascii : (hexDigits bytes).findIdx? (128 ≤ ·.toNat) = none := by
    rw [List.findIdx?_eq_none_iff]
    intro ch hch
    simpa using toNat_lt_of_mem_hexDigits hch
  rw [read, hexText, String.toList_ofList, readHex, hascii]
  exact readPairs_hexDigits 0 bytes

/-! ### The grammar of hexadecimal texts -/

/-- The text writes the bytes: every byte in two digits of either case, with ASCII white space
before and after the pairs as one likes. -/
inductive IsHexText : List UInt8 → List Char → Prop where
  | nil : IsHexText [] []
  | blank {ch : Char} {bytes : List UInt8} {text : List Char} (hch : isHexBlank ch = true)
    (h : IsHexText bytes text) : IsHexText bytes (ch :: text)
  | pair {high low : Char} {a b : ℕ} {bytes : List UInt8} {text : List Char}
    (hhigh : Hexadecimal.digit? high = some a) (hlow : Hexadecimal.digit? low = some b)
    (h : IsHexText bytes text) : IsHexText (UInt8.ofNat (16 * a + b) :: bytes) (high :: low :: text)

/-- A digit is ASCII, and no white space. -/
lemma of_digit?_eq_some {ch : Char} {d : ℕ} (h : Hexadecimal.digit? ch = some d) :
    isHexBlank ch = false ∧ ch.toNat < 128 := by
  rw [Hexadecimal.digit?] at h
  have hrange : 48 ≤ ch.toNat ∧ ch.toNat ≤ 102 := by
    split_ifs at h <;> omega
  constructor
  · simp [isHexBlank]
    omega
  · omega

lemma toNat_lt_of_isHexBlank {ch : Char} (h : isHexBlank ch = true) : ch.toNat < 128 := by
  simp [isHexBlank] at h
  omega

lemma IsHexText.toNat_lt {text : List Char} (h : IsHexText bytes text) :
    ∀ ch ∈ text, ch.toNat < 128 := by
  induction h with
  | nil => simp
  | blank hch _ ih =>
    rw [List.forall_mem_cons]
    exact ⟨toNat_lt_of_isHexBlank hch, ih⟩
  | pair hhigh hlow _ ih =>
    rw [List.forall_mem_cons, List.forall_mem_cons]
    exact ⟨(of_digit?_eq_some hhigh).2, (of_digit?_eq_some hlow).2, ih⟩

/-- Texts one after the other write the bytes one after the other. -/
lemma IsHexText.append {bytes' : List UInt8} {text text' : List Char} (h : IsHexText bytes text)
    (h' : IsHexText bytes' text') : IsHexText (bytes ++ bytes') (text ++ text') := by
  induction h with
  | nil => exact h'
  | blank hch _ ih => exact .blank hch ih
  | pair hhigh hlow _ ih => exact .pair hhigh hlow ih

lemma isHexText_of_readPairs {position : ℕ} {text : List Char}
    (h : readPairs position text = .ok bytes) : IsHexText bytes text := by
  fun_induction readPairs position text generalizing bytes with
  | case1 =>
    obtain rfl := Except.ok.inj h
    exact .nil
  | case2 position ch rest blank ih => exact .blank blank (ih h)
  | case3 | case4 | case5 => cases h
  | case6 position high blank a low rest hhigh b hlow ih =>
    cases hrest : readPairs (position + 2) rest with
    | error e =>
      rw [hrest] at h
      cases h
    | ok bs =>
      rw [hrest, map_ok] at h
      obtain rfl := Except.ok.inj h
      exact .pair hhigh hlow (ih hrest)

lemma IsHexText.readPairs_eq_ok {text : List Char} (h : IsHexText bytes text) (position : ℕ) :
    readPairs position text = .ok bytes := by
  induction h generalizing position with
  | nil => rfl
  | blank hch _ ih =>
    unfold readPairs
    rw [if_pos hch]
    exact ih _
  | pair hhigh hlow _ ih =>
    unfold readPairs
    simp only [(of_digit?_eq_some hhigh).1, hhigh, hlow, Bool.false_eq_true, if_false, ih, map_ok]

/-- The texts that are read are those of the grammar. -/
lemma readHex_eq_ok_iff {text : List Char} : readHex text = .ok bytes ↔ IsHexText bytes text := by
  constructor
  · intro h
    rw [readHex] at h
    split at h
    · cases h
    · exact isHexText_of_readPairs h
  · intro h
    have hascii : text.findIdx? (128 ≤ ·.toNat) = none := by
      rw [List.findIdx?_eq_none_iff]
      intro ch hch
      simpa using h.toNat_lt ch hch
    rw [readHex, hascii]
    exact h.readPairs_eq_ok 0

end Ecdsa.Octets
