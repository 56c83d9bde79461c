import TradeLine.Proofs.AddressAgreement

/-!
# What the two families are

A family is found by shape: the shapes are tested one after the other, and each test counts and
compares. Here the families are described by the characters that their addresses are made of, listed
one by one, without an order of tests and without bytes.

* `IsEvm`, `IsBase58` — the two descriptions;
* `isHexDigit_iff_mem`, `isBase58Char_iff_mem` — the classes of the tests are the listed characters;
* `isEvmShape_iff`, `isBase58Shape_iff` — so the shapes are the descriptions;
* `not_isBase58_of_isEvm` — no text is of both families, since Base58 has no `0`;
* `isEvmShape_of_lower_eq` — hexadecimal digits count alike in either case.

**Main statement** (`classify_exact`), with the same for the bytes of a text.
-/

namespace TradeLine.Family

open Text

variable {s digits digits' : Text} {c : Char}

/-! ## The descriptions -/

/-- The hexadecimal digits of either case. -/
def hexDigits : Text :=
  "0123456789abcdefABCDEF".toList

/-- The letters and digits of ASCII. -/
def lettersAndDigits : Text :=
  "0123456789ABCDEFGHIJKLMNOPQRSTUVWXYZabcdefghijklmnopqrstuvwxyz".toList

/-- `0`, `x` and exactly forty hexadecimal digits. -/
def IsEvm (s : Text) : Prop :=
  ∃ digits, s = '0' :: 'x' :: digits ∧ digits.length = 40 ∧ ∀ c ∈ digits, c ∈ hexDigits

/-- Thirty-two to forty-four letters and digits of ASCII, none of them `0`, `O`, `I` or `l`. -/
def IsBase58 (s : Text) : Prop :=
  32 ≤ s.length ∧ s.length ≤ 44 ∧ ∀ c ∈ s, c ∈ lettersAndDigits ∧ c ∉ ['0', 'O', 'I', 'l']

/-! ## The characters -/

/-- A character is known by its code point. -/
theorem mem_iff_toNat_mem {cs : Text} (c : Char) : c ∈ cs ↔ c.toNat ∈ cs.map Char.toNat := by
  have hinjective : Function.Injective Char.toNat := fun _ _ h => Char.toNat_inj.mp h
  exact (List.mem_map_of_injective hinjective).symm

theorem isHexDigit_iff_mem (c : Char) : isHexDigit c = true ↔ c ∈ hexDigits := by
  have hcodes : hexDigits.map Char.toNat =
      List.range' 48 10 ++ List.range' 97 6 ++ List.range' 65 6 := rfl
  rw [isHexDigit_iff, mem_iff_toNat_mem, hcodes]
  simp only [List.mem_append, List.mem_range'_1]
  omega

theorem isAlphanum_iff_mem (c : Char) : c.isAlphanum = true ↔ c ∈ lettersAndDigits := by
  have hcodes : lettersAndDigits.map Char.toNat =
      List.range' 48 10 ++ List.range' 65 26 ++ List.range' 97 26 := rfl
  rw [isAlphanum_iff, isAlpha_iff, isDigit_iff, mem_iff_toNat_mem, hcodes]
  simp only [List.mem_append, List.mem_range'_1]
  omega

theorem isBase58Char_iff_mem (c : Char) :
    isBase58Char c = true ↔ c ∈ lettersAndDigits ∧ c ∉ ['0', 'O', 'I', 'l'] := by
  rw [← isAlphanum_iff_mem]
  simp [isBase58Char, and_assoc]

/-- Letter case does not matter to a hexadecimal digit. -/
theorem isHexDigit_toLower (c : Char) : isHexDigit c.toLower = isHexDigit c := by
  have hascii : ∀ n < 128, isHexDigit (Char.ofNat n).toLower = isHexDigit (Char.ofNat n) := by
    decide +kernel
  by_cases hc : c.toNat < 128
  · have := hascii c.toNat hc
    rwa [Char.ofNat_toNat] at this
  · rw [toLower_eq_self]
    omega

/-! ## The shapes -/

theorem isEvmShape_iff : isEvmShape s = true ↔ IsEvm s := by
  unfold isEvmShape IsEvm
  split
  · next digits => simp [isHexDigit_iff_mem]
  · next h =>
    refine iff_of_false Bool.false_ne_true ?_
    rintro ⟨digits, rfl, -⟩
    exact h digits rfl

theorem isBase58Shape_iff : isBase58Shape s = true ↔ IsBase58 s := by
  simp [isBase58Shape, IsBase58, isBase58Char_iff_mem, and_assoc]

/-- No text is of both families: one begins with a character that the other does not have. -/
theorem not_isBase58_of_isEvm (h : IsEvm s) : ¬ IsBase58 s := by
  rintro ⟨-, -, hall⟩
  obtain ⟨digits, rfl, -⟩ := h
  have hzero := (hall '0' List.mem_cons_self).2
  exact hzero List.mem_cons_self

/-- Hexadecimal digits count alike in either case. -/
theorem isEvmShape_of_lower_eq (h : lower digits' = lower digits) :
    isEvmShape ('0' :: 'x' :: digits') = isEvmShape ('0' :: 'x' :: digits) := by
  have hlength : digits'.length = digits.length := by
    have := congrArg List.length h
    rwa [length_lower, length_lower] at this
  have hall : ∀ t : Text, t.all isHexDigit = (lower t).all isHexDigit := by
    intro t
    simp only [lower, List.all_map, Function.comp_def, isHexDigit_toLower]
  simp only [isEvmShape, hlength, hall digits', h, ← hall digits]

/-! ## The families -/

theorem classify_eq_evm_iff : classify s = some .evm ↔ IsEvm s := by
  rw [← isEvmShape_iff]
  unfold classify
  split_ifs with hevm <;> simp [hevm]

theorem classify_eq_base58_iff : classify s = some .base58 ↔ IsBase58 s := by
  rw [← isBase58Shape_iff]
  unfold classify
  split_ifs with hevm hbase58
  · have hnot := not_isBase58_of_isEvm (isEvmShape_iff.mp hevm)
    rw [← isBase58Shape_iff] at hnot
    simp [hnot]
  · simp [hbase58]
  · simp [hbase58]

/-- The shapes may be tested in the other order. -/
theorem classify_eq_base58_first (s : Text) :
    (if isBase58Shape s then some .base58 else if isEvmShape s then some .evm else none) =
      classify s := by
  unfold classify
  split_ifs with hbase58 hevm
  · exact absurd (isBase58Shape_iff.mp hbase58) (not_isBase58_of_isEvm (isEvmShape_iff.mp hevm))
  · rfl
  · rfl
  · rfl

/-- Addresses are ASCII. -/
theorem toNat_lt_of_classify {family : Family} (h : classify s = some family) (hc : c ∈ s) :
    c.toNat < 128 := by
  cases family with
  | evm =>
    obtain ⟨digits, rfl, -, hdigits⟩ := classify_eq_evm_iff.mp h
    rcases List.mem_cons.mp hc with rfl | hc
    · decide
    rcases List.mem_cons.mp hc with rfl | hc
    · decide
    have hhex := hdigits c hc
    rw [← isHexDigit_iff_mem, isHexDigit_iff] at hhex
    omega
  | base58 =>
    obtain ⟨-, -, hall⟩ := classify_eq_base58_iff.mp h
    have hchar := hall c hc
    rw [← isBase58Char_iff_mem, isBase58Char_iff] at hchar
    omega

/-- **What the two families are.** A text is of the one family exactly when it is `0x` and forty
hexadecimal digits of either case, and of the other exactly when it is thirty-two to forty-four
letters and digits of ASCII without `0`, `O`, `I` and `l`. No text is both, so the order of the
tests does not matter. Counting and testing the bytes of the text, in either order, finds the same
family. Digits in another case after `0x` leave the family as it is, and a text with a character
that is not ASCII is of no family. -/
theorem classify_exact (s : Text) :
    (classify s = some .evm ↔ IsEvm s) ∧
    (classify s = some .base58 ↔ IsBase58 s) ∧
    ¬ (IsEvm s ∧ IsBase58 s) ∧
    (if isBase58Shape s then some .base58 else if isEvmShape s then some .evm else none) =
      classify s ∧
    classifyBytes (Utf8.encode s) = classify s ∧
    (if isBase58Bytes (Utf8.encode s) then some .base58
      else if isEvmBytes (Utf8.encode s) then some .evm else none) = classify s ∧
    (∀ digits digits', s = '0' :: 'x' :: digits → lower digits' = lower digits →
      (classify ('0' :: 'x' :: digits') = some .evm ↔ classify s = some .evm)) ∧
    ∀ c ∈ s, 128 ≤ c.toNat → classify s = none := by
  refine ⟨classify_eq_evm_iff, classify_eq_base58_iff, ?_, classify_eq_base58_first s,
    classifyBytes_encode s, ?_, ?_, ?_⟩
  · rintro ⟨hevm, hbase58⟩
    exact not_isBase58_of_isEvm hevm hbase58
  · rw [isBase58Bytes_encode, isEvmBytes_encode]
    exact classify_eq_base58_first s
  · rintro digits digits' rfl hlower
    rw [classify_eq_evm_iff, classify_eq_evm_iff, ← isEvmShape_iff, ← isEvmShape_iff,
      isEvmShape_of_lower_eq hlower]
  · intro c hc hbig
    rcases hclass : classify s with _ | family
    · rfl
    · exact absurd (toNat_lt_of_classify hclass hc) (Nat.not_lt.mpr hbig)

/-- An address in mixed case is of the same family with all its digits in upper case, and an accent
on one of them takes it out of every family. -/
theorem classify_exact_mixed_case :
    let s := "0x098054c0c6ba84d95E2011946Db9a15BfFDB4444".toList
    let upper := "0x098054C0C6BA84D95E2011946DB9A15BFFDB4444".toList
    let accent := "0x098054C0C6BA84D95\u00C92011946DB9A15BFFDB4444".toList
    IsEvm s ∧ classify upper = some .evm ∧ classify accent = none := by
  intro s upper accent
  have hs : classify s = some .evm := by decide
  have hlower : lower (upper.drop 2) = lower (s.drop 2) := by decide
  obtain ⟨hevm, -, -, -, -, -, hcase, -⟩ := classify_exact s
  refine ⟨hevm.mp hs, (hcase (s.drop 2) (upper.drop 2) rfl hlower).mpr hs, ?_⟩
  obtain ⟨-, -, -, -, -, -, -, hascii⟩ := classify_exact accent
  exact hascii '\u00C9' (by decide) (by decide)

end TradeLine.Family
