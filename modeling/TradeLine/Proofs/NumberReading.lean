import TradeLine.Decimal.Reader
import TradeLine.Proofs.LineGrammar
import TradeLine.Proofs.Rounding

/-!
# Reading a number is exact up to one rounding

A literal denotes a rational, `literalValue`, by the digits before the point and those after it.
The reader collects the digits and a scale instead and rounds the decimal they make.

* `Decimal.value` — the rational that a decimal stands for;
* `Decimal.isNearest_nearest` — a decimal is rounded to the nearest magnitude, also where its scale
  alone settles the matter;
* `ofText?_signed`, `ofText?_literal` — a literal of any length, with or without a sign and a power
  of ten, is read as the number nearest to what it denotes.
-/

namespace TradeLine

open Text

/-! ## Digits as numbers -/

/-- Zeros at the end multiply by powers of ten. -/
theorem ofDigitChars_append_zeros (s : Text) (n : Nat) :
    Nat.ofDigitChars 10 (s ++ List.replicate n '0') 0 = 10 ^ n * Nat.ofDigitChars 10 s 0 := by
  rw [Nat.ofDigitChars_append, Nat.ofDigitChars_replicate_zero]

/-- Digits behind others count less by as many places as there are. -/
theorem ofDigitChars_append_digits (s t : Text) :
    Nat.ofDigitChars 10 (s ++ t) 0
      = 10 ^ t.length * Nat.ofDigitChars 10 s 0 + Nat.ofDigitChars 10 t 0 := by
  rw [Nat.ofDigitChars_append, Nat.ofDigitChars_eq_ofDigitChars_zero]

/-- Digits spell a number with no more places than there are digits. -/
theorem ofDigitChars_lt {s : Text} (h : Run Char.isDigit s) :
    Nat.ofDigitChars 10 s 0 < 10 ^ s.length := by
  induction s with
  | nil => simp
  | cons c s ih =>
    rw [run_cons, isDigit_iff] at h
    have hs := ih h.2
    have hc : c.toNat - '0'.toNat ≤ 9 := by
      rw [show '0'.toNat = 48 from rfl]
      omega
    rw [Nat.ofDigitChars_cons, Nat.mul_zero, Nat.zero_add, Nat.ofDigitChars_eq_ofDigitChars_zero,
      List.length_cons, Nat.pow_succ]
    have := Nat.mul_le_mul_left (10 ^ s.length) hc
    omega

/-! ## The rational of a decimal -/

namespace Decimal

/-- The rational that a decimal stands for. -/
def value (d : Decimal) : ℚ :=
  d.coefficient * 10 ^ d.scale

theorem value_eq_div (d : Decimal) : d.value = (d.numerator : ℚ) / d.denominator := by
  obtain ⟨digits, n | n⟩ := d
  · simp [value, numerator, denominator, coefficient]
  · simp [value, numerator, denominator, coefficient, zpow_negSucc, div_eq_mul_inv]

end Decimal

namespace Binary64

variable {q : ℚ}

/-- What is not above the first middle lies in the cell of zero. -/
theorem inCell_zero (h : q ≤ middle 0) : InCell q 0 where
  le_infinity := Nat.zero_le _
  low := fun j hj => absurd hj (Nat.succ_ne_zero j)
  high := fun _ => ⟨h, fun _ => rfl⟩

theorem unitsPerOne_eq : unitsPerOne = 2 ^ 1074 := by
  unfold unitsPerOne
  generalize 1074 = n
  rfl

/-- The infinite magnitude counts as `2^1024`. -/
theorem value_infinity : value infinity = 2 ^ 1024 := by
  have hpow : ∀ {a b c d : Nat}, a + b = c + d → 2 ^ a * 2 ^ b = 2 ^ c * 2 ^ d := by
    intro a b c d h
    rw [← Nat.pow_add, ← Nat.pow_add, h]
  have hunits : units infinity = 2 ^ 1024 * unitsPerOne := by
    rw [infinity_eq, show 2047 * binade = 2046 * binade + binade by rw [← Nat.succ_mul],
      units_mul_add le_rfl (by omega), binade_eq, unitsPerOne_eq]
    exact hpow rfl
  rw [value, hunits, Nat.cast_mul, mul_div_cancel_right₀ _ cast_unitsPerOne_pos.ne', Nat.cast_pow,
    Nat.cast_ofNat]

/-- The first middle is half a unit. -/
theorem middle_zero : middle 0 = 1 / 2 ^ 1075 := by
  have hpow : ∀ n : Nat, (2 : ℚ) * ((2 ^ n : Nat) : ℚ) = 2 ^ (n + 1) := by
    intro n
    rw [Nat.cast_pow, Nat.cast_ofNat, pow_succ']
  rw [middle_eq, units_of_lt (by decide), units_of_lt (by decide), unitsPerOne_eq, hpow,
    Nat.cast_zero, zero_add, zero_add, Nat.cast_one]

theorem two_pow_le_ten_pow {m n : Nat} (h : m ≤ 3 * n) : (2 : ℚ) ^ m ≤ 10 ^ n :=
  calc (2 : ℚ) ^ m ≤ 2 ^ (3 * n) := pow_le_pow_right₀ one_le_two h
    _ = (2 ^ 3) ^ n := pow_mul 2 3 n
    _ ≤ 10 ^ n := pow_le_pow_left₀ (by norm_num) (by norm_num) n

end Binary64

namespace Decimal

open Binary64

variable {d : Decimal}

/-- A decimal with a large scale is infinite, whatever its digits. -/
theorem isNearest_infinity_of_scale (hd : d.coefficient ≠ 0) (h : 400 < d.scale) :
    IsNearest d.value infinity := by
  have hone : (1 : ℚ) ≤ d.coefficient := Nat.one_le_cast.mpr (Nat.one_le_iff_ne_zero.mpr hd)
  have hpow : (10 : ℚ) ^ (401 : ℤ) ≤ 10 ^ d.scale := zpow_le_zpow_right₀ (by norm_num) h
  refine (inCell_infinity ?_).isNearest
  calc Binary64.value infinity = 2 ^ 1024 := value_infinity
    _ ≤ 10 ^ 401 := two_pow_le_ten_pow (by norm_num)
    _ = 10 ^ (401 : ℤ) := (zpow_natCast 10 401).symm
    _ ≤ 10 ^ d.scale := hpow
    _ ≤ d.value := le_mul_of_one_le_left (zpow_nonneg (by norm_num) _) hone

/-- A decimal whose first digit counts very little is zero. -/
theorem isNearest_zero_of_scale (hdigits : Run Char.isDigit d.digits)
    (h : d.scale + d.digits.length < -400) : IsNearest d.value 0 := by
  have hlt : (d.coefficient : ℚ) ≤ 10 ^ d.digits.length := by
    exact_mod_cast (ofDigitChars_lt hdigits).le
  have hpow : (10 : ℚ) ^ (d.digits.length + d.scale : ℤ) ≤ 10 ^ (-401 : ℤ) :=
    zpow_le_zpow_right₀ (by norm_num) (by omega)
  refine (inCell_zero ?_).isNearest
  calc d.value ≤ 10 ^ d.digits.length * 10 ^ d.scale :=
        mul_le_mul_of_nonneg_right hlt (zpow_nonneg (by norm_num) _)
    _ = 10 ^ (d.digits.length + d.scale : ℤ) := by
        rw [zpow_add₀ (by norm_num), zpow_natCast]
    _ ≤ 10 ^ (-401 : ℤ) := hpow
    _ = 1 / 10 ^ 401 := by rw [zpow_neg, one_div]; rfl
    _ ≤ 1 / 2 ^ 1075 := one_div_le_one_div_of_le (by positivity) (two_pow_le_ten_pow (by norm_num))
    _ = middle 0 := middle_zero.symm

/-- A decimal is rounded to the nearest magnitude. -/
theorem isNearest_nearest (hdigits : Run Char.isDigit d.digits) : IsNearest d.value d.nearest := by
  unfold Decimal.nearest
  split_ifs with hzero hlarge hsmall
  · refine (inCell_zero ?_).isNearest
    rw [value, hzero, Nat.cast_zero, zero_mul, middle_zero]
    positivity
  · exact isNearest_infinity_of_scale hzero hlarge
  · exact isNearest_zero_of_scale hdigits hsmall
  · rw [value_eq_div]
    exact (nearest_eq_iff d.denominator_pos).mp rfl

end Decimal

/-! ## Literals -/

/-- The rational that a literal denotes: the digits before the point, and those after it counted in
the places they stand in. -/
def literalValue (v : Text) : ℚ :=
  Nat.ofDigitChars 10 (v.takeWhile Char.isDigit) 0 +
    Nat.ofDigitChars 10 ((v.dropWhile Char.isDigit).drop 1) 0 /
      10 ^ ((v.dropWhile Char.isDigit).drop 1).length

theorem literalValue_whole {s : Text} (h : IsDigits s) :
    literalValue s = Nat.ofDigitChars 10 s 0 := by
  have htake : s.takeWhile Char.isDigit = s := List.takeWhile_eq_self_iff.mpr h.digits
  have hdrop : s.dropWhile Char.isDigit = [] := List.dropWhile_eq_nil_iff.mpr h.digits
  simp [literalValue, htake, hdrop]

theorem literalValue_point {s t : Text} (hs : IsDigits s) :
    literalValue (s ++ '.' :: t) = (Nat.ofDigitChars 10 (s ++ t) 0 : ℚ) / 10 ^ t.length := by
  have hstop : Stops Char.isDigit ('.' :: t) := stops_cons.mpr (by decide)
  have hpow : (10 : ℚ) ^ t.length ≠ 0 := pow_ne_zero _ (by norm_num)
  rw [literalValue, takeWhile_run hs.digits hstop, dropWhile_run hs.digits hstop, List.drop_one,
    List.tail_cons, ofDigitChars_append_digits]
  push_cast
  rw [add_div, mul_div_cancel_left₀ _ hpow]

/-- A power of ten is nothing at all, or begins with `e` of either case. -/
theorem eq_nil_or_of_exponent? {t : Text} {e : ℤ} (h : Numeral.exponent? t = some e) :
    t = [] ∨ ∃ c s, t = c :: s ∧ (c = 'e' ∨ c = 'E') := by
  cases t with
  | nil => exact .inl rfl
  | cons c s =>
    rw [Numeral.exponent?] at h
    split_ifs at h with hc
    exact .inr ⟨c, s, rfl, hc⟩

/-- The reader takes all of a literal and leaves the power of ten behind it, and the decimal it makes
stands for what the literal denotes. -/
theorem scan_literal {v t : Text} {e : ℤ} (h : IsLiteral v) (ht : Numeral.exponent? t = some e) :
    ∃ d, Decimal.scan (v ++ t) = (d, t) ∧ IsDigits d.digits ∧ d.value = literalValue v := by
  have hstop : Stops Char.isDigit t := by
    rcases eq_nil_or_of_exponent? ht with rfl | ⟨c, s, rfl, rfl | rfl⟩ <;> simp
  cases h with
  | whole h =>
    refine ⟨⟨v, 0⟩, ?_, h, ?_⟩
    · simp only [Decimal.scan, takeWhile_run h.digits hstop, dropWhile_run h.digits hstop]
      rcases eq_nil_or_of_exponent? ht with rfl | ⟨c, s, rfl, rfl | rfl⟩ <;> rfl
    · rw [literalValue_whole h, Decimal.value, zpow_zero, mul_one]
      rfl
  | @point s u hs hu =>
    have hpoint : Stops Char.isDigit ('.' :: (u ++ t)) := stops_cons.mpr (by decide)
    refine ⟨⟨s ++ u, -(u.length : Int)⟩, ?_, ⟨?_, run_append.mpr ⟨hs.digits, hu.digits⟩⟩, ?_⟩
    · rw [List.append_assoc, List.cons_append]
      simp only [Decimal.scan, takeWhile_run hs.digits hpoint, dropWhile_run hs.digits hpoint,
        takeWhile_run hu.digits hstop, dropWhile_run hu.digits hstop]
    · exact List.append_ne_nil_of_left_ne_nil hs.ne_nil u
    · rw [literalValue_point hs, Decimal.value, zpow_neg, zpow_natCast, div_eq_mul_inv]
      rfl

/-- A digit is no letter, so what begins with one is none of the words that stand for numbers. -/
theorem lower_ne_of_isDigit {c : Char} {s word : Text} (hc : c.isDigit = true)
    (hword : Stops Char.isDigit word) : Text.lower (c :: s) ≠ word := by
  rintro rfl
  have hlower : c.toLower = c := toLower_eq_self (by have := isDigit_iff.mp hc; omega)
  rw [Text.lower, List.map_cons, stops_cons, hlower, hc] at hword
  cases hword

/-- A literal with a power of ten behind it is read as a decimal that stands for their product. -/
theorem numeral_literal {v t : Text} {e : ℤ} (h : IsLiteral v) (ht : Numeral.exponent? t = some e) :
    ∃ d, Numeral.ofText? (v ++ t) = some (.decimal d) ∧ IsDigits d.digits ∧
      d.value = literalValue v * 10 ^ e := by
  obtain ⟨d, hscan, hdigits, hvalue⟩ := scan_literal h ht
  have hword : ∀ word : Text, Stops Char.isDigit word → Text.lower (v ++ t) ≠ word := by
    intro word
    obtain ⟨c, s, rfl, hc⟩ := h.exists_cons
    exact lower_ne_of_isDigit hc
  have hinf : ¬ (Text.lower (v ++ t) = "inf".toList ∨ Text.lower (v ++ t) = "infinity".toList) := by
    rintro (hv | hv)
    · exact hword _ (by simp) hv
    · exact hword _ (by simp) hv
  have hnan : Text.lower (v ++ t) ≠ "nan".toList := hword _ (by simp)
  refine ⟨⟨d.digits, d.scale + e⟩, ?_, hdigits, ?_⟩
  · rw [Numeral.ofText?, if_neg hinf, if_neg hnan, hscan, if_neg hdigits.ne_nil, ht]
    rfl
  · rw [← hvalue, Decimal.value, Decimal.value, zpow_add₀ (by norm_num), mul_assoc]
    rfl

/-- The sign of a number, where there is one. -/
def minusSign (negative : Bool) : Text :=
  if negative then ['-'] else []

/-- **Reading a number**: a literal of any length with a sign before it and a power of ten behind it
is read as the number that is nearest to their product, with that sign. -/
theorem ofText?_signed {v t : Text} {e : ℤ} (h : IsLiteral v) (ht : Numeral.exponent? t = some e)
    (negative : Bool) :
    ∃ x, Binary64.ofText? (minusSign negative ++ (v ++ t)) = some x ∧ x.negative = negative ∧
      Binary64.IsNearest (literalValue v * 10 ^ e) x.magnitude := by
  obtain ⟨d, hnumeral, hdigits, hvalue⟩ := numeral_literal h ht
  refine ⟨.signed negative d.nearest d.nearest_le_infinity, ?_, rfl, ?_⟩
  · have hsome := congrArg (Option.map (Numeral.toBinary64 negative)) hnumeral
    cases negative with
    | true => exact hsome
    | false =>
      obtain ⟨c, s, rfl, hc⟩ := h.exists_cons
      unfold Binary64.ofText?
      split
      · next heq =>
        cases heq
        cases hc
      · next heq =>
        cases heq
        cases hc
      · exact hsome
  · rw [← hvalue]
    exact Decimal.isNearest_nearest hdigits.digits

/-- **Reading a literal**: a literal of any length is read as the number that is nearest to what it
denotes, with a clear sign. -/
theorem ofText?_literal {v : Text} (h : IsLiteral v) :
    ∃ x, Binary64.ofText? v = some x ∧ x.negative = false ∧
      Binary64.IsNearest (literalValue v) x.magnitude := by
  have hsigned := ofText?_signed h (rfl : Numeral.exponent? [] = some 0) false
  rwa [List.append_nil, zpow_zero, mul_one] at hsigned

end TradeLine
