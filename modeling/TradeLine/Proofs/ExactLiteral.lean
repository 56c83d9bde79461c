import TradeLine.Proofs.CommandInvariant

/-!
# The number that a literal is read as

A literal denotes a rational, and reading it rounds that rational once. `IsNearest` states the rule
on magnitudes, with the infinite one counted as `2^1024`. Here it is stated on the numbers of the
format alone:

* `significand` — the whole number that a number is, up to a power of two (`units_eq_significand`);
* `IsNearestNumber q x` — no finite number is nearer to `q` than `x`, and where another one is as
  near, the significand of `x` is even;
* `isNearest_infinity_iff`, `isNearest_zero_iff` — what is too large to be a number, and what is
  read as zero.

**Main statement** (`readValue_exact`): a literal fails exactly from `2^1024 - 2^970` on; below that
it is read as the nearest number, as zero exactly up to `2^-1075`, by what it denotes and not how it
is written, and a larger literal is never read as a smaller number.
-/

namespace TradeLine

open Text

/-! ## Significands -/

namespace Binary64

/-- The whole number that the number of a magnitude is, up to a power of two. -/
def significand (k : Nat) : Nat :=
  if k < binade then k else binade + k % binade

theorem units_eq_significand (k : Nat) : units k = significand k * 2 ^ (k / binade - 1) := by
  unfold units significand
  by_cases h : k < binade
  · rw [if_pos h, if_pos h, Nat.div_eq_of_lt h, Nat.zero_sub, Nat.pow_zero, Nat.mul_one]
  · rw [if_neg h, if_neg h, Nat.pow_eq]

/-- A magnitude is even exactly when its significand is. -/
theorem significand_mod_two (k : Nat) : significand k % 2 = k % 2 := by
  unfold significand
  by_cases h : k < binade
  · rw [if_pos h]
  · rw [if_neg h]
    simp only [binade]
    omega

/-! ## The ends of the format -/

variable {q q' : ℚ} {j k : Nat}

/-- The last finite number is one step of its binade below `2^1024`. -/
theorem units_last_add : units (infinity - 1) + 2 ^ 2045 = units infinity := by
  have hlast : infinity - 1 = 2045 * binade + (2 * binade - 1) := by decide
  have hnext : infinity = 2045 * binade + 2 * binade := by decide
  have hpos : 1 ≤ 2 * binade := by decide
  rw [hlast, hnext]
  generalize 2045 = e
  rw [units_mul_add (by omega) (by omega), units_mul_add (by omega) le_rfl, ← Nat.succ_mul]
  congr 1

/-- The middle between the last finite number and `2^1024`. -/
theorem middle_last : middle (infinity - 1) = 2 ^ 1024 - 2 ^ 970 := by
  have hdiv : ∀ a b : Nat, (2 : ℚ) ^ (a + 1 + b) / ((2 ^ b : Nat) : ℚ) = 2 * 2 ^ a := by
    intro a b
    rw [Nat.cast_pow, Nat.cast_ofNat, pow_add, mul_div_cancel_right₀ _ (pow_ne_zero b two_ne_zero),
      pow_succ']
  have hstep : value (infinity - 1) + 2 * 2 ^ 970 = value infinity := by
    rw [value, value, ← units_last_add, Nat.cast_add, add_div, Nat.cast_pow, Nat.cast_ofNat,
      unitsPerOne_eq, ← hdiv 970 1074]
  rw [middle, show infinity - 1 + 1 = infinity from rfl, ← value_infinity]
  generalize (2 : ℚ) ^ 970 = half at hstep ⊢
  linarith

/-- What is nearest to the infinite magnitude is what lies beyond the last middle, or on it. -/
theorem isNearest_infinity_iff : IsNearest q infinity ↔ 2 ^ 1024 - 2 ^ 970 ≤ q := by
  rw [isNearest_iff_inCell, ← middle_last]
  constructor
  · intro h
    exact (h.low (infinity - 1) (by decide)).1
  · intro h
    refine ⟨le_rfl, ?_, fun hlt => absurd hlt (Nat.lt_irrefl _)⟩
    intro j hj
    obtain rfl : j = infinity - 1 := by omega
    exact ⟨h, fun _ => by decide⟩

/-- What is nearest to zero is what does not lie beyond half the smallest number. -/
theorem isNearest_zero_iff : IsNearest q 0 ↔ q ≤ 1 / 2 ^ 1075 := by
  rw [isNearest_iff_inCell, ← middle_zero]
  constructor
  · intro h
    exact (h.high (by decide)).1
  · intro h
    exact inCell_zero h

theorem IsNearest.mono (h : IsNearest q j) (h' : IsNearest q' k) (hq : q ≤ q') : j ≤ k :=
  h.inCell.mono h'.inCell hq

/-! ## Nearest among the numbers -/

/-- No finite number is nearer to `q` than `x`, and where another one is as near, the significand of
`x` is even. -/
structure IsNearestNumber (q : ℚ) (x : Binary64) : Prop where
  finite : x.isFinite = true
  nearest : ∀ y : Binary64, y.isFinite = true → |q - x.number| ≤ |q - y.number|
  even_of_tie : ∀ y : Binary64, y.isFinite = true → y.number ≠ x.number →
    |q - x.number| = |q - y.number| → significand x.magnitude % 2 = 0

/-- Below the last middle the last finite number is nearer than `2^1024`. -/
theorem abs_sub_last_lt (hq : q < 2 ^ 1024 - 2 ^ 970) :
    |q - value (infinity - 1)| < |q - value infinity| := by
  have hlt : value (infinity - 1) < value infinity := value_strictMono (by decide)
  rw [← middle_last, middle, show infinity - 1 + 1 = infinity from rfl] at hq
  rw [← not_le, abs_sub_ge_abs_sub_iff hlt, not_le]
  exact hq

/-- Of a number and its opposite, the one that is not below zero is at least as near. -/
theorem abs_sub_value_le (hq : 0 ≤ q) (y : Binary64) :
    |q - value y.magnitude| ≤ |q - y.number| := by
  have hvalue := value_nonneg y.magnitude
  unfold number
  split_ifs
  · rw [abs_le, abs_of_nonneg (by linarith)]
    constructor <;> linarith
  · exact le_rfl

variable {x : Binary64}

theorem number_of_not_negative (h : x.negative = false) : x.number = value x.magnitude := by
  unfold number
  rw [h, if_neg Bool.false_ne_true]

/-- The nearest magnitude is that of the nearest number. -/
theorem IsNearest.isNearestNumber (hq : 0 ≤ q) (h : IsNearest q x.magnitude)
    (hsign : x.negative = false) (hfinite : x.isFinite = true) : IsNearestNumber q x where
  finite := hfinite
  nearest := by
    intro y hy
    have hle : y.magnitude ≤ infinity := Nat.le_of_lt (of_decide_eq_true hy)
    rw [number_of_not_negative hsign]
    exact (h.nearest _ hle).trans (abs_sub_value_le hq y)
  even_of_tie := by
    intro y hy hne htie
    have hle : y.magnitude ≤ infinity := Nat.le_of_lt (of_decide_eq_true hy)
    rw [number_of_not_negative hsign] at hne htie
    rw [significand_mod_two]
    have htie' : |q - value x.magnitude| = |q - value y.magnitude| :=
      le_antisymm (h.nearest _ hle) ((abs_sub_value_le hq y).trans htie.ge)
    by_cases hmagnitude : y.magnitude = x.magnitude
    · -- the opposite of a number is as near as the number only to zero
      have hopposite : y.number = -value x.magnitude := by
        unfold number at hne ⊢
        rw [hmagnitude] at hne ⊢
        split_ifs at hne ⊢ with hy
        · rfl
        · exact absurd rfl hne
      rw [hopposite] at hne htie
      have hzero : q = 0 := by
        have hvalue := value_nonneg x.magnitude
        rw [sub_neg_eq_add, abs_of_nonneg (add_nonneg hq hvalue)] at htie
        rcases abs_choice (q - value x.magnitude) with habs | habs
        · refine absurd ?_ hne
          linarith
        · linarith
      rw [hzero] at h
      rw [h.eq_zero]
    · exact h.even_of_tie _ hle hmagnitude htie'

/-- The nearest number has the nearest magnitude, unless `2^1024` would be as near. -/
theorem IsNearestNumber.isNearest (hq : q < 2 ^ 1024 - 2 ^ 970) (h : IsNearestNumber q x)
    (hsign : x.negative = false) : IsNearest q x.magnitude := by
  have hlast : |q - value x.magnitude| < |q - value infinity| := by
    have := h.nearest (signed false (infinity - 1) (by decide)) (by decide)
    rw [number_of_not_negative hsign, number_of_not_negative rfl] at this
    exact this.trans_lt (abs_sub_last_lt hq)
  constructor
  case le_infinity => exact Nat.le_of_lt (of_decide_eq_true h.finite)
  case nearest =>
    intro j hj
    rcases Nat.lt_or_eq_of_le hj with hlt | rfl
    · have := h.nearest (signed false j hj) (decide_eq_true hlt)
      rwa [number_of_not_negative hsign, number_of_not_negative rfl] at this
    · exact hlast.le
  case even_of_tie =>
    intro j hj hne htie
    rcases Nat.lt_or_eq_of_le hj with hlt | rfl
    · have hnumber : (signed false j hj).number ≠ x.number := by
        rw [number_of_not_negative hsign, number_of_not_negative rfl]
        exact fun heq => hne (value_strictMono.injective heq)
      have := h.even_of_tie (signed false j hj) (decide_eq_true hlt) hnumber
      rw [number_of_not_negative hsign, number_of_not_negative rfl, significand_mod_two] at this
      exact this htie
    · exact absurd htie hlast.ne

end Binary64

/-! ## Reading by what is denoted -/

open Binary64

variable {v u : Text}

theorem literalValue_nonneg (v : Text) : 0 ≤ literalValue v := by
  unfold literalValue
  positivity

/-- A literal fails exactly from the last middle on, and its own text is at fault. -/
theorem readValue_eq_error_iff (h : IsLiteral v) {e : Invalid} :
    Amount.readValue v = .error e ↔
      e = .notFinite v ∧ 2 ^ 1024 - 2 ^ 970 ≤ literalValue v := by
  rw [← isNearest_infinity_iff]
  rcases readValue_literal h with ⟨hinfinity, hread⟩ | ⟨x, hread, -, hfinite, hnearest⟩
  · rw [hread]
    constructor
    · intro he
      exact ⟨(Except.error.inj he).symm, hinfinity⟩
    · rintro ⟨rfl, -⟩
      rfl
  · rw [hread]
    constructor
    · intro he
      cases he
    · rintro ⟨-, hinfinity⟩
      have hlt : x.magnitude < infinity := of_decide_eq_true hfinite
      exact absurd (hnearest.unique hinfinity) (Nat.ne_of_lt hlt)

/-- Below the last middle a literal is read as the nearest number. -/
theorem readValue_eq_ok_iff (h : IsLiteral v) {x : Binary64} :
    Amount.readValue v = .ok x ↔
      literalValue v < 2 ^ 1024 - 2 ^ 970 ∧ x.negative = false ∧
        IsNearestNumber (literalValue v) x := by
  rcases readValue_literal h with ⟨hinfinity, hread⟩ | ⟨y, hread, hsign, hfinite, hnearest⟩
  · rw [hread]
    constructor
    · intro hx
      cases hx
    · rintro ⟨hlt, -⟩
      exact absurd (isNearest_infinity_iff.mp hinfinity) (not_le.mpr hlt)
  · have hlt : literalValue v < 2 ^ 1024 - 2 ^ 970 := by
      rw [← not_le]
      intro hle
      have herror := (readValue_eq_error_iff h).mpr ⟨rfl, hle⟩
      rw [hread] at herror
      cases herror
    rw [hread]
    constructor
    · intro hx
      obtain rfl : y = x := Except.ok.inj hx
      exact ⟨hlt, hsign, hnearest.isNearestNumber (literalValue_nonneg v) hsign hfinite⟩
    · rintro ⟨-, hsign', hnumber⟩
      have hmagnitude := hnearest.unique (hnumber.isNearest hlt hsign')
      exact congrArg Except.ok (Binary64.ext (hsign.trans hsign'.symm) hmagnitude)

/-- A number that was read has the magnitude nearest to what the literal denotes. -/
theorem isNearest_of_readValue (h : IsLiteral v) {x : Binary64}
    (hread : Amount.readValue v = .ok x) :
    x.negative = false ∧ IsNearest (literalValue v) x.magnitude := by
  obtain ⟨hlt, hsign, hnumber⟩ := (readValue_eq_ok_iff h).mp hread
  exact ⟨hsign, hnumber.isNearest hlt hsign⟩

/-- What a literal is read as depends on what it denotes alone. -/
theorem readValue_toOption_congr (h : IsLiteral v) (hu : IsLiteral u)
    (heq : literalValue u = literalValue v) :
    (Amount.readValue u).toOption = (Amount.readValue v).toOption := by
  rcases hread : Amount.readValue u with e | x
  · obtain ⟨-, hle⟩ := (readValue_eq_error_iff hu).mp hread
    rw [(readValue_eq_error_iff h).mpr ⟨rfl, heq ▸ hle⟩]
    rfl
  · have hspec := (readValue_eq_ok_iff hu).mp hread
    rw [heq] at hspec
    rw [(readValue_eq_ok_iff h).mpr hspec]

/-! ## Zeros that do not count -/

/-- The second literal is the first with zeros in front, or with zeros at the end of the digits
behind the point, where the point may be new. -/
inductive ZerosAdded : Text → Text → Prop
  | front {v : Text} (n : Nat) : ZerosAdded v (List.replicate n '0' ++ v)
  | behind {s t : Text} (hs : IsDigits s) (ht : IsDigits t) (n : Nat) :
      ZerosAdded (s ++ '.' :: t) (s ++ '.' :: (t ++ List.replicate n '0'))
  | point {s : Text} (hs : IsDigits s) (n : Nat) :
      ZerosAdded s (s ++ '.' :: List.replicate (n + 1) '0')

theorem IsDigits.zeros_append {s : Text} (h : IsDigits s) (n : Nat) :
    IsDigits (List.replicate n '0' ++ s) where
  ne_nil := List.append_ne_nil_of_right_ne_nil _ h.ne_nil
  digits := run_append.mpr ⟨Decimal.run_zeros n, h.digits⟩

theorem ofDigitChars_zeros_append (n : Nat) (s : Text) :
    Nat.ofDigitChars 10 (List.replicate n '0' ++ s) 0 = Nat.ofDigitChars 10 s 0 := by
  rw [Nat.ofDigitChars_append, Nat.ofDigitChars_replicate_zero, Nat.mul_zero]

/-- Zeros at the end of the digits behind the point leave the number as it is. -/
theorem literalValue_point_zeros {s : Text} (hs : IsDigits s) (t : Text) (n : Nat) :
    literalValue (s ++ '.' :: (t ++ List.replicate n '0')) =
      (Nat.ofDigitChars 10 (s ++ t) 0 : ℚ) / 10 ^ t.length := by
  have hpow : (10 : ℚ) ^ n ≠ 0 := pow_ne_zero n (by norm_num)
  rw [literalValue_point hs, ← List.append_assoc, ofDigitChars_append_zeros, List.length_append,
    List.length_replicate, pow_add, mul_comm ((10 : ℚ) ^ t.length)]
  push_cast
  exact mul_div_mul_left _ _ hpow

/-- Zeros that are added to a literal leave it a literal of the same number. -/
theorem ZerosAdded.literalValue_eq (h : ZerosAdded v u) (hv : IsLiteral v) :
    IsLiteral u ∧ literalValue u = literalValue v := by
  cases h with
  | front n =>
    cases hv with
    | whole hs =>
      refine ⟨.whole (hs.zeros_append n), ?_⟩
      rw [literalValue_whole hs, literalValue_whole (hs.zeros_append n), ofDigitChars_zeros_append]
    | @point s t hs ht =>
      rw [← List.append_assoc]
      refine ⟨.point (hs.zeros_append n) ht, ?_⟩
      rw [literalValue_point hs, literalValue_point (hs.zeros_append n), List.append_assoc,
        ofDigitChars_zeros_append]
  | @behind s t hs ht n =>
    have hplaces : IsDigits (t ++ List.replicate n '0') :=
      ⟨List.append_ne_nil_of_left_ne_nil ht.ne_nil _,
        run_append.mpr ⟨ht.digits, Decimal.run_zeros n⟩⟩
    refine ⟨.point hs hplaces, ?_⟩
    rw [literalValue_point_zeros hs, literalValue_point hs]
  | point hs n =>
    refine ⟨.point hs ⟨List.cons_ne_nil _ _, Decimal.run_zeros (n + 1)⟩, ?_⟩
    have hzeros := literalValue_point_zeros hs [] (n + 1)
    rw [List.nil_append, List.append_nil, List.length_nil, pow_zero, div_one] at hzeros
    rw [hzeros, literalValue_whole hs]

/-- The digits of a natural number are a literal of it. -/
theorem isLiteral_ofNat (n : Nat) :
    IsLiteral (Text.ofNat n) ∧ literalValue (Text.ofNat n) = n := by
  have hdigits : IsDigits (Text.ofNat n) := by
    refine ⟨?_, Decimal.run_ofCoefficient n 0⟩
    unfold Text.ofNat
    exact Nat.toDigits_ne_nil
  refine ⟨.whole hdigits, ?_⟩
  rw [literalValue_whole hdigits, Text.ofNat, Nat.ofDigitChars_ten_toDigits]

/-! ## The main statement -/

/-- **The number that a literal is read as.** Let `q` be what a literal of any length denotes. It is
not read, for its number is not finite, exactly when `q` is at least `2^1024 - 2^970`. Otherwise it
is read as the number with a clear sign that is nearest to `q`, the one with the even significand
where two are, and that is zero exactly when `q` is at most `2^-1075`. Literals of the same number
are read alike, such as those that differ in zeros in front or at the end of a fraction, and
literals of larger numbers are not read as smaller ones. -/
theorem readValue_exact {v : Text} (h : IsLiteral v) :
    (∀ e, Amount.readValue v = .error e ↔
      e = .notFinite v ∧ 2 ^ 1024 - 2 ^ 970 ≤ literalValue v) ∧
    (∀ x, Amount.readValue v = .ok x ↔
      literalValue v < 2 ^ 1024 - 2 ^ 970 ∧ x.negative = false ∧
        IsNearestNumber (literalValue v) x) ∧
    (∀ x, Amount.readValue v = .ok x → (x.number = 0 ↔ literalValue v ≤ 1 / 2 ^ 1075)) ∧
    (∀ u, IsLiteral u → literalValue u = literalValue v →
      (Amount.readValue u).toOption = (Amount.readValue v).toOption) ∧
    (∀ u, ZerosAdded v u → IsLiteral u ∧ literalValue u = literalValue v ∧
      (Amount.readValue u).toOption = (Amount.readValue v).toOption) ∧
    (∀ u x y, IsLiteral u → literalValue v ≤ literalValue u → Amount.readValue v = .ok x →
      Amount.readValue u = .ok y → x.number ≤ y.number) := by
  refine ⟨fun _ => readValue_eq_error_iff h, fun _ => readValue_eq_ok_iff h, ?_, ?_, ?_, ?_⟩
  · intro x hread
    obtain ⟨hsign, hnearest⟩ := isNearest_of_readValue h hread
    rw [← isNearest_zero_iff, number_of_not_negative hsign, ← value_zero,
      value_strictMono.injective.eq_iff]
    constructor
    · intro hzero
      rwa [hzero] at hnearest
    · exact hnearest.unique
  · intro u hu heq
    exact readValue_toOption_congr h hu heq
  · intro u hzeros
    obtain ⟨hu, heq⟩ := hzeros.literalValue_eq h
    exact ⟨hu, heq, readValue_toOption_congr h hu heq⟩
  · intro u x y hu hle hx hy
    obtain ⟨hsign, hnearest⟩ := isNearest_of_readValue h hx
    obtain ⟨hsign', hnearest'⟩ := isNearest_of_readValue hu hy
    rw [number_of_not_negative hsign, number_of_not_negative hsign']
    exact value_strictMono.monotone (hnearest.mono hnearest' hle)

/-- At the last middle a literal is not read any more, while the whole number before it is. -/
theorem readValue_exact_threshold :
    let v := Text.ofNat (2 ^ 1024 - 2 ^ 970)
    let u := Text.ofNat (2 ^ 1024 - 2 ^ 970 - 1)
    IsLiteral v ∧ Amount.readValue v = .error (.notFinite v) ∧
      IsLiteral u ∧ ∃ x, Amount.readValue u = .ok x := by
  intro v u
  obtain ⟨hv, hvalue⟩ := isLiteral_ofNat (2 ^ 1024 - 2 ^ 970)
  obtain ⟨hu, hvalue'⟩ := isLiteral_ofNat (2 ^ 1024 - 2 ^ 970 - 1)
  have hlt : 2 ^ 970 < 2 ^ 1024 := pow_lt_pow_right₀ Nat.one_lt_two (by decide)
  have hcast : ((2 ^ 1024 - 2 ^ 970 : Nat) : ℚ) = 2 ^ 1024 - 2 ^ 970 := by
    rw [Nat.cast_sub hlt.le, Nat.cast_pow, Nat.cast_pow, Nat.cast_ofNat]
  have hread := ((readValue_exact hv).1 _).mpr ⟨rfl, by rw [hvalue, hcast]⟩
  refine ⟨hv, hread, hu, ?_⟩
  rcases hother : Amount.readValue u with e | x
  · have hle := (((readValue_exact hu).1 e).mp hother).2
    rw [hvalue', ← hcast, Nat.cast_le] at hle
    omega
  · exact ⟨x, rfl⟩

end TradeLine
