import TradeLine.Proofs.ReadBack
import TradeLine.Proofs.ShortestDecimal

/-!
# The two renderings of an amount

The number of an amount is written twice: without exponent where people read it, and in JSON with a
mark that tells it from an integer, as a power of ten where it is very small or very large. Both
write a shortest decimal, but they break ties in different ways.

* `denoted` — the rational that the text of a number denotes;
* `NumberStyle.decimal_literal` — in every style a decimal is a literal and perhaps a power of ten,
  and these denote what the decimal stands for;
* `Binary64.finite_denoted` — so a finite number is written in every style as a text that denotes
  the shortest decimal and is read back as the number.

**Main statement** (`amount_renderings`): both renderings of an amount are read back as its number, in
JSON never as an integer. They denote the same rational unless the number is a tie above an even
point; then one is the upper point and the other one the even point below.
-/

namespace TradeLine

open Text

/-! ## What is denoted -/

/-- The characters of a literal. -/
def isLiteralChar (c : Char) : Bool :=
  c.isDigit || c = '.'

/-- The rational that a literal and the power of ten behind it denote. -/
def denotedSize (s : Text) : ℚ :=
  literalValue (s.takeWhile isLiteralChar) *
    10 ^ (Numeral.exponent? (s.dropWhile isLiteralChar)).getD 0

/-- The rational that the text of a number denotes. -/
def denoted : Text → ℚ
  | '-' :: s => -denotedSize s
  | s => denotedSize s

theorem IsLiteral.run_isLiteralChar {v : Text} (h : IsLiteral v) : Run isLiteralChar v := by
  have hdigits : ∀ {s : Text}, IsDigits s → Run isLiteralChar s := by
    intro s hs c hc
    rw [isLiteralChar, hs.digits c hc, Bool.true_or]
  cases h with
  | whole hs => exact hdigits hs
  | point hs ht => exact run_append.mpr ⟨hdigits hs, run_cons.mpr ⟨rfl, hdigits ht⟩⟩

section signed

variable {v t : Text} {e : ℤ}

theorem denotedSize_literal (h : IsLiteral v) (ht : Numeral.exponent? t = some e) :
    denotedSize (v ++ t) = literalValue v * 10 ^ e := by
  have hstop : Stops isLiteralChar t := by
    rcases eq_nil_or_of_exponent? ht with rfl | ⟨c, s, rfl, rfl | rfl⟩ <;> simp [isLiteralChar]
  rw [denotedSize, takeWhile_run h.run_isLiteralChar hstop, dropWhile_run h.run_isLiteralChar hstop,
    ht, Option.getD_some]

/-- What a sign, a literal and a power of ten denote. -/
theorem denoted_signed (h : IsLiteral v) (ht : Numeral.exponent? t = some e) (negative : Bool) :
    denoted (minusSign negative ++ (v ++ t)) =
      if negative then -(literalValue v * 10 ^ e) else literalValue v * 10 ^ e := by
  rw [← denotedSize_literal h ht]
  cases negative with
  | true => rfl
  | false =>
    obtain ⟨c, s, rfl, hc⟩ := h.exists_cons
    have hsign : c ≠ '-' := by
      rintro rfl
      cases hc
    exact denoted.eq_2 _ fun rest heq => hsign (List.cons.inj heq).1

/-- A text with a character that is no digit and no sign is no integer. -/
theorem integer?_eq_none {c : Char} {s : Text} (hc : c ∈ s) (hdigit : c.isDigit = false)
    (hplus : c ≠ '+') (hminus : c ≠ '-') : Numeral.integer? s = none := by
  have hdigits : ∀ {s : Text}, c ∈ s → Numeral.digits? s = none := by
    intro s hc
    refine if_neg fun h => ?_
    have := List.all_eq_true.mp h.2 c hc
    rw [hdigit] at this
    cases this
  unfold Numeral.integer?
  split
  · rw [hdigits ((List.mem_cons.mp hc).resolve_left hplus)]
    rfl
  · rw [hdigits ((List.mem_cons.mp hc).resolve_left hminus)]
    rfl
  · rw [hdigits hc]
    rfl

end signed

/-! ## Powers -/

theorem digits?_ofNat (n : Nat) : Numeral.digits? (Text.ofNat n) = some n := by
  have hrun : Run Char.isDigit (Text.ofNat n) := Decimal.run_ofCoefficient n 0
  rw [Numeral.digits?, if_pos ⟨Nat.toDigits_ne_nil, all_eq_true_iff_run.mpr hrun⟩, Text.ofNat,
    Nat.ofDigitChars_ten_toDigits]

namespace Decimal

variable {d : Decimal}

/-- The sign and the digits of an exponent are read back. -/
theorem integer?_exponent (n : ℤ) :
    Numeral.integer? (if n < 0 then '-' :: Text.ofNat n.natAbs else '+' :: Text.ofNat n.natAbs) =
      some n := by
  split_ifs with h
  · rw [Numeral.integer?, digits?_ofNat]
    exact congrArg some (show -(n.natAbs : ℤ) = n by omega)
  · rw [Numeral.integer?, digits?_ofNat]
    exact congrArg some (show (n.natAbs : ℤ) = n by omega)

/-- One digit before the point and the others behind it: the exponent makes up for the places. -/
theorem power_literal (h : IsDigits d.digits) :
    ∃ v t, d.power = v ++ 'e' :: t ∧ IsLiteral v ∧ Numeral.integer? t = some d.leading ∧
      literalValue v * 10 ^ d.leading = d.value := by
  obtain ⟨digits, scale⟩ := d
  have hten : (10 : ℚ) ≠ 0 := by norm_num
  match digits, h with
  | [], h => exact absurd rfl h.ne_nil
  | [first], h =>
    refine ⟨[first], _, rfl, .whole h, integer?_exponent _, ?_⟩
    rw [literalValue_whole h, value, leading, List.length_singleton]
    simp [coefficient]
  | first :: second :: rest, h =>
    obtain ⟨hdigit, hdigits⟩ := run_cons.mp h.digits
    have hfirst : IsDigits [first] := ⟨List.cons_ne_nil _ _, run_cons.mpr ⟨hdigit, run_nil⟩⟩
    have hrest : IsDigits (second :: rest) := ⟨List.cons_ne_nil _ _, hdigits⟩
    refine ⟨[first] ++ '.' :: (second :: rest), _, rfl, .point hfirst hrest, integer?_exponent _, ?_⟩
    rw [literalValue_point hfirst, value, leading, List.singleton_append, div_mul_eq_mul_div,
      div_eq_iff (pow_ne_zero _ hten), mul_assoc, List.length_cons, Nat.cast_add_one,
      add_sub_assoc, add_sub_cancel_right, zpow_add₀ hten, zpow_natCast]
    rfl

end Decimal

/-! ## Every style -/

namespace NumberStyle

variable {d : Decimal}

/-- A whole number may have a zero behind the point. -/
theorem literal_point_zero (h : IsDigits d.digits) (hscale : 0 ≤ d.scale) :
    IsLiteral (d.plain ++ ['.', '0']) ∧ literalValue (d.plain ++ ['.', '0']) = d.value := by
  obtain ⟨hliteral, hvalue⟩ := Decimal.plain_literal_of_nonneg h hscale
  have hzero := ZerosAdded.point (Decimal.isDigits_plain h hscale) 0
  rw [← hvalue]
  exact hzero.literalValue_eq hliteral

/-- In every style a decimal is a literal and perhaps a power of ten, and these denote what the
decimal stands for. -/
theorem decimal_literal (style : NumberStyle) (h : IsDigits d.digits) :
    ∃ v t e, style.decimal d = v ++ t ∧ IsLiteral v ∧ Numeral.exponent? t = some e ∧
      literalValue v * 10 ^ e = d.value := by
  unfold decimal
  split_ifs with hplain hpoint
  · obtain ⟨hliteral, hvalue⟩ := literal_point_zero h hpoint.2
    refine ⟨_, [], 0, (List.append_nil _).symm, hliteral, rfl, ?_⟩
    rw [zpow_zero, mul_one, hvalue]
  · obtain ⟨hliteral, hvalue⟩ := Decimal.plain_literal h
    refine ⟨_, [], 0, rfl, hliteral, rfl, ?_⟩
    rw [zpow_zero, mul_one, hvalue]
  · obtain ⟨v, t, hpower, hliteral, hexponent, hvalue⟩ := Decimal.power_literal h
    exact ⟨v, _, _, hpower, hliteral, hexponent, hvalue⟩

/-- A style that keeps the point marks every number as no integer. -/
theorem mark_mem_decimal (style : NumberStyle) (hstyle : style.keepsPoint = true) (d : Decimal) :
    '.' ∈ style.decimal d ∨ 'e' ∈ style.decimal d := by
  unfold decimal
  split_ifs with hplain hpoint
  · simp
  · left
    have hplaces : (-d.scale).toNat ≠ 0 := by
      rw [hstyle] at hpoint
      simp at hpoint
      omega
    rw [List.append_nil, Decimal.plain]
    simp only [if_neg hplaces]
    split_ifs <;> simp
  · simp [Decimal.power]

end NumberStyle

/-! ## Finite numbers -/

namespace Binary64

variable {x : Binary64} {k : Nat}

/-- **A finite number in any style** denotes its shortest decimal, and is read back. -/
theorem finite_denoted (style : NumberStyle) (h : x.isFinite = true) :
    let s := style.finite x.negative x.magnitude
    let size := (shortest style.tie x.magnitude).value
    denoted s = (if x.negative then -size else size) ∧ IsNearest size x.magnitude ∧
      ofText? s = some x := by
  intro s size
  obtain ⟨hdigits, hnearest⟩ := shortest_spec style.tie (of_decide_eq_true h)
  obtain ⟨v, t, e, hdecimal, hliteral, hexponent, hvalue⟩ := style.decimal_literal hdigits
  have hs : s = minusSign x.negative ++ (v ++ t) := hdecimal ▸ rfl
  obtain ⟨y, hread, hsign, hmagnitude⟩ := ofText?_signed hliteral hexponent x.negative
  rw [hvalue] at hmagnitude
  refine ⟨?_, hnearest, ?_⟩
  · rw [hs, denoted_signed hliteral hexponent, hvalue]
  · rw [hs, hread]
    exact congrArg some (Binary64.ext hsign (hmagnitude.unique hnearest))

theorem json_of_isFinite (h : x.isFinite = true) :
    x.json = NumberStyle.json.finite x.negative x.magnitude :=
  if_pos h

theorem shortest_zero (tie : Tie) : shortest tie 0 = ⟨['0'], 0⟩ :=
  if_pos rfl

theorem value_shortest_zero (tie : Tie) : (shortest tie 0).value = 0 := by
  rw [shortest_zero, Decimal.value, show Decimal.coefficient ⟨['0'], 0⟩ = 0 from rfl, Nat.cast_zero,
    zero_mul]

/-- No shortest decimal but zero ends in the digit zero. -/
theorem shortest_digits_last (tie : Tie) (hk : k ≠ 0) :
    (shortest tie k).digits.getLast? ≠ some '0' := by
  unfold shortest
  rw [if_neg hk]
  split
  · exact Decimal.reduced_digits_last _
  · exact Decimal.reduced_digits_last _

end Binary64

/-- A decimal with a point ends in its own last digit. -/
theorem Decimal.getLast?_plain {d : Decimal} (h : IsDigits d.digits) (hpoint : '.' ∈ d.plain) :
    d.plain.getLast? = d.digits.getLast? := by
  have hscale : d.scale < 0 := by
    by_contra hscale
    have := (Decimal.isDigits_plain h (not_lt.mp hscale)).digits '.' hpoint
    cases this
  have hne := h.ne_nil
  unfold plain
  simp only
  rw [if_neg (by omega)]
  split_ifs with hplaces
  · rw [List.getLast?_append, List.getLast?_cons, List.getLast?_drop, if_neg (by omega)]
    simp [List.getLast?_eq_some_getLast hne]
  · rw [List.getLast?_append]
    simp [List.getLast?_eq_some_getLast hne]

/-! ## Amounts -/

namespace Amount

open Binary64

theorem magnitude_of_negative {a : Amount} (h : a.value.negative = true) : a.value.magnitude = 0 := by
  rw [a.negative_iff.mp h]
  rfl

/-- The sign of an amount does not count: where it has one, the number is zero. -/
theorem denoted_finite (a : Amount) (style : NumberStyle) :
    denoted (style.finite a.value.negative a.value.magnitude) =
      (shortest style.tie a.value.magnitude).value := by
  rw [(finite_denoted style a.isFinite_value).1]
  split_ifs with h
  · rw [magnitude_of_negative h, value_shortest_zero, neg_zero]
  · rfl

/-- What any style writes is read back, and denotes a rational that the number is nearest to. -/
theorem rendering_spec (a : Amount) (style : NumberStyle) :
    let s := style.finite a.value.negative a.value.magnitude
    ofText? s = some a.value ∧ IsNearestNumber (denoted s) a.value := by
  intro s
  obtain ⟨-, hnearest, hread⟩ := finite_denoted style a.isFinite_value
  refine ⟨hread, ?_⟩
  rw [a.denoted_finite style]
  rcases hsign : a.value.negative with _ | _
  · have hnonneg : 0 ≤ (shortest style.tie a.value.magnitude).value :=
      mul_nonneg (Nat.cast_nonneg _) (ten_zpow_pos _).le
    exact hnearest.isNearestNumber hnonneg hsign a.isFinite_value
  · have hnumber : (shortest style.tie a.value.magnitude).value = a.value.number := by
      rw [number, magnitude_of_negative hsign, value_shortest_zero, value_zero, neg_zero, ite_self]
    rw [hnumber]
    exact isNearestNumber_number a.isFinite_value

/-- The plain rendering has a point only before a digit, and no zero at the end of a fraction. -/
theorem display_literal (a : Amount) :
    ∃ v, a.value.display = minusSign a.value.negative ++ v ∧ IsLiteral v ∧
      ('.' ∈ v → v.getLast? ≠ some '0') := by
  obtain ⟨hdigits, -⟩ := shortest_spec .up (of_decide_eq_true a.isFinite_value)
  rw [display_of_isFinite a.isFinite_value, finite_display]
  refine ⟨_, rfl, (Decimal.plain_literal hdigits).1, ?_⟩
  intro hpoint
  by_cases hzero : a.value.magnitude = 0
  · rw [hzero, shortest_zero] at hpoint
    cases hpoint with
    | tail _ h => cases h
  · rw [Decimal.getLast?_plain hdigits hpoint]
    exact shortest_digits_last .up hzero

/-- The rendering in JSON is marked as no integer. -/
theorem json_marked (a : Amount) :
    ('.' ∈ a.value.json ∨ 'e' ∈ a.value.json) ∧ Numeral.integer? a.value.json = none := by
  have hmark : '.' ∈ a.value.json ∨ 'e' ∈ a.value.json := by
    rw [json_of_isFinite a.isFinite_value, NumberStyle.finite, List.mem_append, List.mem_append]
    exact (NumberStyle.json.mark_mem_decimal rfl _).imp .inr .inr
  refine ⟨hmark, ?_⟩
  rcases hmark with h | h
  · exact integer?_eq_none h rfl (by decide) (by decide)
  · exact integer?_eq_none h rfl (by decide) (by decide)

theorem compact_toJson (a : Amount) :
    a.toJson.compact = "\x7b\"value\":".toList ++ a.value.json ++ ",\"isPercent\":".toList ++
      Json.boolean a.percent ++ ",\"unit\":".toList ++ Json.string a.unit.text ++ ['\x7d'] := by
  simp only [toJson, fields, field, UnitName.toJson, Json.compact, Json.compactMembers,
    List.append_assoc, List.append_nil, List.cons_append, List.nil_append]
  rfl

end Amount

/-- The record of a trade ends as that of its amount does. -/
theorem Command.compact_toJson_trade (side : Side) (target : Address) (a : Amount) :
    ∃ front, (Command.trade side target a).toJson.compact =
      front ++ ',' :: a.toJson.compact.tail := by
  have hfields : (Command.trade side target a).fields = field "mode" _ :: [_, _, _] ++ a.fields := rfl
  rw [Command.toJson, Json.compact, hfields, Json.compactMembers_append, ← List.cons_append,
    List.append_assoc]
  exact ⟨_, rfl⟩

/-! ## The main statement -/

/-- **The two renderings of an amount.** Let `D` be the number of an amount in its text, and `J` the
number under `value` in its compact JSON, which stands alike in the record of a trade. `D` is a
literal, with a minus sign before it where the number has one, and no fraction in it ends in zero.
`J` has a point or an exponent, so it is no integer. Both are read as the number of the amount, which
is nearest to what they denote. They denote different rationals exactly when the number is a tie above
an even point; at any tie `D` denotes the upper point and `J` the even one. -/
theorem amount_renderings (a : Amount) :
    let D := a.value.display
    let J := a.value.json
    a.text = D ++ (if a.percent then ['%'] else []) ++ a.unit.text ∧
    a.toJson.compact = "\x7b\"value\":".toList ++ J ++ ",\"isPercent\":".toList ++
      Json.boolean a.percent ++ ",\"unit\":".toList ++ Json.string a.unit.text ++ ['\x7d'] ∧
    (∀ side target, ∃ front, (Command.trade side target a).toJson.compact =
      front ++ ',' :: a.toJson.compact.tail) ∧
    (∃ v, D = minusSign a.value.negative ++ v ∧ IsLiteral v ∧
      ('.' ∈ v → v.getLast? ≠ some '0')) ∧
    (('.' ∈ J ∨ 'e' ∈ J) ∧ Numeral.integer? J = none) ∧
    (Binary64.ofText? D = some a.value ∧ Binary64.IsNearestNumber (denoted D) a.value) ∧
    (Binary64.ofText? J = some a.value ∧ Binary64.IsNearestNumber (denoted J) a.value) ∧
    (denoted D ≠ denoted J ↔ ∃ c g, Binary64.IsTie a.value.magnitude c g ∧ c % 2 = 0) ∧
    (∀ c g, Binary64.IsTie a.value.magnitude c g →
      denoted D = (c + 1) * 10 ^ g ∧
      denoted J = (if c % 2 = 0 then c else c + 1 : Nat) * 10 ^ g) := by
  intro D J
  have hfinite : a.value.magnitude < Binary64.infinity := of_decide_eq_true a.isFinite_value
  have hD : D = NumberStyle.display.finite a.value.negative a.value.magnitude :=
    Binary64.display_of_isFinite a.isFinite_value
  have hJ : J = NumberStyle.json.finite a.value.negative a.value.magnitude :=
    Binary64.json_of_isFinite a.isFinite_value
  refine ⟨rfl, a.compact_toJson, fun side target => Command.compact_toJson_trade side target a,
    a.display_literal, a.json_marked, ?_, ?_, ?_, ?_⟩
  · rw [hD]
    exact a.rendering_spec _
  · rw [hJ]
    exact a.rendering_spec _
  · rw [hD, hJ, a.denoted_finite, a.denoted_finite]
    exact Binary64.shortest_value_ne_iff hfinite
  · intro c g htie
    rw [hD, hJ, a.denoted_finite, a.denoted_finite]
    exact Binary64.shortest_of_isTie hfinite htie

/-- An amount of 564731937833943.25, in the middle of two decimals with sixteen digits. -/
def tiedAmount : Amount where
  value := .ofBits 0x43000cf734621eba
  percent := true
  unit := ⟨"u".toList, by decide, by decide⟩
  isFinite_value := by decide
  isBelowZero_value := by decide

/-- There are ties above an even point. -/
theorem amount_renderings_tie :
    ∃ c g, Binary64.IsTie tiedAmount.value.magnitude c g ∧ c % 2 = 0 := by
  obtain ⟨-, -, -, -, -, -, -, hne, -⟩ := amount_renderings tiedAmount
  rw [← hne]
  decide +kernel

/-- The text of an amount and its JSON can denote different numbers. -/
theorem amount_renderings_differ :
    tiedAmount.value.display = "564731937833943.3".toList ∧
      tiedAmount.value.json = "564731937833943.2".toList ∧
      denoted tiedAmount.value.display ≠ denoted tiedAmount.value.json := by
  refine ⟨?_, ?_, ?_⟩
  · decide +kernel
  · decide +kernel
  · decide +kernel

end TradeLine
