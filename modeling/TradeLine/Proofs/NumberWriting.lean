import TradeLine.Decimal.Layout
import TradeLine.Proofs.NumberReading

/-!
# A written number is read back

`Binary64.shortest` tries decimal grids from coarse to fine, and what it finds on a grid, or the
exact expansion where no grid serves, rounds to the magnitude at hand. Writing it plainly keeps the
number: the digits with a point among them denote what the decimal stands for.

**Main statement** (`display_eq`): a finite number is written as its sign and a literal, and what
the literal denotes rounds to the number's magnitude.
-/

namespace TradeLine

open Text

/-! ## Without zeros at the end -/

namespace Decimal

variable {d : Decimal}

/-- Only zeros are taken off. -/
theorem stripZeros_append (digits : Text) :
    stripZeros digits ++ List.replicate (digits.length - (stripZeros digits).length) '0'
      = digits := by
  have hsplit : stripZeros digits ++ (digits.reverse.takeWhile (· = '0')).reverse = digits := by
    rw [stripZeros, ← List.reverse_append, List.takeWhile_append_dropWhile, List.reverse_reverse]
  have hzeros : ∀ c ∈ (digits.reverse.takeWhile (· = '0')).reverse, c = '0' := by
    intro c hc
    have := List.mem_takeWhile_imp (List.mem_reverse.mp hc)
    simpa using this
  have hlength := congrArg List.length hsplit
  rw [List.length_append] at hlength
  rw [show digits.length - (stripZeros digits).length
      = ((digits.reverse.takeWhile (· = '0')).reverse).length by omega,
    ← List.eq_replicate_of_mem hzeros, hsplit]

/-- Taking zeros off the end leaves the number as it is. -/
theorem value_reduced (d : Decimal) : d.reduced.value = d.value := by
  have hcoefficient : d.coefficient =
      10 ^ (d.digits.length - (stripZeros d.digits).length) * d.reduced.coefficient := by
    rw [coefficient, ← stripZeros_append d.digits, ofDigitChars_append_zeros, stripZeros_append]
    rfl
  rw [value, value, hcoefficient, reduced, zpow_add₀ (by norm_num), zpow_natCast]
  push_cast
  ring

/-- A number other than zero keeps digits. -/
theorem isDigits_reduced (hdigits : Run Char.isDigit d.digits) (h : d.coefficient ≠ 0) :
    IsDigits d.reduced.digits := by
  have hsplit := stripZeros_append d.digits
  refine ⟨fun hnil => h ?_, ?_⟩
  · rw [show stripZeros d.digits = [] from hnil, List.nil_append] at hsplit
    rw [coefficient, ← hsplit, Nat.ofDigitChars_replicate_zero, Nat.mul_zero]
  · rw [← hsplit] at hdigits
    exact (run_append.mp hdigits).1

theorem run_ofCoefficient (n : Nat) (scale : Int) :
    Run Char.isDigit (ofCoefficient n scale).digits :=
  fun _ hc => Nat.isDigit_of_mem_toDigits (by decide) (by decide) hc

/-! ## Plain writing -/

theorem run_zeros (n : Nat) : Run Char.isDigit (List.replicate n '0') := by
  intro c hc
  rw [List.eq_of_mem_replicate hc]
  rfl

/-- A point before as many digits as the scale says leaves the number as it is. -/
theorem literalValue_point_eq_value {s t : Text} (hs : IsDigits s)
    (hplaces : d.scale = -(t.length : ℤ))
    (hdigits : Nat.ofDigitChars 10 (s ++ t) 0 = d.coefficient) :
    literalValue (s ++ '.' :: t) = d.value := by
  rw [literalValue_point hs, hdigits, value, hplaces, zpow_neg, zpow_natCast, div_eq_mul_inv]

/-- A whole number is written with zeros at its end. -/
theorem plain_of_nonneg (hscale : 0 ≤ d.scale) :
    d.plain = d.digits ++ List.replicate d.scale.toNat '0' :=
  if_pos (by omega)

theorem isDigits_plain (h : IsDigits d.digits) (hscale : 0 ≤ d.scale) : IsDigits d.plain := by
  rw [plain_of_nonneg hscale]
  exact ⟨List.append_ne_nil_of_left_ne_nil h.ne_nil _, run_append.mpr ⟨h.digits, run_zeros _⟩⟩

theorem plain_literal_of_nonneg (h : IsDigits d.digits) (hscale : 0 ≤ d.scale) :
    IsLiteral d.plain ∧ literalValue d.plain = d.value := by
  have hdigits := isDigits_plain h hscale
  refine ⟨.whole hdigits, ?_⟩
  have hnat : (d.scale.toNat : ℤ) = d.scale := Int.toNat_of_nonneg hscale
  rw [literalValue_whole hdigits, plain_of_nonneg hscale, ofDigitChars_append_zeros, value, ← hnat,
    zpow_natCast]
  push_cast
  rw [mul_comm]
  rfl

/-- A number with digits on both sides of the point is written with the point among them. -/
theorem plain_literal_of_inside (h : IsDigits d.digits) (hneg : d.scale < 0)
    (hpos : 0 < d.scale + d.digits.length) :
    IsLiteral d.plain ∧ literalValue d.plain = d.value := by
  obtain ⟨n, hn⟩ : ∃ n, d.digits.length - (-d.scale).toNat = n := ⟨_, rfl⟩
  have hplain : d.plain = d.digits.take n ++ '.' :: d.digits.drop n := by
    rw [← hn]
    exact (if_neg (by omega)).trans (if_pos (by omega))
  have hcut : d.digits.take n ++ d.digits.drop n = d.digits := List.take_append_drop n _
  have hrun := h.digits
  rw [← hcut, run_append] at hrun
  have hwhole : IsDigits (d.digits.take n) := by
    refine ⟨List.ne_nil_of_length_pos ?_, hrun.1⟩
    rw [List.length_take]
    omega
  have hplaces : IsDigits (d.digits.drop n) := by
    refine ⟨List.ne_nil_of_length_pos ?_, hrun.2⟩
    rw [List.length_drop]
    omega
  rw [hplain]
  refine ⟨.point hwhole hplaces, literalValue_point_eq_value hwhole ?_ ?_⟩
  · rw [List.length_drop]
    omega
  · rw [hcut]
    rfl

/-- A number below one is written with a zero before the point and zeros after it. -/
theorem plain_literal_of_below (h : IsDigits d.digits) (hlow : d.scale + d.digits.length ≤ 0) :
    IsLiteral d.plain ∧ literalValue d.plain = d.value := by
  have hlength : 0 < d.digits.length := List.length_pos_of_ne_nil h.ne_nil
  obtain ⟨n, hn⟩ : ∃ n, (-d.scale).toNat - d.digits.length = n := ⟨_, rfl⟩
  have hplain : d.plain = ['0'] ++ '.' :: (List.replicate n '0' ++ d.digits) := by
    rw [← hn]
    exact (if_neg (by omega)).trans (if_neg (by omega))
  have hzero : IsDigits ['0'] := ⟨List.cons_ne_nil _ _, run_cons.mpr ⟨rfl, run_nil⟩⟩
  have hplaces : IsDigits (List.replicate n '0' ++ d.digits) :=
    ⟨List.append_ne_nil_of_right_ne_nil _ h.ne_nil, run_append.mpr ⟨run_zeros _, h.digits⟩⟩
  have hzeros : '0' :: List.replicate n '0' = List.replicate (n + 1) '0' := rfl
  rw [hplain]
  refine ⟨.point hzero hplaces, literalValue_point_eq_value hzero ?_ ?_⟩
  · rw [List.length_append, List.length_replicate]
    omega
  · rw [List.singleton_append, ← List.cons_append, hzeros, Nat.ofDigitChars_append,
      Nat.ofDigitChars_replicate_zero, Nat.mul_zero]
    rfl

/-- A decimal written plainly is a literal that denotes what the decimal stands for. -/
theorem plain_literal (h : IsDigits d.digits) :
    IsLiteral d.plain ∧ literalValue d.plain = d.value := by
  rcases le_or_gt 0 d.scale with hscale | hscale
  · exact plain_literal_of_nonneg h hscale
  · rcases le_or_gt (d.scale + d.digits.length) 0 with hlow | hpos
    · exact plain_literal_of_below h hlow
    · exact plain_literal_of_inside h hscale hpos

end Decimal

/-! ## The shortest decimal rounds to its magnitude -/

namespace Binary64

variable {tie : Tie} {k : Nat}

/-- The number of a magnitude rounds to it. -/
theorem isNearest_value (h : k ≤ infinity) : IsNearest (value k) k where
  le_infinity := h
  nearest := by
    intro j _
    rw [sub_self, abs_zero]
    exact abs_nonneg _
  even_of_tie := by
    intro j _ hne htie
    rw [sub_self, abs_zero, eq_comm, abs_eq_zero, sub_eq_zero] at htie
    exact absurd (value_strictMono.injective htie.symm) hne

theorem IsNearest.unique {q : ℚ} {j k : Nat} (h : IsNearest q j) (h' : IsNearest q k) : j = k :=
  h.inCell.unique h'.inCell

theorem isNearest_zero : IsNearest 0 0 := by
  have := isNearest_value (Nat.zero_le infinity)
  rwa [value, units_of_lt (by decide), Nat.cast_zero, zero_div] at this

/-- Only zero is nearest to zero. -/
theorem IsNearest.eq_zero (h : IsNearest 0 k) : k = 0 :=
  h.unique isNearest_zero

/-- The test on a grid point compares with the middles, as the rounding rule does. -/
theorem roundsTo_succ_iff {j c : Nat} {g : Int} :
    roundsTo (j + 1) c g = true ↔
      if (j + 1) % 2 = 0 then
        middle j ≤ (Decimal.ofCoefficient c g).value ∧
          (Decimal.ofCoefficient c g).value ≤ middle (j + 1)
      else
        middle j < (Decimal.ofCoefficient c g).value ∧
          (Decimal.ofCoefficient c g).value < middle (j + 1) := by
  have hden := (Decimal.ofCoefficient c g).denominator_pos
  have hpoint : 2 * c * unitsPerOne * Nat.pow 10 g.toNat
      = 2 * ((Decimal.ofCoefficient c g).numerator * unitsPerOne) := by
    rw [Decimal.numerator, Decimal.coefficient_ofCoefficient, mul_right_comm c, mul_assoc 2,
      mul_assoc 2]
    rfl
  rw [Decimal.value_eq_div, middle_le_div_iff hden, div_le_middle_iff hden, middle_lt_div_iff hden,
    div_lt_middle_iff hden, roundsTo]
  simp only [hpoint, Nat.add_sub_cancel]
  split_ifs <;> rw [Bool.and_eq_true, decide_eq_true_eq, decide_eq_true_eq] <;> rfl

/-- A grid point that passes the test rounds to the magnitude. -/
theorem isNearest_of_roundsTo {c : Nat} {g : Int} (hpos : k ≠ 0) (hk : k < infinity)
    (h : roundsTo k c g = true) : IsNearest (Decimal.ofCoefficient c g).value k := by
  obtain ⟨j, rfl⟩ : ∃ j, k = j + 1 := ⟨k - 1, by omega⟩
  rw [roundsTo_succ_iff] at h
  refine InCell.isNearest ⟨hk.le, ?_, fun _ => ?_⟩
  · rintro i hi
    obtain rfl : i = j := Nat.succ.inj hi
    split_ifs at h with heven
    · exact ⟨h.1, fun _ => heven⟩
    · exact ⟨h.1.le, fun htie => absurd htie h.1.ne'⟩
  · split_ifs at h with heven
    · exact ⟨h.2, fun _ => heven⟩
    · exact ⟨h.2.le, fun htie => absurd htie h.2.ne⟩

/-- What is found on a grid is one of the two neighbours of the number, and passes the test. -/
theorem onGrid_cases {c : Nat} {g : Int} (h : onGrid tie k g = some c) :
    (c = gridBelow k g ∨ c = gridBelow k g + 1) ∧ roundsTo k c g = true := by
  unfold onGrid at h
  simp only at h
  split at h
  · cases h
  · next hbelow _ =>
    cases h
    exact ⟨.inl rfl, hbelow⟩
  · next _ habove =>
    cases h
    exact ⟨.inr rfl, habove⟩
  · next hbelow habove =>
    split at h
    · cases h
      exact ⟨.inl rfl, hbelow⟩
    · cases h
      exact ⟨.inr rfl, habove⟩
    · cases h
      exact ⟨.inr rfl, habove⟩
    · split_ifs at h
      · cases h
        exact ⟨.inl rfl, hbelow⟩
      · cases h
        exact ⟨.inr rfl, habove⟩

/-- The number with all its digits is the number. -/
theorem value_exactDecimal (k : Nat) : (exactDecimal k).value = value k := by
  have hpow : ∀ n : Nat, ((units k * Nat.pow 5 n : Nat) : ℚ) * 10 ^ (-(n : ℤ))
      = units k / ((2 ^ n : Nat) : ℚ) := by
    intro n
    rw [Nat.pow_eq, zpow_neg, zpow_natCast, show (10 : ℚ) = 5 * 2 by norm_num, mul_pow]
    push_cast
    field_simp
  rw [exactDecimal, Decimal.value, Decimal.coefficient_ofCoefficient, value, unitsPerOne_eq,
    Decimal.ofCoefficient, show (-1074 : ℤ) = -((1074 : Nat) : ℤ) from rfl]
  generalize 1074 = n
  exact hpow n

/-- A decimal that rounds to a positive magnitude does so without the zeros at its end, and keeps
digits. -/
theorem reduced_spec {c : Nat} {g : Int} (hpos : k ≠ 0)
    (h : IsNearest (Decimal.ofCoefficient c g).value k) :
    IsDigits (Decimal.ofCoefficient c g).reduced.digits ∧
      IsNearest (Decimal.ofCoefficient c g).reduced.value k := by
  refine ⟨Decimal.isDigits_reduced (Decimal.run_ofCoefficient c g) fun hc => hpos ?_, ?_⟩
  · rw [Decimal.value, hc, Nat.cast_zero, zero_mul] at h
    exact h.eq_zero
  · rwa [Decimal.value_reduced]

/-- **The shortest decimal** of a finite magnitude has digits and rounds to it. -/
theorem shortest_spec (tie : Tie) (hk : k < infinity) :
    IsDigits (shortest tie k).digits ∧ IsNearest (shortest tie k).value k := by
  unfold shortest
  split_ifs with hzero
  · subst hzero
    refine ⟨⟨List.cons_ne_nil _ _, run_cons.mpr ⟨rfl, run_nil⟩⟩, ?_⟩
    have hvalue : Decimal.value ⟨['0'], 0⟩ = 0 := by
      rw [Decimal.value, show Decimal.coefficient ⟨['0'], 0⟩ = 0 from rfl, Nat.cast_zero, zero_mul]
    rw [hvalue]
    exact isNearest_zero
  · split
    · next d hd =>
      obtain ⟨n, -, hn⟩ := List.exists_of_findSome?_eq_some hd
      obtain ⟨c, hc, rfl⟩ := Option.map_eq_some_iff.mp hn
      exact reduced_spec hzero (isNearest_of_roundsTo hzero hk (onGrid_cases hc).2)
    · refine reduced_spec hzero ?_
      have hexact := value_exactDecimal k
      rw [exactDecimal] at hexact
      rw [hexact]
      exact isNearest_value hk.le

theorem display_of_isFinite {x : Binary64} (h : x.isFinite = true) :
    x.display = NumberStyle.display.finite x.negative x.magnitude := by
  have hnan : ¬ x.isNaN = true := by
    rw [isFinite, decide_eq_true_eq] at h
    rw [isNaN, decide_eq_true_eq]
    omega
  rw [display, if_neg hnan, if_pos h]

/-- What people read is the plain decimal. -/
theorem finite_display (negative : Bool) (k : Nat) :
    NumberStyle.display.finite negative k = minusSign negative ++ (shortest .up k).plain := by
  simp [NumberStyle.finite, NumberStyle.decimal, NumberStyle.display, minusSign]

/-- **A written number is read back**: a finite number is its sign and a literal that rounds to its
magnitude. -/
theorem display_eq {x : Binary64} (h : x.isFinite = true) :
    ∃ v, x.display = (if x.negative then ['-'] else []) ++ v ∧ IsLiteral v ∧
      IsNearest (literalValue v) x.magnitude := by
  obtain ⟨hdigits, hnearest⟩ := shortest_spec .up (of_decide_eq_true h)
  obtain ⟨hliteral, hvalue⟩ := Decimal.plain_literal hdigits
  rw [display_of_isFinite h, finite_display]
  exact ⟨_, rfl, hliteral, hvalue ▸ hnearest⟩

end Binary64

end TradeLine
