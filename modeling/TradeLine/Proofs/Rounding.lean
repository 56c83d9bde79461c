import Mathlib.Algebra.Order.Field.Basic
import Mathlib.Data.Rat.Cast.Order
import Mathlib.Order.Monotone.Basic
import Mathlib.Tactic.FieldSimp
import Mathlib.Tactic.Linarith
import Mathlib.Tactic.NormNum
import Mathlib.Tactic.Positivity
import Mathlib.Tactic.Ring
import TradeLine.Decimal.Binary64

/-!
# Rounding is correct

`Binary64.nearest` rounds a fraction by shifting and comparing natural numbers. Here the rounding
rule stands on its own, over the rationals:

* `value k` — the number of a magnitude; the infinite magnitude counts as `2^1024`, the number
  that would come next;
* `IsNearest q k` — no magnitude has a number nearer to `q` than `k` has, and where another one is
  as near, `k` is even;
* `InCell q k` — `q` lies between the middles to the numbers before and after, and on a middle only
  if `k` is even.

The two say the same (`isNearest_iff_inCell`), the cells lie in order and do not overlap
(`InCell.mono`, `InCell.unique`), and the code finds the cell (`inCell_nearest`).

**Main statement** (`nearest_eq_iff`): `nearest` gives a magnitude exactly when it is the nearest
one, ties to even.
-/

namespace TradeLine.Binary64

/-! ## Magnitudes in order -/

theorem binade_eq : binade = 2 ^ 52 := by decide

theorem units_of_lt {k : Nat} (h : k < binade) : units k = k :=
  if_pos h

/-- From the second binade on a magnitude is a significand `m` and a number of doublings. The last
significand of a binade may also be written as the first of the next. -/
theorem units_mul_add {e m : Nat} (hlow : binade ≤ m) (hhigh : m ≤ 2 * binade) :
    units (e * binade + m) = m * 2 ^ e := by
  have hk : ¬ e * binade + m < binade := by omega
  rw [units, if_neg hk, Nat.pow_eq]
  rcases Nat.lt_or_eq_of_le hhigh with hlt | rfl
  · have hdiv : (e * binade + m) / binade = e + 1 := by
      simp only [binade] at *
      omega
    have hmod : binade + (e * binade + m) % binade = m := by
      simp only [binade] at *
      omega
    rw [hdiv, hmod, Nat.add_sub_cancel]
  · have hdiv : (e * binade + 2 * binade) / binade = e + 2 := by
      simp only [binade] at *
      omega
    have hmod : (e * binade + 2 * binade) % binade = 0 := by
      simp only [binade] at *
      omega
    rw [hdiv, hmod, Nat.add_zero, show e + 2 - 1 = e + 1 from rfl, Nat.pow_succ]
    ring

theorem units_of_le {k : Nat} (h : k ≤ 2 * binade) : units k = k := by
  rcases Nat.lt_or_ge k binade with hlt | hge
  · exact units_of_lt hlt
  · have := units_mul_add (e := 0) hge h
    simpa using this

/-- Every magnitude past the first binade has a significand. -/
theorem exists_significand {k : Nat} (h : binade ≤ k) :
    ∃ e m, binade ≤ m ∧ m < 2 * binade ∧ k = e * binade + m := by
  refine ⟨k / binade - 1, binade + k % binade, Nat.le_add_right _ _, ?_, ?_⟩
  · have := Nat.mod_lt k (show 0 < binade by decide)
    omega
  · simp only [binade] at *
    omega

/-- The next magnitude has a larger number. -/
theorem units_lt_succ (k : Nat) : units k < units (k + 1) := by
  rcases Nat.lt_or_ge k binade with hlt | hge
  · rw [units_of_lt hlt, units_of_le (by omega)]
    exact Nat.lt_succ_self k
  · obtain ⟨e, m, hlow, hhigh, rfl⟩ := exists_significand hge
    rw [Nat.add_assoc, units_mul_add hlow (by omega), units_mul_add (by omega) (by omega)]
    exact Nat.mul_lt_mul_of_pos_right (Nat.lt_succ_self m) (Nat.two_pow_pos e)

theorem units_strictMono : StrictMono units :=
  strictMono_nat_of_lt_succ units_lt_succ

/-- The code finds the last magnitude whose number is not above `n` units. -/
theorem units_floorMagnitude (n : Nat) :
    units (floorMagnitude n) ≤ n ∧ n < units (floorMagnitude n + 1) := by
  unfold floorMagnitude
  split
  · next h =>
    rw [units_of_le (by omega), units_of_le (by omega)]
    omega
  · next h =>
    have hn : n ≠ 0 := by
      rintro rfl
      simp [binade] at h
    have hlog : 53 ≤ n.log2 := (Nat.le_log2 hn).mpr (by simp only [binade] at h; omega)
    obtain ⟨e, he⟩ : ∃ e, n.log2 = 52 + e := ⟨n.log2 - 52, by omega⟩
    have hlow : binade ≤ n / 2 ^ e := by
      rw [Nat.le_div_iff_mul_le (Nat.two_pow_pos e), binade_eq, ← Nat.pow_add, ← he]
      exact Nat.log2_self_le hn
    have hhigh : n / 2 ^ e < 2 * binade := by
      rw [Nat.div_lt_iff_lt_mul (Nat.two_pow_pos e), binade_eq, ← Nat.pow_succ', ← Nat.pow_add,
        show 52 + 1 + e = n.log2 + 1 by omega]
      exact Nat.lt_log2_self
    rw [show n.log2 - 52 = e by omega, Nat.pow_eq, Nat.add_assoc, units_mul_add hlow hhigh.le,
      units_mul_add (by omega) (by omega)]
    refine ⟨Nat.div_mul_le_self n (2 ^ e), ?_⟩
    rw [← Nat.div_lt_iff_lt_mul (Nat.two_pow_pos e)]
    exact Nat.lt_succ_self _

/-! ## The rounding rule -/

/-- The number of a magnitude. The infinite magnitude counts as `2^1024`. -/
def value (k : Nat) : ℚ :=
  units k / unitsPerOne

/-- The middle between the number of a magnitude and the next one. -/
def middle (k : Nat) : ℚ :=
  (value k + value (k + 1)) / 2

/-- No magnitude up to the infinite one is nearer to `q` than `k` is, and where another is as near,
`k` is even. -/
structure IsNearest (q : ℚ) (k : Nat) : Prop where
  le_infinity : k ≤ infinity
  nearest : ∀ j ≤ infinity, |q - value k| ≤ |q - value j|
  even_of_tie : ∀ j ≤ infinity, j ≠ k → |q - value k| = |q - value j| → k % 2 = 0

/-- `q` lies between the middles to the numbers before and after, and on one of them only if `k` is
even. Zero has no number before it, and the infinite magnitude none after. -/
structure InCell (q : ℚ) (k : Nat) : Prop where
  le_infinity : k ≤ infinity
  low : ∀ j, j + 1 = k → middle j ≤ q ∧ (q = middle j → k % 2 = 0)
  high : k < infinity → q ≤ middle k ∧ (q = middle k → k % 2 = 0)

theorem unitsPerOne_pos : 0 < unitsPerOne := by
  unfold unitsPerOne
  generalize 1074 = n
  exact Nat.two_pow_pos n

theorem cast_unitsPerOne_pos : (0 : ℚ) < unitsPerOne :=
  Nat.cast_pos.mpr unitsPerOne_pos

theorem value_nonneg (k : Nat) : 0 ≤ value k :=
  div_nonneg (Nat.cast_nonneg _) cast_unitsPerOne_pos.le

theorem value_strictMono : StrictMono value := by
  intro j k hjk
  have hunits : (units j : ℚ) < units k := Nat.cast_lt.mpr (units_strictMono hjk)
  exact div_lt_div_of_pos_right hunits cast_unitsPerOne_pos

theorem value_lt_middle (k : Nat) : value k < middle k := by
  have := value_strictMono (Nat.lt_succ_self k)
  rw [middle]
  linarith

theorem middle_lt_value (k : Nat) : middle k < value (k + 1) := by
  have := value_strictMono (Nat.lt_succ_self k)
  rw [middle]
  linarith

theorem middle_strictMono : StrictMono middle :=
  strictMono_nat_of_lt_succ fun k => (middle_lt_value k).trans (value_lt_middle (k + 1))

/-! ## Nearest is between the middles -/

section distance

variable {a b q : ℚ}

/-- The lower of two numbers is at least as near exactly up to their middle. -/
theorem abs_sub_le_abs_sub_iff (h : a < b) : |q - a| ≤ |q - b| ↔ q ≤ (a + b) / 2 := by
  rw [← sq_le_sq]
  constructor
  · intro hsq
    nlinarith
  · intro hq
    nlinarith

/-- The upper of two numbers is at least as near exactly from their middle on. -/
theorem abs_sub_ge_abs_sub_iff (h : a < b) : |q - b| ≤ |q - a| ↔ (a + b) / 2 ≤ q := by
  rw [← sq_le_sq]
  constructor
  · intro hsq
    nlinarith
  · intro hq
    nlinarith

end distance

variable {q : ℚ} {k : Nat}

theorem IsNearest.inCell (h : IsNearest q k) : InCell q k where
  le_infinity := h.le_infinity
  low := by
    rintro j rfl
    have hj : j ≤ infinity := (Nat.le_succ j).trans h.le_infinity
    have hlt : value j < value (j + 1) := value_strictMono (Nat.lt_succ_self j)
    refine ⟨(abs_sub_ge_abs_sub_iff hlt).mp (h.nearest j hj), fun hq => ?_⟩
    refine h.even_of_tie j hj (Nat.ne_of_lt (Nat.lt_succ_self j)) (le_antisymm (h.nearest j hj) ?_)
    exact (abs_sub_le_abs_sub_iff hlt).mpr hq.le
  high := by
    intro hk
    have hlt : value k < value (k + 1) := value_strictMono (Nat.lt_succ_self k)
    refine ⟨(abs_sub_le_abs_sub_iff hlt).mp (h.nearest _ hk), fun hq => ?_⟩
    refine h.even_of_tie (k + 1) hk (Nat.succ_ne_self k) (le_antisymm (h.nearest _ hk) ?_)
    exact (abs_sub_ge_abs_sub_iff hlt).mpr hq.ge

/-- Below a cell every number is farther than the cell's own, or as far on the lower middle. -/
theorem InCell.below (h : InCell q k) {j : Nat} (hj : j < k) :
    |q - value k| ≤ |q - value j| ∧ (|q - value k| = |q - value j| → k % 2 = 0) := by
  obtain ⟨i, rfl⟩ : ∃ i, k = i + 1 := ⟨k - 1, by omega⟩
  obtain ⟨hlow, heven⟩ := h.low i rfl
  have hlt : value j < value (i + 1) := value_strictMono hj
  have hle : (value j + value (i + 1)) / 2 ≤ middle i := by
    have : value j ≤ value i := value_strictMono.monotone (by omega)
    rw [middle]
    linarith
  refine ⟨(abs_sub_ge_abs_sub_iff hlt).mpr (hle.trans hlow), fun htie => heven ?_⟩
  exact le_antisymm (((abs_sub_le_abs_sub_iff hlt).mp htie.ge).trans hle) hlow

/-- Above a cell every number is farther than the cell's own, or as far on the upper middle. -/
theorem InCell.above (h : InCell q k) {j : Nat} (hj : k < j) (hinf : j ≤ infinity) :
    |q - value k| ≤ |q - value j| ∧ (|q - value k| = |q - value j| → k % 2 = 0) := by
  obtain ⟨hhigh, heven⟩ := h.high (by omega)
  have hlt : value k < value j := value_strictMono hj
  have hle : middle k ≤ (value k + value j) / 2 := by
    have : value (k + 1) ≤ value j := value_strictMono.monotone hj
    rw [middle]
    linarith
  refine ⟨(abs_sub_le_abs_sub_iff hlt).mpr (hhigh.trans hle), fun htie => heven ?_⟩
  exact le_antisymm hhigh (hle.trans ((abs_sub_ge_abs_sub_iff hlt).mp htie.ge))

theorem InCell.isNearest (h : InCell q k) : IsNearest q k where
  le_infinity := h.le_infinity
  nearest := by
    intro j hj
    rcases Nat.lt_trichotomy j k with hlt | rfl | hgt
    · exact (h.below hlt).1
    · exact le_rfl
    · exact (h.above hgt hj).1
  even_of_tie := by
    intro j hj hne htie
    rcases Nat.lt_or_gt_of_ne hne with hlt | hgt
    · exact (h.below hlt).2 htie
    · exact (h.above hgt hj).2 htie

/-- The rounding rule in terms of distances is the one in terms of middles. -/
theorem isNearest_iff_inCell : IsNearest q k ↔ InCell q k :=
  ⟨IsNearest.inCell, InCell.isNearest⟩

/-- Cells follow each other as their numbers do: they meet in a middle at most, and one of two
neighbours is odd. -/
theorem InCell.mono {q' : ℚ} {j : Nat} (h : InCell q j) (h' : InCell q' k) (hq : q ≤ q') :
    j ≤ k := by
  by_contra hlt
  obtain ⟨i, rfl⟩ : ∃ i, j = i + 1 := ⟨j - 1, by omega⟩
  obtain ⟨hlow, hjeven⟩ := h.low i rfl
  obtain ⟨hhigh, hkeven⟩ := h'.high (by have := h.le_infinity; omega)
  have hle : middle k ≤ middle i := middle_strictMono.monotone (by omega)
  have hki : middle k = middle i := le_antisymm hle (hlow.trans (hq.trans hhigh))
  obtain rfl : k = i := middle_strictMono.injective hki
  have := hjeven (le_antisymm (hq.trans hhigh) hlow)
  have := hkeven (le_antisymm hhigh (hlow.trans hq))
  omega

theorem InCell.unique {j : Nat} (h : InCell q j) (h' : InCell q k) : j = k :=
  Nat.le_antisymm (h.mono h' le_rfl) (h'.mono h le_rfl)

/-! ## The code finds the cell -/

section fraction

variable {num den : Nat}

theorem middle_eq (k : Nat) : middle k = (units k + units (k + 1)) / (2 * unitsPerOne) := by
  rw [middle, value, value, ← add_div, div_div, mul_comm (unitsPerOne : ℚ)]

/-- A fraction lies above a middle as the natural numbers say that the code compares. -/
theorem middle_le_div_iff (hden : 0 < den) :
    middle k ≤ (num : ℚ) / den ↔ (units k + units (k + 1)) * den ≤ 2 * (num * unitsPerOne) := by
  have hd : (0 : ℚ) < den := Nat.cast_pos.mpr hden
  rw [middle_eq, div_le_div_iff₀ (mul_pos two_pos cast_unitsPerOne_pos) hd,
    ← Nat.cast_le (α := ℚ)]
  push_cast
  rw [mul_left_comm]

/-- A fraction lies below a middle as the natural numbers say that the code compares. -/
theorem div_le_middle_iff (hden : 0 < den) :
    (num : ℚ) / den ≤ middle k ↔ 2 * (num * unitsPerOne) ≤ (units k + units (k + 1)) * den := by
  have hd : (0 : ℚ) < den := Nat.cast_pos.mpr hden
  rw [middle_eq, div_le_div_iff₀ hd (mul_pos two_pos cast_unitsPerOne_pos),
    ← Nat.cast_le (α := ℚ)]
  push_cast
  rw [mul_left_comm]

theorem middle_lt_div_iff (hden : 0 < den) :
    middle k < (num : ℚ) / den ↔ (units k + units (k + 1)) * den < 2 * (num * unitsPerOne) := by
  rw [← not_le, div_le_middle_iff hden, not_le]

theorem div_lt_middle_iff (hden : 0 < den) :
    (num : ℚ) / den < middle k ↔ 2 * (num * unitsPerOne) < (units k + units (k + 1)) * den := by
  rw [← not_le, middle_le_div_iff hden, not_le]

/-- The magnitude before the fraction and the one after it. -/
theorem value_floorMagnitude (num : Nat) (hden : 0 < den) :
    value (floorMagnitude (num * unitsPerOne / den)) ≤ (num : ℚ) / den ∧
      (num : ℚ) / den < value (floorMagnitude (num * unitsPerOne / den) + 1) := by
  have hd : (0 : ℚ) < den := Nat.cast_pos.mpr hden
  have hu : (0 : ℚ) < unitsPerOne := cast_unitsPerOne_pos
  obtain ⟨hlow, hhigh⟩ := units_floorMagnitude (num * unitsPerOne / den)
  rw [Nat.le_div_iff_mul_le hden] at hlow
  rw [Nat.div_lt_iff_lt_mul hden] at hhigh
  rw [value, value, div_le_div_iff₀ hu hd, div_lt_div_iff₀ hd hu]
  exact ⟨by exact_mod_cast hlow, by exact_mod_cast hhigh⟩

/-- What the code chooses between a magnitude and the next, before the format's upper end. -/
theorem nearest_cases (num : Nat) (hden : 0 < den) :
    ∃ below chosen, nearest num den = min chosen infinity ∧
      value below ≤ (num : ℚ) / den ∧ (num : ℚ) / den < value (below + 1) ∧
      (chosen = below ∧ (num : ℚ) / den ≤ middle below ∧
          ((num : ℚ) / den = middle below → below % 2 = 0) ∨
        chosen = below + 1 ∧ middle below ≤ (num : ℚ) / den ∧
          ((num : ℚ) / den = middle below → (below + 1) % 2 = 0)) := by
  obtain ⟨hlow, hhigh⟩ := value_floorMagnitude num hden
  refine ⟨floorMagnitude (num * unitsPerOne / den), _, rfl, hlow, hhigh, ?_⟩
  generalize floorMagnitude (num * unitsPerOne / den) = below
  split_ifs with hlt hgt heven
  · have hlt := (div_lt_middle_iff hden).mpr hlt
    exact .inl ⟨rfl, hlt.le, fun h => absurd h hlt.ne⟩
  · have hgt := (middle_lt_div_iff hden).mpr hgt
    exact .inr ⟨rfl, hgt.le, fun h => absurd h hgt.ne'⟩
  · exact .inl ⟨rfl, (div_le_middle_iff hden).mpr (Nat.le_of_not_lt hgt), fun _ => heven⟩
  · exact .inr ⟨rfl, (middle_le_div_iff hden).mpr (Nat.le_of_not_lt hlt), fun _ => by omega⟩

/-- What is not below `2^1024` lies in the cell of the infinite magnitude. -/
theorem inCell_infinity (h : value infinity ≤ q) : InCell q infinity where
  le_infinity := le_rfl
  low := by
    intro j hj
    have hlt : middle j < q := (hj ▸ middle_lt_value j).trans_le h
    exact ⟨hlt.le, fun hq => absurd hq hlt.ne'⟩
  high := fun h => absurd h (Nat.lt_irrefl _)

/-- `nearest` finds the cell of its fraction. -/
theorem inCell_nearest (num : Nat) (hden : 0 < den) :
    InCell ((num : ℚ) / den) (nearest num den) := by
  obtain ⟨below, chosen, hnearest, hlow, hhigh, hchosen⟩ := nearest_cases num hden
  rw [hnearest]
  rcases Nat.lt_or_ge below infinity with hbelow | hbelow
  · rcases hchosen with ⟨rfl, hmiddle, heven⟩ | ⟨rfl, hmiddle, heven⟩
    · rw [min_eq_left hbelow.le]
      refine ⟨hbelow.le, ?_, fun _ => ⟨hmiddle, heven⟩⟩
      rintro j rfl
      have hlt := (middle_lt_value j).trans_le hlow
      exact ⟨hlt.le, fun h => absurd h hlt.ne'⟩
    · rw [min_eq_left hbelow]
      refine ⟨hbelow, ?_, fun _ => ?_⟩
      · rintro j hj
        obtain rfl : j = below := Nat.succ.inj hj
        exact ⟨hmiddle, heven⟩
      · have hlt := hhigh.trans (value_lt_middle (below + 1))
        exact ⟨hlt.le, fun h => absurd h hlt.ne⟩
  · have hmin : min chosen infinity = infinity := by
      rcases hchosen with ⟨rfl, -⟩ | ⟨rfl, -⟩ <;> exact min_eq_right (by omega)
    rw [hmin]
    exact inCell_infinity ((value_strictMono.monotone hbelow).trans hlow)

/-- **Rounding is correct**: `nearest` gives the magnitude nearest to its fraction, the even one of
two that are equally near. -/
theorem nearest_eq_iff (hden : 0 < den) : nearest num den = k ↔ IsNearest ((num : ℚ) / den) k := by
  rw [isNearest_iff_inCell]
  constructor
  · rintro rfl
    exact inCell_nearest num hden
  · exact (inCell_nearest num hden).unique

end fraction

end TradeLine.Binary64
