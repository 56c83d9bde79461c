import Mathlib.Algebra.Order.Floor.Semifield
import Mathlib.Data.Rat.Floor
import TradeLine.Proofs.NumberWriting

/-!
# The shortest decimal, and ties

`Binary64.shortest` looks for a decimal on the grids `10^g`, from coarse to fine. Here is what it
finds, in terms of the number alone.

* `leadingExponent_spec` — the first grid is that of the number's first digit;
* `gridBelow_eq` — of a grid the two neighbours of the number are tried;
* `onGrid_eq_none_iff` — and nothing is found on a grid exactly when none of its points rounds to
  the number;
* `exists_isNearest_seventeen` — with seventeen digits something is always found;
* `not_isNearest_of_fewer` — what is found has the fewest digits;
* `IsTie k c g` — the number of `k` lies in the middle between `c * 10^g` and the next point, both
  round to it, and nothing with fewer digits does.

**Main statement** (`shortest_value_ne_iff`, `shortest_of_isTie`): how ties are broken matters for a
tie above an even point, and for nothing else.
-/

namespace TradeLine

open Text

/-! ## Powers of ten -/

theorem Decimal.value_ofCoefficient (c : Nat) (g : ℤ) :
    (Decimal.ofCoefficient c g).value = c * 10 ^ g := by
  rw [Decimal.value, Decimal.coefficient_ofCoefficient]
  rfl

theorem ten_zpow_pos (g : ℤ) : (0 : ℚ) < 10 ^ g :=
  zpow_pos (by norm_num) g

theorem ten_zpow_add (g : ℤ) (n : Nat) : (10 : ℚ) ^ (g + n) = 10 ^ n * 10 ^ g := by
  rw [zpow_add₀ (by norm_num), zpow_natCast, mul_comm]

theorem ten_zpow_sub (e : ℤ) (n : Nat) : (10 : ℚ) ^ (n + 1) * 10 ^ (e - n) = 10 ^ (e + 1) := by
  rw [← ten_zpow_add]
  congr 1
  push_cast
  ring

/-- A power of ten as the fraction that the code compares with. -/
theorem ten_zpow_eq_div (g : ℤ) : (10 : ℚ) ^ g = 10 ^ g.toNat / 10 ^ (-g).toNat := by
  obtain ⟨n, rfl | rfl⟩ := g.eq_nat_or_neg
  · simp
  · simp [zpow_neg]

/-- A number other than zero has its first digit in its last place but one. -/
theorem pow_length_le {n : Nat} (h : n ≠ 0) :
    10 ^ ((Nat.toDigits 10 n).length - 1) ≤ n ∧ n < 10 ^ (Nat.toDigits 10 n).length := by
  have hlength : 0 < (Nat.toDigits 10 n).length := Nat.length_toDigits_pos
  constructor
  · by_contra hlt
    rcases Nat.eq_zero_or_pos ((Nat.toDigits 10 n).length - 1) with hone | hpos
    · rw [hone, Nat.pow_zero] at hlt
      omega
    · have := (Nat.length_toDigits_le_iff (by decide) hpos).mpr (Nat.lt_of_not_le hlt)
      omega
  · exact (Nat.length_toDigits_le_iff (by decide) hlength).mp le_rfl

namespace Binary64

variable {k : Nat} {q : ℚ}

/-! ## The first digit -/

/-- The smallest number is far above `10^-400`. -/
theorem one_le_value_mul (h : k ≠ 0) : 1 ≤ value k * 10 ^ 400 := by
  have hunits : units 0 < units k := units_strictMono (Nat.pos_of_ne_zero h)
  have hone : (1 : ℚ) ≤ units k := Nat.one_le_cast.mpr (Nat.one_le_of_lt hunits)
  have hpow : (unitsPerOne : ℚ) ≤ 10 ^ 400 := by
    rw [unitsPerOne_eq, Nat.cast_pow, Nat.cast_ofNat]
    exact two_pow_le_ten_pow (by norm_num)
  rw [value, div_mul_eq_mul_div, one_le_div cast_unitsPerOne_pos]
  exact hpow.trans (le_mul_of_one_le_left (by positivity) hone)

/-- The code counts the digits before the point, after a shift by 400 places. -/
theorem leadingExponent_eq (k : Nat) :
    leadingExponent k = ((Nat.toDigits 10 ⌊value k * 10 ^ 400⌋₊).length : ℤ) - 401 := by
  have hfloor : ∀ n : Nat, ⌊value k * 10 ^ n⌋₊ = units k * Nat.pow 10 n / unitsPerOne := by
    intro n
    rw [← Nat.floor_div_eq_div (K := ℚ), value, div_mul_eq_mul_div, Nat.pow_eq]
    push_cast
    rfl
  unfold leadingExponent
  generalize 400 = n
  rw [hfloor]

/-- The first digit of a number counts the power of ten that the code starts with. -/
theorem leadingExponent_spec (h : k ≠ 0) :
    10 ^ leadingExponent k ≤ value k ∧ value k < 10 ^ (leadingExponent k + 1) := by
  obtain ⟨n, hfloor⟩ : ∃ n, ⌊value k * 10 ^ 400⌋₊ = n := ⟨_, rfl⟩
  have hnonneg : 0 ≤ value k * 10 ^ 400 := zero_le_one.trans (one_le_value_mul h)
  have hle : (n : ℚ) ≤ value k * 10 ^ 400 := hfloor ▸ Nat.floor_le hnonneg
  have hlt : value k * 10 ^ 400 < n + 1 := hfloor ▸ Nat.lt_floor_add_one _
  have hn0 : n ≠ 0 := by
    rw [← hfloor, ne_eq, Nat.floor_eq_zero, not_lt]
    exact one_le_value_mul h
  have hlength : 0 < (Nat.toDigits 10 n).length := Nat.length_toDigits_pos
  obtain ⟨hlow, hhigh⟩ := pow_length_le hn0
  have hexponent : leadingExponent k = ((Nat.toDigits 10 n).length : ℤ) - 401 := by
    rw [leadingExponent_eq, hfloor]
  have hshift : ∀ e : ℤ, (10 : ℚ) ^ (e + 400) = 10 ^ e * 10 ^ 400 := by
    intro e
    rw [zpow_add₀ (by norm_num)]
    rfl
  constructor
  · rw [← mul_le_mul_iff_of_pos_right (show (0 : ℚ) < 10 ^ 400 by positivity), ← hshift,
      show leadingExponent k + 400 = (((Nat.toDigits 10 n).length - 1 : Nat) : ℤ) by omega,
      zpow_natCast]
    exact (by exact_mod_cast hlow : (10 : ℚ) ^ _ ≤ n).trans hle
  · rw [← mul_lt_mul_iff_of_pos_right (show (0 : ℚ) < 10 ^ 400 by positivity), ← hshift,
      show leadingExponent k + 1 + 400 = (((Nat.toDigits 10 n).length : Nat) : ℤ) by omega,
      zpow_natCast]
    exact hlt.trans_le (by exact_mod_cast hhigh)

/-! ## Points of a grid -/

/-- What lies between two points of a cell lies in the cell. -/
theorem IsNearest.between {p q' : ℚ} (h : IsNearest q k) (h' : IsNearest q' k) (hq : q ≤ p)
    (hq' : p ≤ q') : IsNearest p k := by
  obtain ⟨hle, hlow, -⟩ := h.inCell
  obtain ⟨-, -, hhigh⟩ := h'.inCell
  refine InCell.isNearest ⟨hle, fun j hj => ?_, fun hk => ?_⟩
  · obtain ⟨hmiddle, heven⟩ := hlow j hj
    refine ⟨hmiddle.trans hq, fun hp => heven ?_⟩
    exact le_antisymm (hq.trans hp.le) hmiddle
  · obtain ⟨hmiddle, heven⟩ := hhigh hk
    refine ⟨hq'.trans hmiddle, fun hp => heven ?_⟩
    exact le_antisymm hmiddle (hp.ge.trans hq')

/-- The test on a grid point is the rounding rule. -/
theorem roundsTo_iff {c : Nat} {g : ℤ} (hpos : k ≠ 0) (hk : k < infinity) :
    roundsTo k c g = true ↔ IsNearest (c * 10 ^ g) k := by
  rw [← Decimal.value_ofCoefficient]
  constructor
  · exact isNearest_of_roundsTo hpos hk
  · intro h
    obtain ⟨j, rfl⟩ : ∃ j, k = j + 1 := ⟨k - 1, by omega⟩
    obtain ⟨-, hlow, hhigh⟩ := h.inCell
    obtain ⟨hlow, hlowEven⟩ := hlow j rfl
    obtain ⟨hhigh, hhighEven⟩ := hhigh hk
    rw [roundsTo_succ_iff]
    split_ifs with heven
    · exact ⟨hlow, hhigh⟩
    · exact ⟨lt_of_le_of_ne hlow fun h => heven (hlowEven h.symm),
        lt_of_le_of_ne hhigh fun h => heven (hhighEven h)⟩

/-- The number of `k`, counted in grid steps, is the fraction that the code divides. -/
theorem value_div_eq (k : Nat) (g : ℤ) :
    value k / 10 ^ g = ((units k * Nat.pow 10 (-g).toNat : Nat) : ℚ) /
      ((unitsPerOne * Nat.pow 10 g.toNat : Nat) : ℚ) := by
  have hunits := cast_unitsPerOne_pos.ne'
  rw [value, ten_zpow_eq_div, Nat.pow_eq, Nat.pow_eq]
  push_cast
  field_simp

theorem gridBelow_eq (k : Nat) (g : ℤ) : gridBelow k g = ⌊value k / 10 ^ g⌋₊ := by
  rw [value_div_eq, Nat.floor_div_eq_div]
  rfl

/-- The two neighbours of a number on a grid. -/
theorem gridBelow_eq_iff {c : Nat} {g : ℤ} :
    gridBelow k g = c ↔ c * 10 ^ g ≤ value k ∧ value k < (c + 1) * 10 ^ g := by
  have hstep := ten_zpow_pos g
  rw [gridBelow_eq, Nat.floor_eq_iff (div_nonneg (value_nonneg k) hstep.le), le_div_iff₀ hstep,
    div_lt_iff₀ hstep]

/-- The comparison with the middle of two neighbours is exact. -/
theorem compareMiddle_eq_iff {c : Nat} {g : ℤ} :
    compareMiddle k c g = .eq ↔ value k = (c + 1 / 2) * 10 ^ g := by
  have hden : ((unitsPerOne * Nat.pow 10 g.toNat : Nat) : ℚ) ≠ 0 := by
    rw [Nat.cast_ne_zero]
    exact (Nat.mul_pos unitsPerOne_pos (Nat.pow_pos (by decide))).ne'
  rw [← div_eq_iff (ten_zpow_pos g).ne', value_div_eq, div_eq_iff hden, compareMiddle,
    Nat.compare_eq_eq, ← Nat.cast_inj (R := ℚ), mul_assoc 2]
  generalize unitsPerOne * Nat.pow 10 g.toNat = den
  generalize units k * Nat.pow 10 (-g).toNat = num
  push_cast
  constructor
  · intro h
    linarith
  · intro h
    linarith

/-! ## Search on a grid -/

section grid

variable {tie : Tie} {g : ℤ} {c : Nat}

/-- Where a neighbour passes the test, something is found. -/
theorem onGrid_ne_none (h : roundsTo k (gridBelow k g) g = true ∨
    roundsTo k (gridBelow k g + 1) g = true) : onGrid tie k g ≠ none := by
  unfold onGrid
  simp only
  split
  · next hbelow habove =>
    rw [hbelow, habove] at h
    simp at h
  · simp
  · simp
  · split
    · simp
    · simp
    · simp
    · split_ifs <;> simp

/-- Nothing is found on a grid exactly when none of its points rounds to the number: a point that
does has a neighbour of the number between itself and the number. -/
theorem onGrid_eq_none_iff (hpos : k ≠ 0) (hk : k < infinity) :
    onGrid tie k g = none ↔ ∀ c : Nat, ¬ IsNearest (c * 10 ^ g) k := by
  have hself : IsNearest (value k) k := isNearest_value hk.le
  have hstep := ten_zpow_pos g
  obtain ⟨hbelow, habove⟩ := gridBelow_eq_iff.mp (rfl : gridBelow k g = _)
  constructor
  · intro hnone c hc
    refine onGrid_ne_none ?_ hnone
    rw [roundsTo_iff hpos hk, roundsTo_iff hpos hk]
    rcases Nat.lt_or_ge (gridBelow k g) c with hlt | hge
    · right
      have hle : (gridBelow k g + 1 : ℚ) ≤ c := by exact_mod_cast hlt
      rw [Nat.cast_add_one]
      exact hself.between hc habove.le (mul_le_mul_of_nonneg_right hle hstep.le)
    · left
      have hle : (c : ℚ) ≤ gridBelow k g := Nat.cast_le.mpr hge
      exact hc.between hself (mul_le_mul_of_nonneg_right hle hstep.le) hbelow
  · intro hall
    by_contra hsome
    obtain ⟨c, hc⟩ := Option.ne_none_iff_exists'.mp hsome
    exact hall c ((roundsTo_iff hpos hk).mp (onGrid_cases hc).2)

/-- Ties are broken in two ways on a grid only above an even point, in the middle of two points that
both round to the number. -/
theorem onGrid_up_eq_even_or (hpos : k ≠ 0) (hk : k < infinity) :
    onGrid .up k g = onGrid .even k g ∨ gridBelow k g % 2 = 0 ∧
      value k = (gridBelow k g + 1 / 2) * 10 ^ g ∧ IsNearest (gridBelow k g * 10 ^ g) k ∧
      IsNearest ((gridBelow k g + 1) * 10 ^ g) k := by
  unfold onGrid
  simp only
  split
  · exact .inl rfl
  · exact .inl rfl
  · exact .inl rfl
  · next hbelow habove =>
    rw [roundsTo_iff hpos hk] at hbelow habove
    rw [Nat.cast_add_one] at habove
    rcases hcompare : compareMiddle k (gridBelow k g) g with _ | _ | _
    · exact .inl rfl
    · by_cases heven : gridBelow k g % 2 = 0
      · exact .inr ⟨heven, compareMiddle_eq_iff.mp hcompare, hbelow, habove⟩
      · simp only [heven, if_false, true_or]
    · exact .inl rfl

/-- In the middle of two points that both round to the number, the upper one or the even one is
taken. -/
theorem onGrid_of_middle (hpos : k ≠ 0) (hk : k < infinity)
    (hmiddle : value k = (c + 1 / 2) * 10 ^ g) (hbelow : IsNearest (c * 10 ^ g) k)
    (habove : IsNearest ((c + 1) * 10 ^ g) k) :
    onGrid .up k g = some (c + 1) ∧
      onGrid .even k g = some (if c % 2 = 0 then c else c + 1) := by
  have hstep := ten_zpow_pos g
  have hgrid : gridBelow k g = c := by
    rw [gridBelow_eq_iff, hmiddle]
    constructor
    · exact mul_le_mul_of_nonneg_right (by linarith) hstep.le
    · exact mul_lt_mul_of_pos_right (by linarith) hstep
  have hcompare := compareMiddle_eq_iff.mpr hmiddle
  rw [← Nat.cast_add_one] at habove
  rw [← roundsTo_iff hpos hk] at hbelow habove
  unfold onGrid
  simp only [hgrid, hbelow, habove, hcompare]
  constructor
  · trivial
  · split_ifs <;> rfl

end grid

/-! ## Seventeen digits are enough -/

/-- A step to the next number is not small against the number. -/
theorem units_succ_le_step (j : Nat) : units (j + 1) ≤ 2 * binade * (units (j + 1) - units j) := by
  rcases Nat.lt_or_ge j binade with hlt | hge
  · rw [units_of_lt hlt, units_of_le (by omega), Nat.add_sub_cancel_left]
    omega
  · obtain ⟨e, m, hlow, hhigh, rfl⟩ := exists_significand hge
    rw [Nat.add_assoc, units_mul_add hlow (by omega), units_mul_add (by omega) (by omega),
      ← Nat.sub_mul, Nat.add_sub_cancel_left, Nat.one_mul]
    exact Nat.mul_le_mul_right _ hhigh

/-- The digits of a number that a step to the next one leaves undecided count for less than the
step. -/
theorem value_lt_step (j : Nat) : value (j + 1) < 10 ^ 16 * (value (j + 1) - value j) := by
  have hunits : (units (j + 1) : ℚ) ≤ 2 * binade * (units (j + 1) - units j) := by
    have := units_succ_le_step j
    rw [← Nat.cast_le (α := ℚ), Nat.cast_mul, Nat.cast_sub (units_lt_succ j).le] at this
    exact_mod_cast this
  have hvalue : value (j + 1) ≤ 2 * binade * (value (j + 1) - value j) := by
    rw [value, value, ← sub_div, mul_div_assoc']
    exact div_le_div_of_nonneg_right hunits cast_unitsPerOne_pos.le
  have hstep : 0 < value (j + 1) - value j := sub_pos.mpr (value_strictMono (Nat.lt_succ_self j))
  have hbinade : (2 * binade : ℚ) < 10 ^ 16 := by
    have : 2 * binade < 10 ^ 16 := by decide
    exact_mod_cast this
  exact hvalue.trans_lt (mul_lt_mul_of_pos_right hbinade hstep)

/-- What lies strictly between two middles rounds to the number between them. -/
theorem isNearest_of_middle_lt {j : Nat} (hj : j + 1 < infinity) (hlow : middle j < q)
    (hhigh : q < middle (j + 1)) : IsNearest q (j + 1) := by
  refine InCell.isNearest ⟨hj.le, fun i hi => ?_, fun _ => ?_⟩
  · obtain rfl : i = j := Nat.succ.inj hi
    exact ⟨hlow.le, fun h => absurd h hlow.ne'⟩
  · exact ⟨hhigh.le, fun h => absurd h hhigh.ne⟩

/-- On the grid of the seventeenth digit the point nearest to a number rounds to it. -/
theorem exists_isNearest_seventeen (hpos : k ≠ 0) (hk : k < infinity) :
    ∃ c : Nat, IsNearest (c * 10 ^ (leadingExponent k - 16)) k := by
  obtain ⟨j, rfl⟩ : ∃ j, k = j + 1 := ⟨k - 1, by omega⟩
  obtain ⟨hleading, -⟩ := leadingExponent_spec hpos
  have hstep := ten_zpow_pos (leadingExponent (j + 1) - 16)
  have hgrid := ten_zpow_add (leadingExponent (j + 1) - 16) 16
  rw [show leadingExponent (j + 1) - 16 + ((16 : Nat) : ℤ) = leadingExponent (j + 1) by omega]
    at hgrid
  generalize (10 : ℚ) ^ (leadingExponent (j + 1) - 16) = step at hstep hgrid ⊢
  rw [hgrid] at hleading
  have hbelow : step < value (j + 1) - value j := by
    have := hleading.trans_lt (value_lt_step j)
    exact lt_of_mul_lt_mul_left this (by positivity)
  have habove : step < value (j + 2) - value (j + 1) := by
    have hmono : value (j + 1) < value (j + 2) := value_strictMono (Nat.lt_succ_self _)
    have := hleading.trans_lt (hmono.trans (value_lt_step (j + 1)))
    exact lt_of_mul_lt_mul_left this (by positivity)
  -- the nearest point is no more than half a step away
  obtain ⟨c, hc⟩ : ∃ c : Nat, ⌊value (j + 1) / step + 1 / 2⌋₊ = c := ⟨_, rfl⟩
  have hnonneg : 0 ≤ value (j + 1) / step + 1 / 2 :=
    add_nonneg (div_nonneg (value_nonneg _) hstep.le) (by norm_num)
  obtain ⟨hle, hlt⟩ := (Nat.floor_eq_iff hnonneg).mp hc
  have hdiv : value (j + 1) / step * step = value (j + 1) := div_mul_cancel₀ _ hstep.ne'
  refine ⟨c, isNearest_of_middle_lt hk ?_ ?_⟩
  · have := mul_lt_mul_of_pos_right hlt hstep
    rw [add_mul, add_mul, hdiv] at this
    rw [middle]
    linarith
  · have := mul_le_mul_of_nonneg_right hle hstep.le
    rw [add_mul, hdiv] at this
    rw [middle]
    linarith

/-! ## The search -/

section search

variable {tie : Tie} {n c : Nat}

/-- What the search finds first is what it returns, without the zeros at its end. -/
theorem shortest_of_first (hpos : k ≠ 0) (hn : n < 17)
    (hfound : onGrid tie k (leadingExponent k - n) = some c)
    (hfirst : ∀ j < n, onGrid tie k (leadingExponent k - j) = none) :
    shortest tie k = (Decimal.ofCoefficient c (leadingExponent k - n)).reduced := by
  have hrange : List.range 17 = List.range n ++ n :: (List.range (16 - n)).map (n + 1 + ·) := by
    rw [show 17 = n + 1 + (16 - n) by omega, List.range_add, List.range_succ, List.append_assoc,
      List.singleton_append]
  have hbefore : (List.range n).findSome? (withDigits tie k (leadingExponent k)) = none := by
    rw [List.findSome?_eq_none_iff]
    intro j hj
    rw [withDigits, hfirst j (List.mem_range.mp hj)]
    rfl
  have hsearch : (List.range 17).findSome? (withDigits tie k (leadingExponent k)) =
      some (Decimal.ofCoefficient c (leadingExponent k - n)) := by
    rw [hrange, List.findSome?_append, hbefore, Option.none_or, List.findSome?_cons, withDigits,
      hfound]
    rfl
  rw [shortest, if_neg hpos, hsearch]

/-- The point below a number has a digit for each place down to the grid. -/
theorem gridBelow_lt_pow (hpos : k ≠ 0) (n : Nat) :
    gridBelow k (leadingExponent k - n) < 10 ^ (n + 1) := by
  obtain ⟨hle, -⟩ := gridBelow_eq_iff.mp (rfl : gridBelow k (leadingExponent k - n) = _)
  have hlt := hle.trans_lt (leadingExponent_spec hpos).2
  rw [← ten_zpow_sub _ n] at hlt
  exact_mod_cast lt_of_mul_lt_mul_right hlt (ten_zpow_pos _).le

/-- What is found on the grid of the digit `n + 1` can be written with so many digits. -/
theorem exists_decimal_of_onGrid (hpos : k ≠ 0) (hk : k < infinity)
    (h : onGrid tie k (leadingExponent k - n) = some c) :
    ∃ d : Decimal, Run Char.isDigit d.digits ∧ d.digits.length ≤ n + 1 ∧ IsNearest d.value k := by
  obtain ⟨hneighbour, hround⟩ := onGrid_cases h
  have hnearest := (roundsTo_iff hpos hk).mp hround
  have hbelow := gridBelow_lt_pow hpos n
  rcases Nat.lt_or_ge c (10 ^ (n + 1)) with hlt | hge
  · refine ⟨.ofCoefficient c (leadingExponent k - n), Decimal.run_ofCoefficient _ _, ?_, ?_⟩
    · exact (Nat.length_toDigits_le_iff (by decide) (Nat.succ_pos n)).mpr hlt
    · rwa [Decimal.value_ofCoefficient]
  · -- the point above has one digit more, but it is a power of ten
    have hc : c = 10 ^ (n + 1) := by omega
    refine ⟨.ofCoefficient 1 (leadingExponent k + 1), Decimal.run_ofCoefficient _ _,
      Nat.le_add_left 1 n, ?_⟩
    rw [hc, Nat.cast_pow, Nat.cast_ofNat, ten_zpow_sub] at hnearest
    rwa [Decimal.value_ofCoefficient, Nat.cast_one, one_mul]

/-- Where the coarser grids have nothing, no decimal with fewer digits rounds to the number. -/
theorem not_isNearest_of_fewer (hpos : k ≠ 0) (hk : k < infinity)
    (hfirst : ∀ j < n, onGrid tie k (leadingExponent k - j) = none) {d : Decimal}
    (hdigits : Run Char.isDigit d.digits) (hlength : d.digits.length ≤ n) :
    ¬ IsNearest d.value k := by
  intro hnearest
  have hcoefficient : d.coefficient < 10 ^ n :=
    (ofDigitChars_lt hdigits).trans_le (Nat.pow_le_pow_right (by decide) hlength)
  rcases n with _ | n
  · rw [Nat.pow_zero, Nat.lt_one_iff] at hcoefficient
    rw [Decimal.value, hcoefficient, Nat.cast_zero, zero_mul] at hnearest
    exact hpos hnearest.eq_zero
  · have hnone := (onGrid_eq_none_iff hpos hk).mp (hfirst n (Nat.lt_succ_self n))
    have hgrid := ten_zpow_add (leadingExponent k - n) n
    rw [sub_add_cancel] at hgrid
    rcases le_or_gt (leadingExponent k - n) d.scale with hcoarse | hfine
    · -- the decimal lies on the last of these grids
      obtain ⟨m, hm⟩ := Int.le.dest hcoarse
      refine hnone (d.coefficient * 10 ^ m) ?_
      rwa [Decimal.value, ← hm, ten_zpow_add, ← mul_assoc, ← Nat.cast_ofNat (R := ℚ),
        ← Nat.cast_pow, ← Nat.cast_mul] at hnearest
    · -- the decimal lies below the first digit alone, which lies on all these grids
      refine hnone (10 ^ n) ?_
      have hself : IsNearest (value k) k := isNearest_value hk.le
      rw [Nat.cast_pow, Nat.cast_ofNat, ← hgrid]
      refine hnearest.between hself ?_ (leadingExponent_spec hpos).1
      have hpow : (10 : ℚ) ^ (d.scale + (n + 1 : Nat)) ≤ 10 ^ leadingExponent k :=
        zpow_le_zpow_right₀ (by norm_num) (by push_cast; omega)
      have hle : (d.coefficient : ℚ) ≤ 10 ^ (n + 1) := by exact_mod_cast hcoefficient.le
      calc d.value ≤ 10 ^ (n + 1) * 10 ^ d.scale :=
            mul_le_mul_of_nonneg_right hle (ten_zpow_pos _).le
        _ = 10 ^ (d.scale + (n + 1 : Nat)) := (ten_zpow_add _ _).symm
        _ ≤ 10 ^ leadingExponent k := hpow

end search

/-! ## Ties -/

/-- The number of `k` lies in the middle between two points of a grid, `c * 10^g` and the next one;
both round to it, and no decimal with fewer digits does. -/
structure IsTie (k c : Nat) (g : ℤ) : Prop where
  middle : value k = (c + 1 / 2) * 10 ^ g
  below : IsNearest (c * 10 ^ g) k
  above : IsNearest ((c + 1) * 10 ^ g) k
  fewest : ∀ d : Decimal, Run Char.isDigit d.digits → d.digits.length < (Text.ofNat c).length →
    ¬ IsNearest d.value k

section ties

variable {c : Nat} {g : ℤ}

/-- There is a first grid on which something is found, and it does not depend on how ties are
broken. -/
theorem exists_first (hpos : k ≠ 0) (hk : k < infinity) :
    ∃ n : Nat, n < 17 ∧ (∀ tie, onGrid tie k (leadingExponent k - n) ≠ none) ∧
      ∀ tie, ∀ j : Nat, j < n → onGrid tie k (leadingExponent k - j) = none := by
  let found (n : Nat) : Prop := ∃ c : Nat, IsNearest (c * 10 ^ (leadingExponent k - n)) k
  have hnone : ∀ tie (n : Nat), onGrid tie k (leadingExponent k - n) = none ↔ ¬ found n := by
    intro tie n
    rw [onGrid_eq_none_iff hpos hk, not_exists]
  have hseventeen : found 16 := exists_isNearest_seventeen hpos hk
  classical
  have hexists : ∃ n, found n := ⟨16, hseventeen⟩
  refine ⟨Nat.find hexists, Nat.lt_succ_of_le (Nat.find_min' hexists hseventeen), ?_, ?_⟩
  · intro tie
    rw [ne_eq, hnone, not_not]
    exact Nat.find_spec hexists
  · intro tie j hj
    rw [hnone]
    exact Nat.find_min hexists hj

theorem IsTie.ne_zero (h : IsTie k c g) : k ≠ 0 := by
  rintro rfl
  have hmiddle := h.middle
  rw [value, units_of_lt (by decide), Nat.cast_zero, zero_div] at hmiddle
  have hpos : 0 < (c + 1 / 2 : ℚ) * 10 ^ g := mul_pos (by positivity) (ten_zpow_pos g)
  exact absurd hmiddle hpos.ne

/-- The grid of a tie is that of the last digit of the point below. -/
theorem IsTie.leadingExponent_eq (h : IsTie k c g) :
    leadingExponent k - ((Text.ofNat c).length - 1 : Nat) = g := by
  have hpos := h.ne_zero
  have hc : c ≠ 0 := by
    rintro rfl
    have hbelow := h.below
    rw [Nat.cast_zero, zero_mul] at hbelow
    exact hpos hbelow.eq_zero
  have hlength : 0 < (Text.ofNat c).length := Nat.length_toDigits_pos
  have hstep := ten_zpow_pos g
  obtain ⟨hleading, hleading'⟩ := leadingExponent_spec hpos
  obtain ⟨hlow, hhigh⟩ := pow_length_le hc
  -- the number lies between the powers of ten around the point below
  have hlow' : (10 : ℚ) ^ (g + ((Text.ofNat c).length - 1 : Nat)) < 10 ^ (leadingExponent k + 1) := by
    refine lt_of_le_of_lt ?_ hleading'
    rw [ten_zpow_add, h.middle]
    refine mul_le_mul_of_nonneg_right ?_ hstep.le
    have : (10 : ℚ) ^ ((Text.ofNat c).length - 1) ≤ c := by exact_mod_cast hlow
    linarith
  have hhigh' : (10 : ℚ) ^ leadingExponent k < 10 ^ (g + (Text.ofNat c).length) := by
    refine lt_of_le_of_lt hleading ?_
    rw [ten_zpow_add, h.middle]
    refine mul_lt_mul_of_pos_right ?_ hstep
    have : (c + 1 : ℚ) ≤ 10 ^ (Text.ofNat c).length := by exact_mod_cast hhigh
    linarith
  have hten : (1 : ℚ) < 10 := by norm_num
  rw [zpow_lt_zpow_iff_right₀ hten] at hlow' hhigh'
  omega

/-- **What a tie is written as**: the upper point, or the even one. -/
theorem shortest_of_isTie (hk : k < infinity) (h : IsTie k c g) :
    (shortest .up k).value = (c + 1) * 10 ^ g ∧
      (shortest .even k).value = (if c % 2 = 0 then c else c + 1 : Nat) * 10 ^ g := by
  have hpos := h.ne_zero
  obtain ⟨n, hn⟩ : ∃ n, (Text.ofNat c).length - 1 = n := ⟨_, rfl⟩
  have hlength : 0 < (Text.ofNat c).length := Nat.length_toDigits_pos
  have hgrid : leadingExponent k - (n : ℤ) = g := hn ▸ h.leadingExponent_eq
  -- what is found on a coarser grid has fewer digits
  have hcoarser : ∀ tie, ∀ j : Nat, j < n → onGrid tie k (leadingExponent k - j) = none := by
    intro tie j hj
    by_contra hsome
    obtain ⟨c', hc'⟩ := Option.ne_none_iff_exists'.mp hsome
    obtain ⟨d, hdigits, hfew, hnearest⟩ := exists_decimal_of_onGrid hpos hk hc'
    exact h.fewest d hdigits (by omega) hnearest
  have hseventeen : n < 17 := by
    obtain ⟨m, hm, hfound, -⟩ := exists_first hpos hk
    by_contra hge
    exact hfound .up (hcoarser .up m (by omega))
  obtain ⟨hup, heven⟩ := onGrid_of_middle hpos hk h.middle h.below h.above
  rw [← hgrid] at hup heven
  rw [shortest_of_first hpos hseventeen hup (hcoarser .up),
    shortest_of_first hpos hseventeen heven (hcoarser .even), Decimal.value_reduced,
    Decimal.value_reduced, Decimal.value_ofCoefficient, Decimal.value_ofCoefficient, hgrid,
    Nat.cast_add_one]
  exact ⟨rfl, rfl⟩

/-- Without a tie above an even point the decimal is the same, however ties are broken. -/
theorem shortest_eq_or_isTie (hk : k < infinity) :
    shortest .up k = shortest .even k ∨ ∃ c g, IsTie k c g ∧ c % 2 = 0 := by
  by_cases hpos : k = 0
  · left
    rw [shortest, if_pos hpos, shortest, if_pos hpos]
  obtain ⟨n, hn, hfound, hfirst⟩ := exists_first hpos hk
  rcases onGrid_up_eq_even_or (g := leadingExponent k - n) hpos hk with hsame | ⟨heven, hmiddle,
    hbelow, habove⟩
  · left
    obtain ⟨c, hc⟩ := Option.ne_none_iff_exists'.mp (hfound .up)
    rw [shortest_of_first hpos hn hc (hfirst .up),
      shortest_of_first hpos hn (hsame ▸ hc) (hfirst .even)]
  · right
    refine ⟨_, _, ⟨hmiddle, hbelow, habove, ?_⟩, heven⟩
    intro d hdigits hlength
    refine not_isNearest_of_fewer hpos hk (hfirst .up) hdigits ?_
    have hle : (Text.ofNat (gridBelow k (leadingExponent k - n))).length ≤ n + 1 :=
      (Nat.length_toDigits_le_iff (by decide) (Nat.succ_pos n)).mpr (gridBelow_lt_pow hpos n)
    omega

/-- **When ties matter**: the two ways of breaking them give different numbers exactly for a tie above
an even point. -/
theorem shortest_value_ne_iff (hk : k < infinity) :
    (shortest .up k).value ≠ (shortest .even k).value ↔ ∃ c g, IsTie k c g ∧ c % 2 = 0 := by
  constructor
  · intro hne
    rcases shortest_eq_or_isTie hk with heq | htie
    · exact absurd (congrArg Decimal.value heq) hne
    · exact htie
  · rintro ⟨c, g, htie, heven⟩
    obtain ⟨hup, hdown⟩ := shortest_of_isTie hk htie
    rw [hup, hdown, if_pos heven, ne_eq, mul_left_inj' (ten_zpow_pos g).ne']
    exact (lt_add_one (c : ℚ)).ne'

end ties

end Binary64

end TradeLine
