import TradeLine.Decimal.Basic

/-!
# Binary floating point, 64 bits

A `Binary64` is a sign and a **magnitude**, the lower 63 bits of the usual interchange format.
Magnitudes are ordered as the numbers they stand for: consecutive magnitudes below `infinity` are
consecutive numbers, and `units` gives the number itself, counted in the smallest positive one
(`2^-1074`). Rounding and printing are therefore arithmetic of natural numbers.

`nearest` rounds a fraction to the nearest magnitude, and a fraction in the middle of two to the
even one.
-/

namespace TradeLine

/-- A number of the format binary64. The bound is two to the sixty-third. -/
structure Binary64 where
  negative : Bool
  magnitude : Nat
  magnitude_lt : magnitude < 0x8000000000000000
deriving DecidableEq, Repr

namespace Binary64

/-- How many magnitudes lie between one power of two and the next: two to the fifty-second. -/
def binade : Nat := 0x10000000000000

/-- The magnitude of an infinite number; those above it are not numbers. -/
def infinity : Nat := 0x7FF0000000000000

theorem infinity_lt : infinity < 0x8000000000000000 := by decide

/-- There are 2047 binades below infinity, the first of them with zero. -/
theorem infinity_eq : infinity = 2047 * binade := by decide

/-! ## Bits -/

/-- The number with the given 64 bits; higher bits are ignored. -/
def ofBits (bits : Nat) : Binary64 :=
  ⟨bits.testBit 63, bits % 0x8000000000000000, Nat.mod_lt _ (by decide)⟩

/-- The 64 bits of the number. -/
def toBits (x : Binary64) : Nat :=
  (if x.negative then 0x8000000000000000 else 0) + x.magnitude

/-! ## Kinds of number -/

/-- Neither infinite nor NaN. -/
def isFinite (x : Binary64) : Bool :=
  x.magnitude < infinity

/-- Not a number. -/
def isNaN (x : Binary64) : Bool :=
  infinity < x.magnitude

/-- Below zero. Negative zero is not, and neither is a NaN. -/
def isBelowZero (x : Binary64) : Bool :=
  x.negative && 0 < x.magnitude && x.magnitude ≤ infinity

/-! ## The number of a magnitude -/

/-- How many units make one: two to the 1074th. -/
def unitsPerOne : Nat := Nat.pow 2 1074

/-- The number that a finite magnitude stands for, counted in units of `2^-1074`. In the first
binade the units are counted one by one, and in each later one twice as fast as before. -/
def units (k : Nat) : Nat :=
  if k < binade then k else (binade + k % binade) * Nat.pow 2 (k / binade - 1)

/-! ## Rounding a fraction -/

/-- The largest magnitude whose number is at most `n` units, before the format's upper end. -/
def floorMagnitude (n : Nat) : Nat :=
  if n < 2 * binade then n
  else (n.log2 - 52) * binade + n / Nat.pow 2 (n.log2 - 52)

/-- The magnitude nearest to `num / den`. In the middle of two the even one is taken, and what
lies beyond the last finite number by half a step or more is infinite. -/
def nearest (num den : Nat) : Nat :=
  let scaled := num * unitsPerOne
  let below := floorMagnitude (scaled / den)
  let middle := (units below + units (below + 1)) * den
  let chosen :=
    if 2 * scaled < middle then below
    else if middle < 2 * scaled then below + 1
    else if below % 2 = 0 then below
    else below + 1
  min chosen infinity

theorem nearest_le_infinity (num den : Nat) : nearest num den ≤ infinity :=
  Nat.min_le_right _ _

/-- A magnitude up to `infinity`, with a sign. -/
def signed (negative : Bool) (magnitude : Nat) (h : magnitude ≤ infinity) : Binary64 :=
  ⟨negative, magnitude, Nat.lt_of_le_of_lt h infinity_lt⟩

/-- The NaN that stands for every text that says so. -/
def notANumber (negative : Bool) : Binary64 :=
  ⟨negative, 0x7FF8000000000000, by decide⟩

/-- The number nearest to an integer. -/
def ofInt (n : Int) : Binary64 :=
  signed (n < 0) (nearest n.natAbs 1) (nearest_le_infinity _ _)

end Binary64

/-- The magnitude nearest to a decimal. Decimals far outside the format's range are settled by
their scale, so that no huge power is ever built. -/
def Decimal.nearest (d : Decimal) : Nat :=
  if d.coefficient = 0 then 0
  else if 400 < d.scale then Binary64.infinity
  else if d.scale + d.digits.length < -400 then 0
  else Binary64.nearest d.numerator d.denominator

theorem Decimal.nearest_le_infinity (d : Decimal) : d.nearest ≤ Binary64.infinity := by
  unfold Decimal.nearest
  split
  · exact Nat.zero_le _
  · split
    · exact Nat.le_refl _
    · split
      · exact Nat.zero_le _
      · exact Binary64.nearest_le_infinity _ _

end TradeLine
