import TradeLine.Text.Basic

/-!
# Decimal numbers

A `Decimal` is a row of digits and the power of ten that its last digit counts, so it stands for
the rational `numerator / denominator`. Nothing is rounded here.

**Main statements**: digits that spell a number are read back as that number
(`coefficient_ofCoefficient`), and `reduced` leaves no zero at the end (`reduced_digits_last`).
-/

namespace TradeLine

/-- The number that `digits` spell, times ten to the `scale`. -/
structure Decimal where
  digits : Text
  scale : Int
deriving DecidableEq, Repr

namespace Decimal

/-- The digits read as one natural number. -/
def coefficient (d : Decimal) : Nat :=
  Nat.ofDigitChars 10 d.digits 0

/-- The top of the fraction that the decimal stands for. -/
def numerator (d : Decimal) : Nat :=
  d.coefficient * Nat.pow 10 d.scale.toNat

/-- The bottom of the fraction that the decimal stands for. -/
def denominator (d : Decimal) : Nat :=
  Nat.pow 10 (-d.scale).toNat

theorem denominator_pos (d : Decimal) : 0 < d.denominator :=
  Nat.pow_pos (by decide)

/-- The decimal with the given digits as a number. -/
def ofCoefficient (n : Nat) (scale : Int) : Decimal :=
  ⟨Nat.toDigits 10 n, scale⟩

@[simp] theorem coefficient_ofCoefficient (n : Nat) (scale : Int) :
    (ofCoefficient n scale).coefficient = n :=
  Nat.ofDigitChars_ten_toDigits

/-! ## Without zeros at the end -/

/-- A row of digits without the zeros at its end. -/
def stripZeros (digits : Text) : Text :=
  (digits.reverse.dropWhile (· = '0')).reverse

/-- The same number without zeros at the end of its digits. -/
def reduced (d : Decimal) : Decimal :=
  ⟨stripZeros d.digits, d.scale + (d.digits.length - (stripZeros d.digits).length : Nat)⟩

theorem reduced_digits_last (d : Decimal) : d.reduced.digits.getLast? ≠ some '0' := by
  simp only [reduced, stripZeros, List.getLast?_reverse]
  intro h
  have := List.head?_dropWhile_not (fun c : Char => decide (c = '0')) d.digits.reverse
  rw [h] at this
  simp at this

end Decimal

end TradeLine
