import TradeLine.Decimal.Binary64

/-!
# Reading a number

A number is written as an optional sign and then either digits with at most one point among them
and an optional exponent, or one of the words `inf`, `infinity` and `nan` in any letter case. At
least one digit has to be there, before or after the point. `Binary64.ofText?` reads such a text
and rounds it to the nearest number.
-/

namespace TradeLine

/-- What a text without its sign says. -/
inductive Numeral
  | decimal (d : Decimal)
  | infinite
  | notANumber
deriving DecidableEq, Repr

namespace Decimal

/-- Reads digits with at most one point from the front of a text; the second part is the rest. -/
def scan (s : Text) : Decimal × Text :=
  match s.dropWhile Char.isDigit with
  | '.' :: rest =>
    (⟨s.takeWhile Char.isDigit ++ rest.takeWhile Char.isDigit,
      -((rest.takeWhile Char.isDigit).length : Int)⟩, rest.dropWhile Char.isDigit)
  | rest => (⟨s.takeWhile Char.isDigit, 0⟩, rest)

end Decimal

namespace Numeral

/-- A text of digits as a natural number; the empty text is none. -/
def digits? (s : Text) : Option Nat :=
  if s ≠ [] ∧ s.all Char.isDigit then some (Nat.ofDigitChars 10 s 0) else none

/-- Digits with an optional sign in front. -/
def integer? : Text → Option Int
  | '+' :: s => (digits? s).map Int.ofNat
  | '-' :: s => (digits? s).map fun n => -(n : Int)
  | s => (digits? s).map Int.ofNat

/-- The power of ten after the digits: nothing, or `e` and an integer. -/
def exponent? : Text → Option Int
  | [] => some 0
  | c :: s => if c = 'e' ∨ c = 'E' then integer? s else none

/-- Reads a number without its sign. -/
def ofText? (s : Text) : Option Numeral :=
  if Text.lower s = "inf".toList ∨ Text.lower s = "infinity".toList then some .infinite
  else if Text.lower s = "nan".toList then some .notANumber
  else if (Decimal.scan s).1.digits = [] then none
  else
    (exponent? (Decimal.scan s).2).map fun e =>
      .decimal ⟨(Decimal.scan s).1.digits, (Decimal.scan s).1.scale + e⟩

/-- The nearest number with the given sign. -/
def toBinary64 (negative : Bool) : Numeral → Binary64
  | .decimal d => .signed negative d.nearest d.nearest_le_infinity
  | .infinite => .signed negative Binary64.infinity (Nat.le_refl _)
  | .notANumber => .notANumber negative

end Numeral

/-- Reads a number, rounding it to the nearest one of the format. -/
def Binary64.ofText? : Text → Option Binary64
  | '+' :: s => (Numeral.ofText? s).map (Numeral.toBinary64 false)
  | '-' :: s => (Numeral.ofText? s).map (Numeral.toBinary64 true)
  | s => (Numeral.ofText? s).map (Numeral.toBinary64 false)

end TradeLine
