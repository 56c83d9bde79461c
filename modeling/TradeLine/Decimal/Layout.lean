import TradeLine.Decimal.Shortest

/-!
# Writing a number

A decimal is written **plainly**, digit by digit around a point, or as a **power**, one digit, a
point, the others, and the power of ten. A `NumberStyle` says which exponents are written plainly,
whether a whole number keeps a zero after the point, and how the shortest decimal breaks ties.
-/

namespace TradeLine

namespace Decimal

/-- The power of ten that the first digit counts. -/
def leading (d : Decimal) : Int :=
  d.scale + d.digits.length - 1

/-- The decimal written out, without exponent. -/
def plain (d : Decimal) : Text :=
  let places := (-d.scale).toNat
  if places = 0 then d.digits ++ List.replicate d.scale.toNat '0'
  else if places < d.digits.length then
    d.digits.take (d.digits.length - places) ++ '.' :: d.digits.drop (d.digits.length - places)
  else '0' :: '.' :: List.replicate (places - d.digits.length) '0' ++ d.digits

/-- The decimal as one digit, the others after a point, and a power of ten with its sign. -/
def power (d : Decimal) : Text :=
  let mantissa :=
    match d.digits with
    | first :: second :: rest => first :: '.' :: second :: rest
    | digits => digits
  let exponent :=
    if d.leading < 0 then '-' :: Text.ofNat d.leading.natAbs
    else '+' :: Text.ofNat d.leading.natAbs
  mantissa ++ 'e' :: exponent

end Decimal

/-- How numbers are written. -/
structure NumberStyle where
  /-- Which of two equally near decimals is written. -/
  tie : Tie
  /-- Whether a number with this leading exponent is written without exponent. -/
  isPlain : Int → Bool
  /-- Whether a whole number keeps `.0`. -/
  keepsPoint : Bool

namespace NumberStyle

/-- Numbers in lines, messages and tables: never an exponent, and nothing after a whole number. -/
def display : NumberStyle where
  tie := .up
  isPlain _ := true
  keepsPoint := false

/-- Numbers in JSON: plain from a hundred-thousandth to sixteen digits, and always with a mark
that tells them from integers. -/
def json : NumberStyle where
  tie := .even
  isPlain exponent := -5 ≤ exponent && exponent ≤ 15
  keepsPoint := true

/-- A decimal in this style. -/
def decimal (style : NumberStyle) (d : Decimal) : Text :=
  if style.isPlain d.leading then
    d.plain ++ (if style.keepsPoint ∧ 0 ≤ d.scale then ['.', '0'] else [])
  else d.power

/-- A finite magnitude in this style, with its sign. -/
def finite (style : NumberStyle) (negative : Bool) (magnitude : Nat) : Text :=
  (if negative then ['-'] else []) ++ style.decimal (Binary64.shortest style.tie magnitude)

end NumberStyle

namespace Binary64

/-- A number in a line, a message or a table. -/
def display (x : Binary64) : Text :=
  if x.isNaN then "NaN".toList
  else if x.isFinite then NumberStyle.display.finite x.negative x.magnitude
  else if x.negative then "-inf".toList
  else "inf".toList

/-- A number in JSON, where only finite ones can be written. -/
def json (x : Binary64) : Text :=
  if x.isFinite then NumberStyle.json.finite x.negative x.magnitude else "null".toList

end Binary64

end TradeLine
