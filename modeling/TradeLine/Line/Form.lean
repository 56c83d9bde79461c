import TradeLine.Action

/-!
# The form of a line

A line is an address alone, or an address, `+` or `-`, a number, perhaps `%`, and perhaps a unit,
with blanks allowed around the sign and before the unit. `Form.ofLine?` finds the parts. It is
loose about addresses, which here are any thirty-two to forty-four ASCII letters and digits, and
it reads no number: both are checked later, so that the user hears which part is wrong.

Each part ends at the first character that cannot belong to it, so there is only one way to split
a line.
-/

namespace TradeLine

/-- The parts of a line that trades, as written. -/
structure TradeForm where
  address : Text
  side : Side
  value : Text
  percent : Bool
  unit : Text
deriving DecidableEq, Repr

/-- The form of a line. -/
inductive Form
  | query (address : Text)
  | trade (parts : TradeForm)
deriving DecidableEq, Repr

namespace Form

/-- The address part of the line. -/
def address : Form → Text
  | .query address => address
  | .trade parts => parts.address

/-! ## The parts, from the end of the line to its start -/

/-- What may follow the number: perhaps `%`, and then blanks and letters to the end. -/
def unitPart? (s : Text) : Option (Bool × Text) :=
  let percent := s.head? == some '%'
  let unit := Text.trimStart (if percent then s.drop 1 else s)
  if unit.all Char.isAlpha then some (percent, unit) else none

/-- A number at the front: digits, perhaps with a point and more digits. The second part is the
rest. A point without digits behind it is no part of a line. -/
def valuePart? (s : Text) : Option (Text × Text) :=
  let whole := s.takeWhile Char.isDigit
  if whole = [] then none
  else
    match s.dropWhile Char.isDigit with
    | '.' :: rest =>
      let places := rest.takeWhile Char.isDigit
      if places = [] then none else some (whole ++ '.' :: places, rest.dropWhile Char.isDigit)
    | rest => some (whole, rest)

/-- What follows the address of a trade: a sign between blanks, a number, and the unit. -/
def tradePart? (address : Text) (s : Text) : Option TradeForm :=
  match Text.trimStart s with
  | [] => none
  | sign :: rest =>
    match Side.ofOperator? sign, valuePart? (Text.trimStart rest) with
    | some side, some (value, rest) =>
      (unitPart? rest).map fun unit => ⟨address, side, value, unit.1, unit.2⟩
    | _, _ => none

/-- The form of a line without blanks at its ends. -/
def ofTrimmed? (s : Text) : Option Form :=
  let address := s.takeWhile Char.isAlphanum
  if 32 ≤ address.length ∧ address.length ≤ 44 then
    match s.dropWhile Char.isAlphanum with
    | [] => some (.query address)
    | rest => (tradePart? address rest).map .trade
  else none

/-- The form of a line, if it has one. -/
def ofLine? (line : Text) : Option Form :=
  ofTrimmed? (Text.trim line)

end Form

end TradeLine
