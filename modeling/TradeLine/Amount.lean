import TradeLine.Decimal.Reader
import TradeLine.Decimal.Layout
import TradeLine.UnitName

/-!
# Amounts

An amount is a number that is finite and not below zero, a flag for a percentage, and a unit.
Negative zero is not below zero, so it is an amount too, though no line can write it.
-/

namespace TradeLine

/-- How much to trade. -/
structure Amount where
  value : Binary64
  percent : Bool
  unit : UnitName
  isFinite_value : value.isFinite = true
  isBelowZero_value : value.isBelowZero = false
deriving DecidableEq, Repr

namespace Amount

/-- An amount of a given number, if the number may be one. -/
def ofValue (value : Binary64) (percent : Bool) (unit : UnitName) : Except Invalid Amount :=
  if hf : value.isFinite = true then
    if hz : value.isBelowZero = false then .ok ⟨value, percent, unit, hf, hz⟩
    else .error (.negative value.display)
  else .error (.notFinite value.display)

/-- Reads the number of an amount. A text that is no number counts as one that is not finite. -/
def readValue (s : Text) : Except Invalid Binary64 :=
  match Binary64.ofText? s with
  | none => .error (.notFinite s)
  | some value =>
    if !value.isFinite then .error (.notFinite s)
    else if value.isBelowZero then .error (.negative s)
    else .ok value

/-- The amount as a line writes it. -/
def text (a : Amount) : Text :=
  a.value.display ++ (if a.percent then ['%'] else []) ++ a.unit.text

theorem ofValue_value (a : Amount) : ofValue a.value a.percent a.unit = .ok a := by
  simp [ofValue, a.isFinite_value, a.isBelowZero_value]

end Amount

end TradeLine
