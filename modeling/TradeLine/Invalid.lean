import TradeLine.Text.Basic

/-!
# Why a value is refused

Addresses, unit names and amounts are checked when they are made. `Invalid` says which check
failed and keeps the text at fault; `Invalid.message` is the wording.
-/

namespace TradeLine

/-- A value that failed its check, with the text at fault. -/
inductive Invalid
  | address (text : Text)
  | notFinite (text : Text)
  | negative (text : Text)
  | unit (text : Text)
deriving DecidableEq, Repr

/-- What to tell the user. -/
def Invalid.message : Invalid → Text
  | .address text =>
    "address must be 0x + 40 hex characters or 32-44 base58 characters: '".toList ++ text ++ ['\'']
  | .notFinite text => "value '".toList ++ text ++ "' must be finite".toList
  | .negative text => "value '".toList ++ text ++ "' must be non-negative".toList
  | .unit text => "unit must contain ASCII letters only: '".toList ++ text ++ ['\'']

end TradeLine
