import TradeLine.Text.Basic

/-!
# Rejected lines

A line is rejected for the first rule that it breaks. A `Rejection` names the rule and keeps the
text at fault and nothing else; its `kind` has a fixed code, and `message` is the wording.
-/

namespace TradeLine

/-- The rule that a line breaks. -/
inductive RejectionKind
  | format
  | address
  | value
deriving DecidableEq, Repr

namespace RejectionKind

/-- The kinds, in the order in which they are listed to a user. -/
def all : List RejectionKind :=
  [.format, .address, .value]

/-- The code that reports and logs give for the kind. -/
def code : RejectionKind → Text
  | .format => "INVALID_FORMAT".toList
  | .address => "INVALID_ADDRESS".toList
  | .value => "INVALID_VALUE".toList

end RejectionKind

/-- Why a line is no command: its form, its address, or its number. -/
inductive Rejection
  | format (input : Text)
  | address (text : Text)
  | value (text : Text)
deriving DecidableEq, Repr

namespace Rejection

/-- The rule that was broken. -/
def kind : Rejection → RejectionKind
  | .format _ => .format
  | .address _ => .address
  | .value _ => .value

/-- The code of the rule that was broken. -/
def code (r : Rejection) : Text :=
  r.kind.code

/-- What to tell the user. -/
def message : Rejection → Text
  | .format input => "input does not match tradedown syntax: '".toList ++ input ++ ['\'']
  | .address text => "invalid address: ".toList ++ text
  | .value text => "value '".toList ++ text ++ "' is not a valid number".toList

end Rejection

end TradeLine
