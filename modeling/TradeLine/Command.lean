import TradeLine.Address
import TradeLine.Amount

/-!
# Commands

A command is what a line means: a query of an address, or a trade of an amount at one. So an
amount is there exactly when there is something to trade. `Command.line` writes the command as a
line again.
-/

namespace TradeLine

/-- The one way of writing commands that there is so far, named in every command's record. -/
inductive Mode
  | line
deriving DecidableEq, Repr

namespace Mode

/-- The modes, in the order in which they are listed to a user. -/
def all : List Mode :=
  [.line]

/-- The mode's name in reports. -/
def name : Mode → Text
  | .line => "tradedown".toList

end Mode

/-- What a line means. -/
inductive Command
  | query (target : Address)
  | trade (side : Side) (target : Address) (amount : Amount)
deriving DecidableEq, Repr

namespace Command

/-- A trade, if the action is one. -/
def ofAction? (action : Action) (target : Address) (amount : Amount) : Option Command :=
  match action with
  | .trade side => some (.trade side target amount)
  | .query => none

/-- A side always makes a trade. -/
@[simp] theorem ofAction?_trade (side : Side) (target : Address) (amount : Amount) :
    ofAction? (.trade side) target amount = some (.trade side target amount) := rfl

/-- The command of parts that are still to be checked: the address first, then the unit, then the
number. A query takes no amount, so its parts give no command. -/
def ofParts (action : Action) (address : Text) (value : Binary64) (percent : Bool) (unit : Text) :
    Except Invalid (Option Command) := do
  let target ← Address.ofText address
  let unit ← UnitName.normalize unit action
  let amount ← Amount.ofValue value percent unit
  return ofAction? action target amount

/-- How the command was written. -/
def mode (_ : Command) : Mode :=
  .line

/-- What the command asks for. -/
def action : Command → Action
  | .query _ => .query
  | .trade side _ _ => .trade side

/-- The address that the command is about. -/
def target : Command → Address
  | .query target => target
  | .trade _ target _ => target

/-- The chain of that address. -/
def chain (c : Command) : Chain :=
  c.target.chain

/-- How much to trade. -/
def amount? : Command → Option Amount
  | .query _ => none
  | .trade _ _ amount => some amount

/-- The command written as a line. -/
def line : Command → Text
  | .query target => target.text
  | .trade side target amount => target.text ++ side.operator :: amount.text

theorem isSome_amount? (c : Command) : c.amount?.isSome = c.action.isTrade := by
  cases c <;> rfl

end Command

end TradeLine
