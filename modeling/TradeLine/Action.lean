import TradeLine.Text.Basic

/-!
# Actions

A line either asks about an address or trades on one **side**, buying or selling. Only a trade has
an operator and a unit to fall back on.
-/

namespace TradeLine

/-- The two sides of a trade. -/
inductive Side
  | buy
  | sell
deriving DecidableEq, Repr

namespace Side

/-- The sign that a line writes for the side. -/
def operator : Side → Char
  | .buy => '+'
  | .sell => '-'

/-- The side that a sign stands for. -/
def ofOperator? (c : Char) : Option Side :=
  if c = '+' then some .buy else if c = '-' then some .sell else none

/-- The unit of an amount that names none. -/
def defaultUnit : Side → Text
  | .buy => "bnb".toList
  | .sell => "token".toList

theorem ofOperator?_eq_some_iff {c : Char} {side : Side} :
    ofOperator? c = some side ↔ c = side.operator := by
  cases side <;> grind [ofOperator?, operator]

end Side

/-- What a command asks for. -/
inductive Action
  | trade (side : Side)
  | query
deriving DecidableEq, Repr

namespace Action

/-- The actions, in the order in which they are listed to a user. -/
def all : List Action :=
  [.trade .buy, .trade .sell, .query]

/-- The action's name in reports. -/
def name : Action → Text
  | .trade .buy => "buy".toList
  | .trade .sell => "sell".toList
  | .query => "query".toList

/-- The action that a sign in a line stands for. -/
def ofOperator? (c : Char) : Option Action :=
  (Side.ofOperator? c).map .trade

/-- The sign of a trade. -/
def operator? : Action → Option Char
  | .trade side => some side.operator
  | .query => none

/-- The unit that a trade falls back on. -/
def defaultUnit? : Action → Option Text
  | .trade side => some side.defaultUnit
  | .query => none

/-- Whether the action carries an amount. -/
def isTrade : Action → Bool
  | .trade _ => true
  | .query => false

end Action

end TradeLine
