import TradeLine.Report.Basic
import TradeLine.Text.Quoted

/-!
# Log events

Each event has a level and a **target**, the part of the program that it comes from. A batch logs
an event when it is done, and so does looking at an address.

Reading a line logs as it goes: each check that can fail on a line that was written by hand has an
event of its own, and a line that passes them all has one at the end. The checks of a unit, of an
amount and of an action are silent, since nothing that a line can say fails there.
-/

namespace TradeLine

/-- How important an event is. -/
inductive Level
  | error
  | warn
  | info
  | debug
  | trace
deriving DecidableEq, Repr

namespace Level

/-- The levels by how much they let through, from one on; zero lets nothing through. -/
def rank : Level → Nat
  | .error => 1
  | .warn => 2
  | .info => 3
  | .debug => 4
  | .trace => 5

/-- The level's name in the log. -/
def name : Level → Text
  | .error => "ERROR".toList
  | .warn => "WARN".toList
  | .info => "INFO".toList
  | .debug => "DEBUG".toList
  | .trace => "TRACE".toList

end Level

/-- What the log can tell. -/
inductive Event
  /-- A line became a command. -/
  | read (action : Action) (chain : Chain)
  /-- A line has no form. -/
  | refusedForm
  /-- The address of a line is of no family. -/
  | refusedAddress (address : Text)
  /-- The number of a line cannot be used. -/
  | refusedValue (cause : Invalid)
  /-- A batch is done. -/
  | batch (lines parsed failed : Nat)
  /-- An address was looked at. -/
  | classified (address : Text) (valid : Bool) (chain : Chain)
deriving DecidableEq, Repr

namespace Event

/-- How important the event is. -/
def level : Event → Level
  | .batch .. => .info
  | _ => .debug

/-- Where the event comes from. -/
def target : Event → Text
  | .read .. | .refusedForm | .refusedAddress _ | .refusedValue _ =>
    "tradedown_core::parser".toList
  | .batch .. => "tradedown::commands::batch".toList
  | .classified .. => "tradedown::commands::address".toList

/-- The rule that a line was rejected for. -/
def kind? : Event → Option RejectionKind
  | .refusedForm => some .format
  | .refusedAddress _ => some .address
  | .refusedValue _ => some .value
  | _ => none

/-- The names of the fields of the event; the message counts as one of them. -/
def fieldNames (e : Event) : List Text :=
  let names :=
    match e with
    | .read .. => ["action", "chain"]
    | .refusedForm => ["code"]
    | .refusedAddress _ => ["code", "address"]
    | .refusedValue _ => ["code", "error"]
    | .batch .. => ["lines", "parsed", "failed"]
    | .classified .. => ["address", "valid", "chain"]
  ("message" :: names).map String.toList

/-- The code of a rejection, as a field of an event. -/
def codeField (kind : RejectionKind) : Text :=
  "code=".toList ++ Text.quoted kind.code

/-- What the event says: a message and its fields. -/
def text : Event → Text
  | .read action chain =>
    "parsed tradedown line action=".toList ++ action.name ++ " chain=".toList ++ chain.name
  | .refusedForm => "line rejected by grammar ".toList ++ codeField .format
  | .refusedAddress address =>
    "strict address check failed ".toList ++ codeField .address ++ " address=".toList
      ++ Text.quoted address
  | .refusedValue cause =>
    "value conversion failed ".toList ++ codeField .value ++ " error=".toList ++ cause.message
  | .batch lines parsed failed =>
    "batch parsed lines=".toList ++ Text.ofNat lines ++ " parsed=".toList ++ Text.ofNat parsed
      ++ " failed=".toList ++ Text.ofNat failed
  | .classified address valid chain =>
    "classified address address=".toList ++ Text.quoted address ++ " valid=".toList
      ++ Json.boolean valid ++ " chain=".toList ++ chain.name

/-- The event as a line of the log. -/
def line (e : Event) : Text :=
  e.level.name ++ ' ' :: e.text

end Event

/-! ## Reading a line -/

/-- What is logged while the parts of a trade are checked: a number that cannot be used. -/
def TradeForm.events (parts : TradeForm) : List Event :=
  match Amount.readValue parts.value with
  | .error cause => [.refusedValue cause]
  | .ok _ => []

/-- What is logged while the parts of a form are checked, once its address is known to be good. -/
def Form.events : Form → List Event
  | .query _ => []
  | .trade parts => parts.events

/-- What is logged at the end of reading a line: the command, if there is one. -/
def Event.ofOutcome : Except Rejection Command → List Event
  | .ok command => [.read command.action command.chain]
  | .error _ => []

/-- The events of reading a line, check by check. -/
def eventsOfLine (line : Text) : List Event :=
  match Form.ofLine? line with
  | none => [.refusedForm]
  | some form =>
    match Address.ofText form.address with
    | .error _ => [.refusedAddress form.address]
    | .ok _ => form.events ++ Event.ofOutcome (parse line)

end TradeLine
