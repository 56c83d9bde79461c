import TradeLine.Command
import TradeLine.Json.Writer
import TradeLine.Rejection

/-!
# Values as JSON

Names and texts become strings; amounts, commands and rejections become records whose fields have
a fixed order. The fields of a command's amount stand in the command's own record, and a query has
none of them.
-/

namespace TradeLine

/-- A field of a record. -/
def field (key : String) (value : Json) : Text × Json :=
  (key.toList, value)

/-- An action by its name. -/
def Action.toJson (a : Action) : Json :=
  .str a.name

/-- A chain by its name. -/
def Chain.toJson (c : Chain) : Json :=
  .str c.name

/-- A family by its name. -/
def Family.toJson (f : Family) : Json :=
  .str f.name

/-- A mode by its name. -/
def Mode.toJson (m : Mode) : Json :=
  .str m.name

/-- A kind of rejection by its code. -/
def RejectionKind.toJson (k : RejectionKind) : Json :=
  .str k.code

/-- An address by its text. -/
def Address.toJson (a : Address) : Json :=
  .str a.text

/-- A unit by its name. -/
def UnitName.toJson (u : UnitName) : Json :=
  .str u.text

/-- The fields of an amount. -/
def Amount.fields (a : Amount) : List (Text × Json) :=
  [field "value" (.float a.value), field "isPercent" (.bool a.percent),
   field "unit" a.unit.toJson]

/-- An amount as a record. -/
def Amount.toJson (a : Amount) : Json :=
  .obj a.fields

/-- The fields of a command, those of its amount last. -/
def Command.fields (c : Command) : List (Text × Json) :=
  [field "mode" c.mode.toJson, field "action" c.action.toJson, field "target" c.target.toJson,
   field "chain" c.chain.toJson] ++
    match c.amount? with
    | some amount => amount.fields
    | none => []

/-- A command as a record. -/
def Command.toJson (c : Command) : Json :=
  .obj c.fields

/-- The fields of a rejection. -/
def Rejection.fields (r : Rejection) : List (Text × Json) :=
  [field "code" (.str r.code), field "message" (.str r.message)]

/-- A rejection as a record. -/
def Rejection.toJson (r : Rejection) : Json :=
  .obj r.fields

end TradeLine
