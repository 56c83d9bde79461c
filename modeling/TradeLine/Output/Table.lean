import TradeLine.Report.Envelope

/-!
# The table

The table is for people: the heading a line each, then one row for each line report or the data as
indented JSON, then the issues. A row is made from the report's JSON value alone, so it shows what
is there and leaves blank what is not.
-/

namespace TradeLine

namespace Table

/-- A text as a line. -/
def line (s : Text) : Text :=
  s ++ ['\n']

/-- The text of a member, empty where there is none. -/
def cell (value : Json) (key : String) : Text :=
  (value.member key.toList).text?.getD []

/-- The row of a line report: its number, then its rejection's code, or its command. -/
def row (report : Json) : Text :=
  let number := Text.padLeft 4 (Text.ofNat ((report.member "line".toList).nat?.getD 0))
  let command := report.member "command".toList
  if command.isNull then
    let code := ((report.member "error".toList).member "code".toList).text?
    number ++ "  ".toList ++ code.getD "ERROR".toList
  else
    let action := Text.padRight 5 (cell command "action")
    let place := cell command "chain" ++ "  ".toList ++ cell command "target"
    match (command.member "value".toList).number? with
    | some value =>
      let percent := if (command.member "isPercent".toList).isTrue then ['%'] else []
      number ++ "  ".toList ++ action ++ ' ' :: value.display ++ percent ++ ' ' ::
        cell command "unit" ++ " on ".toList ++ place
    | none => number ++ "  ".toList ++ action ++ ' ' :: place

/-- The lines of the heading. -/
def heading (h : Heading) : Text :=
  line ("request_id  : ".toList ++ h.requestId) ++
  line ("schema      : ".toList ++ schemaVersion) ++
  line ("parsed      : ".toList ++ Text.ofNat h.parsed) ++
  line ("failed      : ".toList ++ Text.ofNat h.failed) ++
    if h.warnings.isEmpty then []
    else
      line "warnings:".toList ++ h.warnings.flatMap fun w => line ("  - ".toList ++ w)

/-- The lines of the data: a row for each item of an array, and else the data itself. -/
def body : Json → Text
  | .arr reports =>
    line "lines:".toList ++ reports.flatMap fun report => line ("  ".toList ++ row report)
  | data =>
    line "data:".toList ++ (cutAt '\n' data.pretty).flatMap fun s => line ("  ".toList ++ s)

/-- The line of an issue. -/
def issue (i : Issue) : Text :=
  let place :=
    match i.line with
    | some number => "line ".toList ++ Text.ofNat number ++ ": ".toList
    | none => []
  line ("  - ".toList ++ place ++ i.code ++ ": ".toList ++ i.message)

/-- The lines of the issues. -/
def issues (is : List Issue) : Text :=
  if is.isEmpty then [] else line "errors:".toList ++ is.flatMap issue

end Table

/-- The envelope as a table. -/
def Envelope.table (e : Envelope) : Text :=
  Table.heading e.heading ++ Table.body e.data ++ Table.issues e.issues

end TradeLine
