import TradeLine.Line.Parse
import TradeLine.Wire.Encode

/-!
# Reports

* `LineReport` — what became of one line: its number, its text, and its command or rejection.
* `Issue` — one thing that went wrong, with the number of its line where it has one.
* `Answer` — what a task found out: its data, warnings and issues, and how many lines it could
  read. `Answer.ofReports` collects line reports, one issue for each rejected line, in order.

The data of an answer is a general value, so its objects have their members in key order.
-/

namespace TradeLine

/-- What became of one line. -/
structure LineReport where
  line : Nat
  input : Text
  outcome : Except Rejection Command

/-- Something that went wrong, at a line or not. -/
structure Issue where
  code : Text
  message : Text
  line : Option Nat
deriving DecidableEq, Repr

namespace Issue

/-- The fields of an issue, the line only where there is one. -/
def fields (i : Issue) : List (Text × Json) :=
  [field "code" (.str i.code), field "message" (.str i.message)] ++
    match i.line with
    | some line => [field "line" (.int line)]
    | none => []

/-- An issue as a record. -/
def toJson (i : Issue) : Json :=
  .obj i.fields

/-- The issue of a rejected line. -/
def ofRejection (r : Rejection) (line : Nat) : Issue :=
  ⟨r.code, r.message, some line⟩

end Issue

namespace LineReport

/-- Reads a line and reports on it. -/
def ofLine (line : Nat) (input : Text) : LineReport :=
  ⟨line, input, parse input⟩

/-- Whether the line was read. -/
def isRead (r : LineReport) : Bool :=
  match r.outcome with
  | .ok _ => true
  | .error _ => false

/-- The issue of the line, if it was rejected. -/
def issue? (r : LineReport) : Option Issue :=
  match r.outcome with
  | .ok _ => none
  | .error rejection => some (.ofRejection rejection r.line)

/-- What became of the line, under its own key. -/
def outcomeField (r : LineReport) : Text × Json :=
  match r.outcome with
  | .ok command => field "command" (.object command.fields)
  | .error rejection => field "error" (.object rejection.fields)

/-- The report as a general value. -/
def toJson (r : LineReport) : Json :=
  .object [field "line" (.int r.line), field "input" (.str r.input), r.outcomeField]

end LineReport

/-- What a task found out. -/
structure Answer where
  data : Json
  warnings : List Text
  issues : List Issue
  parsed : Nat

namespace Answer

/-- The answer that collects line reports. -/
def ofReports (reports : List LineReport) : Answer where
  data := .arr (reports.map LineReport.toJson)
  warnings := []
  issues := reports.filterMap LineReport.issue?
  parsed := reports.countP LineReport.isRead

end Answer

end TradeLine
