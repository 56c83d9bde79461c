import TradeLine.Report.Basic

/-!
# The envelope

Every answer goes out in an envelope: a heading with counts and warnings, the data, and the
issues. As a record it leaves out warnings and issues that there are none of.
-/

namespace TradeLine

/-- The version of the records that go out. -/
def schemaVersion : Text :=
  "v1.0.0".toList

/-- The heading of an envelope. -/
structure Heading where
  requestId : Text
  parsed : Nat
  failed : Nat
  warnings : List Text
deriving DecidableEq, Repr

/-- The fields of a heading, the warnings only where there are some. -/
def Heading.fields (h : Heading) : List (Text × Json) :=
  [field "request_id" (.str h.requestId), field "schema_version" (.str schemaVersion),
   field "parsed" (.int h.parsed), field "failed" (.int h.failed)] ++
    if h.warnings.isEmpty then [] else [field "warnings" (.arr (h.warnings.map .str))]

/-- What goes out: a heading, data, and issues. -/
structure Envelope where
  heading : Heading
  data : Json
  issues : List Issue

namespace Envelope

/-- The envelope of an answer. -/
def ofAnswer (requestId : Text) (a : Answer) : Envelope where
  heading := ⟨requestId, a.parsed, a.issues.length, a.warnings⟩
  data := a.data
  issues := a.issues

/-- The envelope as a record, with issues only where there are some. -/
def toJson (e : Envelope) : Json :=
  .obj <| [field "meta" (.obj e.heading.fields), field "data" e.data] ++
    if e.issues.isEmpty then [] else [field "errors" (.arr (e.issues.map Issue.toJson))]

/-- The heading and all issues, as a general value. -/
def summary (e : Envelope) : Json :=
  .object [field "meta" (.object e.heading.fields),
    field "errors" (.arr (e.issues.map fun i => .object i.fields))]

end Envelope

end TradeLine
