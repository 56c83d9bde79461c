import TradeLine.Report.Basic
import TradeLine.Text.Utf8

/-!
# What the tasks report

* `lineReports` — reports on given lines, numbered from one.
* `batchReports` — reports on the lines of a file: the bytes are cut at line feeds and each piece
  is read on its own, so that bytes which spell no text spoil no other line. Lines that are blank
  or begin with `#` are passed over, and the others keep the number they have in the file.
* `Answer.ofLines`, `Answer.ofBatch` — the answers made of these reports.
* `Answer.ofAddress` — the family and chain of one address.
-/

namespace TradeLine

/-- Reports on the given lines, numbered from one. -/
def lineReports (lines : List Text) : List LineReport :=
  (lines.zipIdx 1).map fun (line, number) => .ofLine number line

/-- A line of a file that says nothing: blank, or a remark. -/
def isPassedOver (s : Text) : Bool :=
  s.isEmpty || s.head? == some '#'

/-- The report on one line of a file, unless it says nothing. -/
def batchReport? (number : Nat) (piece : Text) : Option LineReport :=
  if isPassedOver (Text.trim piece) then none else some (.ofLine number (Text.trim piece))

/-- Reports on the lines of a file. -/
def batchReports (bytes : List UInt8) : List LineReport :=
  ((cutAt 0x0A bytes).zipIdx 1).filterMap fun (piece, number) =>
    batchReport? number (Utf8.decode piece)

/-- The warning for a file without a line to read. -/
def emptyWarning : Text :=
  "no tradedown lines found in input".toList

namespace Answer

/-- The answer about given lines. -/
def ofLines (lines : List Text) : Answer :=
  .ofReports (lineReports lines)

/-- The answer about a file, with a warning when it has no line to read. -/
def ofBatch (bytes : List UInt8) : Answer :=
  { ofReports (batchReports bytes) with
    warnings := if (batchReports bytes).isEmpty then [emptyWarning] else [] }

/-- The answer about one address, whose blanks at the ends do not count. -/
def ofAddress (s : Text) : Answer :=
  let text := Text.trim s
  let family :=
    match Family.classify text with
    | some family => [field "family" family.toJson]
    | none => []
  let data := Json.object <|
    [field "address" (.str text), field "valid" (.bool (Family.classify text).isSome)] ++ family
      ++ [field "chain" (Chain.detect text).toJson]
  match Address.ofText text with
  | .ok _ => ⟨data, [], [], 1⟩
  | .error e => ⟨data, [], [⟨RejectionKind.address.code, e.message, none⟩], 0⟩

end Answer

end TradeLine
