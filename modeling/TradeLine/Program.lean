import TradeLine.Arguments.Scan
import TradeLine.Log.Filter
import TradeLine.Report.Tasks

/-!
# A run of the program

`Invocation.run` is the whole program as a function: what it is asked to do and the world it runs
in determine what it writes, what it logs and its exit code. The order is fixed: the log filter is
settled before anything else, then the task is done, then its envelope is written, and only then
does the strict mode look at warnings and issues.

How a text is read as a log filter is no part of the program. The reader of filters comes with the
world, so what is said about every world is said about every reader.
-/

namespace TradeLine

/-- What the program can see of the world. -/
structure World where
  /-- The standard input. -/
  input : List UInt8
  /-- The contents of a file, if it is there. -/
  file? : Text → Option (List UInt8)
  /-- The log filter of the environment. -/
  logFilter : Option Text
  /-- The name of this run. -/
  requestId : Text
  /-- How a log filter is read: as a filter, or with the reason why it is none. -/
  readFilter : Text → Except Text Filter := Filter.read

/-- Why a run ends early. -/
inductive Failure
  | logging (reason : Text)
  | strict (warnings issues : Nat)
  | encoding (reason : Text)
  | io (reason : Text)
deriving DecidableEq, Repr

namespace Failure

/-- The exit code of the failure. -/
def exitCode : Failure → Nat
  | .logging _ => 2
  | .encoding _ => 4
  | .strict .. => 5
  | .io _ => 10

/-- What to tell the user. -/
def message : Failure → Text
  | .logging reason => "logging setup failed: ".toList ++ reason
  | .strict warnings issues =>
    "strict mode failed: warnings=".toList ++ Text.ofNat warnings ++ ", errors=".toList
      ++ Text.ofNat issues
  | .encoding reason => reason
  | .io reason => reason

/-- A file that is not there. -/
def missingFile : Failure :=
  .io "No such file or directory (os error 2)".toList

end Failure

/-- What a run leaves behind. -/
structure Outcome where
  exitCode : Nat
  output : Text
  failure : Option Failure
  events : List Event

/-! ## Doing the task -/

/-- The events of reading the lines that are reported on, in order. -/
def eventsOf (reports : List LineReport) : List Event :=
  reports.flatMap fun r => eventsOfLine r.input

/-- The bytes that a batch reads: those of its file, or the standard input. -/
def World.source (w : World) : Option Text → Except Failure (List UInt8)
  | none => .ok w.input
  | some path =>
    match w.file? path with
    | some bytes => .ok bytes
    | none => .error .missingFile

/-- Does the task: its answer and the events on the way. -/
def Task.perform (w : World) : Task → Except Failure (Answer × List Event)
  | .parse lines => .ok (.ofLines lines, eventsOf (lineReports lines))
  | .examples => .ok (.ofLines demoLines, eventsOf (lineReports demoLines))
  | .address text =>
    let s := Text.trim text
    .ok (.ofAddress text, [.classified s (Family.classify s).isSome (Chain.detect s)])
  | .batch file => do
    let bytes ← w.source file
    let reports := batchReports bytes
    let answer := Answer.ofBatch bytes
    return (answer, eventsOf reports ++
      [.batch reports.length answer.parsed answer.issues.length])

/-! ## The whole run -/

/-- The filter to log with: the environment's if it can be read, and else the invocation's. -/
def World.filter (w : World) (logLevel : Text) : Except Failure Filter :=
  match w.logFilter.map w.readFilter with
  | some (.ok filter) => .ok filter
  | _ => (w.readFilter logLevel).mapError .logging

/-- How an envelope that was written ends the run: strictly, any warning or issue is a failure. -/
def Envelope.ending (e : Envelope) (strict : Bool) : Except Failure Nat :=
  let warnings := e.heading.warnings.length
  let issues := e.issues.length
  if strict ∧ (0 < warnings ∨ 0 < issues) then .error (.strict warnings issues)
  else .ok (if 0 < issues then 3 else 0)

/-- The run of an invocation. -/
def Invocation.run (inv : Invocation) (w : World) : Outcome :=
  match w.filter inv.logLevel with
  | .error failure => ⟨failure.exitCode, [], some failure, []⟩
  | .ok filter =>
    match inv.task.perform w with
    | .error failure => ⟨failure.exitCode, [], some failure, []⟩
    | .ok (answer, events) =>
      let envelope := Envelope.ofAnswer w.requestId answer
      let output := envelope.render inv.format inv.pretty
      let shown := events.filter filter.shows
      match envelope.ending inv.strict with
      | .error failure => ⟨failure.exitCode, output, some failure, shown⟩
      | .ok code => ⟨code, output, none, shown⟩

/-- The line that a failure leaves on the error output. -/
def Failure.line (f : Failure) : Text :=
  "error: ".toList ++ f.message

/-- The run that a list of arguments asks for. -/
def runArguments (args : List Text) (w : World) : Except UsageError Outcome :=
  (Invocation.ofArguments args).map fun inv => inv.run w

end TradeLine
