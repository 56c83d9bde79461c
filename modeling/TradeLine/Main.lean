import TradeLine.Program
import TradeLine.Report.RequestId

/-!
# The command line

Gathers what the run can see of the world, runs it, and writes what it leaves behind: the output
to the standard output, and the log and a failure to the error output.
-/

namespace TradeLine

/-- What the program is for and how to call it. -/
def helpText : String :=
  "Parse tradedown trading commands\n\n" ++
  "Usage: tradedown [OPTIONS] <COMMAND>\n\n" ++
  "Commands:\n" ++
  "  parse     Parse each argument as one tradedown line\n" ++
  "  batch     Parse lines from a file, or stdin when no file is given\n" ++
  "  examples  Parse the built-in demo lines\n" ++
  "  address   Report the family and chain of a single address\n\n" ++
  "Options:\n" ++
  "  --format <FORMAT>        table, json or ndjson [default: json]\n" ++
  "  --pretty                 Pretty-print JSON output with indentation\n" ++
  "  --strict                 Treat warnings and failed lines as failures\n" ++
  "  --log-level <LOG_LEVEL>  Log filter [default: warn]\n"

/-- What to tell the user about arguments that ask for no task. -/
def UsageError.message : UsageError → String
  | .nothingGiven | .help => helpText
  | .version => "tradedown 0.1.0\n"
  | .missingTask => "error: a command is required but none was given\n"
  | .unknownTask => "error: unrecognized command\n"
  | .missingArgument => "error: a required argument was not given\n"
  | .unknownArgument => "error: unexpected argument\n"
  | .invalidValue => "error: invalid or missing value for an option\n"
  | .tooManyValues => "error: unexpected value for a switch\n"
  | .conflict => "error: an option cannot be used multiple times\n"

/-- All bytes of a stream. -/
partial def readAll (stream : IO.FS.Stream) (sofar : ByteArray) : IO ByteArray := do
  let chunk ← stream.read 65536
  if chunk.isEmpty then return sofar else readAll stream (sofar ++ chunk)

/-- The bytes of a file, if it can be read. -/
def readFile? (path : Text) : IO (Option (List UInt8)) := do
  try
    let bytes ← IO.FS.readBinFile (String.ofList path)
    return some bytes.toList
  catch _ => return none

/-- The world as far as a task looks at it: only a batch reads a file or the standard input. -/
def World.gather (task : Task) : IO World := do
  let random ← IO.rand 0 ((1 <<< 122) - 1)
  let logFilter := (← IO.getEnv "RUST_LOG").map String.toList
  let requestId := RequestId.ofRandom random
  match task with
  | .batch none =>
    let bytes ← readAll (← IO.getStdin) ByteArray.empty
    return { input := bytes.toList, file? := fun _ => none, logFilter, requestId }
  | .batch (some path) =>
    let bytes ← readFile? path
    return { input := [], file? := fun _ => bytes, logFilter, requestId }
  | _ => return { input := [], file? := fun _ => none, logFilter, requestId }

/-- Writes what a run leaves behind. -/
def Outcome.write (o : Outcome) : IO Unit := do
  o.events.forM fun e => IO.eprintln (String.ofList e.line)
  IO.print (String.ofList o.output)
  o.failure.forM fun f => IO.eprintln (String.ofList f.line)

end TradeLine

open TradeLine in
/-- Runs the program on its arguments and gives back its exit code. -/
def main (args : List String) : IO UInt32 := do
  match Invocation.ofArguments (args.map String.toList) with
  | .error e =>
    if e.exitCode = 0 then IO.print e.message else IO.eprint e.message
    return UInt32.ofNat e.exitCode
  | .ok inv =>
    let outcome := inv.run (← World.gather inv.task)
    outcome.write
    return UInt32.ofNat outcome.exitCode
