import TradeLine.Output.Format

/-!
# What can be asked for

* `Task` — the four things the program does, each with what it works on.
* `Invocation` — a task and how to go about it.
* `UsageError` — why a list of arguments asks for none of this, or for help instead.
-/

namespace TradeLine

/-- The tasks by name. -/
inductive TaskName
  | parse
  | batch
  | examples
  | address
deriving DecidableEq, Repr

/-- The task with the given name. -/
def TaskName.ofText? (s : Text) : Option TaskName :=
  if s = "parse".toList then some .parse
  else if s = "batch".toList then some .batch
  else if s = "examples".toList then some .examples
  else if s = "address".toList then some .address
  else none

/-- What the program is to do. -/
inductive Task
  /-- Read the given lines. -/
  | parse (lines : List Text)
  /-- Read the lines of a file, or of the standard input. -/
  | batch (file : Option Text)
  /-- Read the built-in lines. -/
  | examples
  /-- Look at one address. -/
  | address (text : Text)
deriving DecidableEq, Repr

/-- A task and how to go about it. -/
structure Invocation where
  task : Task
  format : Format
  pretty : Bool
  strict : Bool
  logLevel : Text
deriving DecidableEq, Repr

/-- Why there is no task to do. -/
inductive UsageError
  /-- Nothing was asked for at all. -/
  | nothingGiven
  /-- Options were given without a task. -/
  | missingTask
  /-- A word that names no task stands in its place. -/
  | unknownTask
  /-- The task needs something to work on. -/
  | missingArgument
  /-- An option or a word that has no place. -/
  | unknownArgument
  /-- An option without its value, or with one that it does not take. -/
  | invalidValue
  /-- A switch with a value. -/
  | tooManyValues
  /-- An option given twice. -/
  | conflict
  /-- Help is asked for. -/
  | help
  /-- The version is asked for. -/
  | version
deriving DecidableEq, Repr

/-- The exit code: asking for help or the version is no error. -/
def UsageError.exitCode : UsageError → Nat
  | .help | .version => 0
  | _ => 2

end TradeLine
