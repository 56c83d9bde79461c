import TradeLine.Arguments.Basic

/-!
# Reading the arguments

The arguments are read at two levels: the program's own, up to the name of a task, and the task's,
after it. Most options can be given at either level, and the task's level wins.

A value may be joined to its option or follow it. A value that follows is taken as it comes and
**settled** later, when the next option or word that has a place is read, or when the level ends;
the program's level ends after the task's. So of two mistakes the one that is settled first is the
one reported.
-/

namespace TradeLine

/-! ## One argument by its looks -/

/-- How an argument looks, before its meaning is known. -/
inductive Argument
  /-- The mark after which everything is a word. -/
  | separator
  /-- `--name` or `--name=value`. -/
  | long (name : Text) (value : Option Text)
  /-- `-abc`. -/
  | short (letters : Text)
  /-- Anything else. -/
  | word (text : Text)
deriving DecidableEq, Repr

/-- An argument by its looks. A single dash is a word. -/
def Argument.ofText : Text → Argument
  | '-' :: '-' :: [] => .separator
  | '-' :: '-' :: rest =>
    match rest.dropWhile (· != '=') with
    | [] => .long rest none
    | _ :: value => .long (rest.takeWhile (· != '=')) (some value)
  | '-' :: letter :: letters => .short (letter :: letters)
  | text => .word text

/-! ## Options and where they are known -/

/-- Options without a value. -/
inductive Switch
  | pretty
  | strict
  | help
  | version
deriving DecidableEq, Repr

/-- Options with a value. -/
inductive Setting
  | format
  | logLevel
  | file
deriving DecidableEq, Repr

/-- An option of either kind. -/
inductive Known
  | switch (s : Switch)
  | setting (s : Setting)
deriving DecidableEq, Repr

/-- Where an argument stands: before the task's name, or after it. -/
inductive Place
  | program
  | task (name : TaskName)
deriving DecidableEq, Repr

namespace Place

/-- The option with a long name, where it is known. -/
def long? (place : Place) (name : Text) : Option Known :=
  if name = "format".toList then some (.setting .format)
  else if name = "log-level".toList then some (.setting .logLevel)
  else if name = "pretty".toList then some (.switch .pretty)
  else if name = "strict".toList then some (.switch .strict)
  else if name = "help".toList then some (.switch .help)
  else if name = "version".toList ∧ place = .program then some (.switch .version)
  else if name = "file".toList ∧ place = .task .batch then some (.setting .file)
  else none

/-- The option with a letter, where it is known. -/
def short? (place : Place) (letter : Char) : Option Known :=
  if letter = 'h' then some (.switch .help)
  else if letter = 'V' ∧ place = .program then some (.switch .version)
  else if letter = 'f' ∧ place = .task .batch then some (.setting .file)
  else none

end Place

/-! ## What one level has been given -/

/-- The options and words read at one level so far. `pending` is a setting whose value followed
it or is still to come; it has not been settled yet. -/
structure Given where
  format : Option Format
  logLevel : Option Text
  file : Option Text
  pretty : Bool
  strict : Bool
  words : List Text
  pending : Option (Setting × Option Text)
deriving DecidableEq, Repr

namespace Given

/-- Nothing yet. -/
def nothing : Given :=
  ⟨none, none, none, false, false, [], none⟩

/-- Takes the value of a setting, which may be given once only. -/
def assign (g : Given) : Setting → Text → Except UsageError Given
  | .format, value =>
    if g.format.isSome then .error .conflict
    else
      match Format.ofText? value with
      | some format => .ok { g with format := some format }
      | none => .error .invalidValue
  | .logLevel, value =>
    if g.logLevel.isSome then .error .conflict else .ok { g with logLevel := some value }
  | .file, value =>
    if g.file.isSome then .error .conflict
    else if value = [] then .error .invalidValue
    else .ok { g with file := some value }

/-- Turns a switch on, which may be done once only. -/
def turnOn (g : Given) : Switch → Except UsageError Given
  | .pretty => if g.pretty then .error .conflict else .ok { g with pretty := true }
  | .strict => if g.strict then .error .conflict else .ok { g with strict := true }
  | .help => .error .help
  | .version => .error .version

/-- Settles the pending setting: it needs a value, and the value has to do. -/
def settle (g : Given) : Except UsageError Given :=
  match g.pending with
  | none => .ok g
  | some (_, none) => .error .invalidValue
  | some (setting, some value) => { g with pending := none }.assign setting value

/-- Takes an option with the value joined to it, if any. -/
def take (g : Given) : Known → Option Text → Except UsageError Given
  | .switch _, some _ => .error .tooManyValues
  | .switch s, none => do (← g.settle).turnOn s
  | .setting s, some value => do (← g.settle).assign s value
  | .setting s, none => do return { (← g.settle) with pending := some (s, none) }

/-- Takes letters after a dash, one option after the other; what follows the letter of a setting
is its value. -/
def takeLetters (place : Place) (g : Given) : Text → Except UsageError Given
  | [] => .ok g
  | letter :: letters =>
    match place.short? letter with
    | none => .error .unknownArgument
    | some (.switch s) => do takeLetters place (← g.take (.switch s) none) letters
    | some (.setting s) =>
      match letters with
      | [] => g.take (.setting s) none
      | '=' :: value => g.take (.setting s) (some value)
      | value => g.take (.setting s) (some value)

/-- Takes an option by its long name. -/
def takeLong (place : Place) (g : Given) (name : Text) (value : Option Text) :
    Except UsageError Given :=
  match place.long? name with
  | none => .error .unknownArgument
  | some known => g.take known value

/-- The setting that waits for its value. -/
def waiting? (g : Given) : Option Setting :=
  match g.pending with
  | some (setting, none) => some setting
  | _ => none

/-- Whether the task has a place for one more word. -/
def hasRoom (g : Given) : TaskName → Bool
  | .parse => true
  | .address => g.words.isEmpty
  | .batch | .examples => false

/-- Takes a word for the task to work on. -/
def takeWord (name : TaskName) (g : Given) (word : Text) : Except UsageError Given :=
  if g.hasRoom name then do
    let g ← g.settle
    return { g with words := g.words ++ [word] }
  else .error .unknownArgument

/-- Takes words one after the other. -/
def takeWords (name : TaskName) (g : Given) : List Text → Except UsageError Given
  | [] => .ok g
  | word :: words => do takeWords name (← g.takeWord name word) words

/-- Whether no option has been given. -/
def isEmpty (g : Given) : Bool :=
  g.format.isNone && g.logLevel.isNone && !g.pretty && !g.strict

end Given

/-! ## The two levels -/

/-- Reads the arguments after a task's name. -/
def scanTask (name : TaskName) (g : Given) : List Text → Except UsageError Given
  | [] => g.settle
  | arg :: args =>
    match Argument.ofText arg with
    | .separator => do (← g.takeWords name args).settle
    | .long key value => do scanTask name (← g.takeLong (.task name) key value) args
    | .short letters => do scanTask name (← g.takeLetters (.task name) letters) args
    | .word text =>
      match g.waiting? with
      | some setting => scanTask name { g with pending := some (setting, some text) } args
      | none => do scanTask name (← g.takeWord name text) args

/-- The task with what it was given to work on. -/
def TaskName.task (name : TaskName) (g : Given) : Except UsageError Task :=
  match name, g.words with
  | .parse, [] => .error .missingArgument
  | .parse, words => .ok (.parse words)
  | .batch, _ => .ok (.batch g.file)
  | .examples, _ => .ok .examples
  | .address, [] => .error .missingArgument
  | .address, word :: _ => .ok (.address word)

/-- The invocation that both levels together ask for; the task's level wins. -/
def Invocation.ofLevels (program inTask : Given) (task : Task) : Invocation where
  task := task
  format := (inTask.format <|> program.format).getD .json
  pretty := inTask.pretty || program.pretty
  strict := inTask.strict || program.strict
  logLevel := (inTask.logLevel <|> program.logLevel).getD "warn".toList

/-- Whether a word can stand where a task is named: it names one, or asks for help. -/
def namesTask (word : Text) : Bool :=
  (TaskName.ofText? word).isSome || word = "help".toList

/-- What `help` answers: it knows the tasks and itself. -/
def helpAnswer : List Text → UsageError
  | [] => .help
  | [name] => if namesTask name then .help else .unknownTask
  | _ => .unknownTask

/-- The end of the program's own arguments without a task. -/
def noTask (g : Given) : UsageError :=
  match g.settle with
  | .error e => e
  | .ok g => if g.isEmpty then .nothingGiven else .missingTask

/-- The end of the program's own arguments at the separator. A task cannot be named after it, so
the name of one has no place there, and any other word names no task. -/
def afterSeparator (g : Given) : List Text → UsageError
  | [] => noTask g
  | word :: _ => if namesTask word then .unknownArgument else .unknownTask

/-- Reads the arguments, the program's own up to the name of a task. -/
def scanProgram (g : Given) : List Text → Except UsageError Invocation
  | [] => .error (noTask g)
  | arg :: args =>
    match Argument.ofText arg with
    | .separator => .error (afterSeparator g args)
    | .long key value => do scanProgram (← g.takeLong .program key value) args
    | .short letters => do scanProgram (← g.takeLetters .program letters) args
    | .word text =>
      match g.waiting?, TaskName.ofText? text with
      | some setting, _ => scanProgram { g with pending := some (setting, some text) } args
      | none, some name => do
        let inTask ← scanTask name .nothing args
        let task ← name.task inTask
        return .ofLevels (← g.settle) inTask task
      | none, none =>
        .error (if text = "help".toList then helpAnswer args else .unknownTask)

/-- What the arguments ask for. -/
def Invocation.ofArguments (args : List Text) : Except UsageError Invocation :=
  scanProgram .nothing args

end TradeLine
