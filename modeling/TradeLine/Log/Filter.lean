import TradeLine.Decimal.Reader
import TradeLine.Log.Event
import TradeLine.Text.Alphanumeric

/-!
# Log filters

A `Filter` tells from the level of an event, its target and the names of its fields whether the log
shows it. A run can be given any way of reading filters; `Filter.read` is the one that the command
line has.

* `Directive` — what is between two commas of a filter, `target[span{field=value}]=level`, where
  each part can be left out. It sets a level for the events that it **covers**, and no level means
  the highest.
* `Filter.ofDirectives` — of the directives that cover an event the one with the longest target
  decides, then the one that asks for a field, and of two that ask for the same the later one. An
  event that none covers is not shown. Without any directive errors alone are.

Nothing is logged inside a span, and it is spans that are asked for values, so a directive with one
of these covers no event. A value is a pattern, in a notation of its own, and is taken as it stands.
-/

namespace TradeLine

/-- Whether the log shows an event, by its level, its target and the names of its fields. -/
structure Filter where
  enables : Level → Text → List Text → Bool

/-- Whether an event is shown. -/
def Filter.shows (f : Filter) (e : Event) : Bool :=
  f.enables e.level e.target e.fieldNames

/-- Why a filter cannot be read. -/
inductive FilterError
  /-- A directive that is all blanks or not of the shape of one. -/
  | directive
  /-- A level that is not known after `=`. -/
  | level
deriving DecidableEq, Repr

/-- What to tell the user about a filter that cannot be read. -/
def FilterError.message : FilterError → Text
  | .directive => "invalid filter directive".toList
  | .level =>
    ("error parsing level filter: expected one of \"off\", \"error\", \"warn\", \"info\", " ++
      "\"debug\", \"trace\", or a number 0-5").toList

/-- A field that is asked for, and perhaps its value. -/
structure FieldMatch where
  name : Text
  value : Option Text
deriving DecidableEq, Repr

/-- Reads `name` or `name=value`. -/
def FieldMatch.ofText (s : Text) : FieldMatch where
  name := s.takeWhile (· != '=')
  value :=
    match s.dropWhile (· != '=') with
    | [] => none
    | _ :: rest => some (rest.takeWhile (· != '='))

/-- Shows events of a rank up to `upTo` whose target begins with `target`, inside of the span, with
the field; what is not there is not asked for. -/
structure Directive where
  target : Option Text
  span : Option Text
  field : Option FieldMatch
  upTo : Nat
deriving DecidableEq, Repr

namespace Directive

/-! ## Reading a directive -/

/-- A directive that asks for nothing and shows everything. -/
def everything : Directive :=
  ⟨none, none, none, Level.trace.rank⟩

/-- The rank of a level written by its name in any letter case, or as a number. -/
def rank? (s : Text) : Option Nat :=
  let number := Numeral.digits? (if s.head? = some '+' then s.drop 1 else s)
  match number with
  | some n => if n ≤ 5 then some n else none
  | none =>
    let names := ["off", "error", "warn", "info", "debug", "trace"].map String.toList
    names.findIdx? fun name => name = Text.lower s

/-- Whether a target can begin with the character. -/
def opensTarget (c : Char) : Bool :=
  Text.isAlphanumeric c || c = '-' || c = ':' || c = '_'

/-- The level after `=`, which is the highest when nothing stands there. -/
def levelOfText (s : Text) : Except FilterError Nat :=
  if s = [] then .ok Level.trace.rank
  else
    match rank? s with
    | some n => .ok n
    | none => .error .level

/-- A level for every target, or else a target that is shown in full. -/
def ofBareText (s : Text) : Directive :=
  match rank? s with
  | some n => { everything with upTo := n }
  | none => { everything with target := some s }

/-- The position of the first of the marks from `start` on, or the end of the text. -/
def markAt (marks : List Char) (t : Text) (start : Nat) : Nat :=
  start + ((t.drop start).takeWhile fun c => c ∉ marks).length

/-- The text from one position up to another. -/
def between (s : Text) (start stop : Nat) : Text :=
  (s.take stop).drop start

-- In the functions below `s` is the directive as it is written and `t` the same without blanks at
-- the ends. Marks are looked for in `t`, and the parts between them are cut out of `s` at the same
-- positions: blanks in front of a directive shift its parts, so no level is found there.

/-- Reads the end of a directive from a position on: nothing, or a level. -/
def readEnd (s t : Text) (d : Directive) (start : Nat) : Except FilterError Directive :=
  match t.drop start with
  | [] => .ok d
  | '=' :: _ => (levelOfText (s.drop (start + 1))).map fun n => { d with upTo := n }
  | _ => .error .directive

/-- Reads a directive from behind the opening brace on: a field, which has to have a name. -/
def readField (s t : Text) (d : Directive) (start : Nat) : Except FilterError Directive :=
  let stop := markAt ['\x7d'] t start
  match between s start stop, t.drop stop with
  | [], _ => .error .directive
  | name, '\x7d' :: ']' :: _ => readEnd s t { d with field := some (.ofText name) } (stop + 2)
  | _, _ => .error .directive

/-- Reads a directive from behind the opening bracket on: a span, a field, or both. -/
def readBracket (s t : Text) (d : Directive) (start : Nat) : Except FilterError Directive :=
  let stop := markAt [']', '\x7b'] t start
  let name := between s start stop
  match t.drop stop with
  | ']' :: _ => readEnd s t { d with span := some name } (stop + 1)
  | '\x7b' :: _ => readField s t { d with span := if name = [] then none else some name } (stop + 1)
  | _ => .error .directive

/-- Reads a directive. -/
def ofText (s : Text) : Except FilterError Directive :=
  let t := Text.trim s
  match t with
  | [] => .error .directive
  | '[' :: _ => readBracket s t everything 1
  | c :: _ =>
    if opensTarget c then
      let stop := markAt ['=', '['] t 0
      let withTarget := { everything with target := some (s.take stop) }
      match t.drop stop with
      | [] => .ok (ofBareText s)
      | '[' :: _ => readBracket s t withTarget (stop + 1)
      | _ => readEnd s t withTarget stop
    else .error .directive

/-! ## Which directive decides -/

/-- Whether the directive says anything about events with this target and these fields. -/
def covers (d : Directive) (target : Text) (names : List Text) : Bool :=
  let asksTarget :=
    match d.target with
    | none => true
    | some start => start.isPrefixOf target
  let asksField :=
    match d.field with
    | none => true
    | some f => f.value.isNone && f.name ∈ names
  d.span.isNone && asksTarget && asksField

/-- How much of a target the directive looks at: one for every target looks least. -/
def reach (d : Directive) : Nat :=
  match d.target with
  | none => 0
  | some start => start.length + 1

/-- Whether `e` looks at events at least as closely as `d`: at more of the target, or at as much of
it and at a field. Of two fields the one with the later name is the closer one. -/
def yields (d e : Directive) : Bool :=
  let toField :=
    match d.field, e.field with
    | none, _ => true
    | some _, none => false
    | some f, some g => ¬ g.name < f.name
  d.reach < e.reach || d.reach = e.reach && toField

end Directive

namespace Filter

/-- Of the directive so far and the next one, the one that decides. -/
def stronger (target : Text) (names : List Text) (sofar : Option Directive) (d : Directive) :
    Option Directive :=
  if d.covers target names then
    match sofar with
    | none => some d
    | some best => if best.yields d then some d else some best
  else sofar

/-- Shows what the directive that decides about an event lets through. -/
def ofDirectives (directives : List Directive) : Filter where
  enables level target names :=
    let inForce :=
      if directives.isEmpty then [{ Directive.everything with upTo := Level.error.rank }]
      else directives
    match inForce.foldl (stronger target names) none with
    | none => false
    | some d => level.rank ≤ d.upTo

/-- Reads a filter; pieces without text between two commas are passed over, and the first
directive that cannot be read is the one reported. -/
def ofText (s : Text) : Except FilterError Filter :=
  (((cutAt ',' s).filter fun piece => !piece.isEmpty).mapM Directive.ofText).map ofDirectives

/-- Reads a filter, or tells the user why it cannot be read. -/
def read (s : Text) : Except Text Filter :=
  (ofText s).mapError FilterError.message

end Filter

end TradeLine
