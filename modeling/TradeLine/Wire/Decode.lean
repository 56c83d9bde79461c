import TradeLine.Text.Quoted
import TradeLine.Wire.Encode

/-!
# Values from JSON

Each type reads itself back from a JSON value and makes the same checks as when it is made from
text or numbers. A named value (an action, a chain and the like) is a string, or an object with
the name as its only key and `null` under it. An amount is an object with three fields, others
ignored, or an array of the three in order. A `DecodeError` says what was found instead.
-/

namespace TradeLine

/-- Why a JSON value could not be read. -/
inductive DecodeError
  /-- A value of the wrong kind was found. -/
  | wrongKind (found : Json) (expected : Text)
  /-- An object that should have had one key has none or several. -/
  | notOneKey
  /-- A name is none of those that there are. -/
  | unknownName (name : Text) (names : List Text)
  /-- A field of an object is not there. -/
  | missingField (name : Text)
  /-- An array ends too early. -/
  | tooShort (length : Nat)
  /-- An array goes on too long. -/
  | tooLong (length : Nat)
  /-- The value has the right kind and fails its check. -/
  | invalid (reason : Invalid)

namespace DecodeError

/-- A word between the marks that set it off in a message. -/
def marked (s : Text) : Text :=
  '\x60' :: s ++ ['\x60']

/-- What a value is, as a message puts it. -/
def describe : Json → Text
  | .null => "null".toList
  | .bool b => "boolean ".toList ++ marked (Json.boolean b)
  | .int n => "integer ".toList ++ marked (Text.ofInt n)
  | .float x => "floating point ".toList ++ marked x.json
  | .str s => "string ".toList ++ Text.quoted s
  | .arr _ => "sequence".toList
  | .obj _ => "map".toList

/-- The names to choose from, as a message puts them. -/
def choice : List Text → Text
  | [] => []
  | [a] => marked a
  | [a, b] => marked a ++ " or ".toList ++ marked b
  | names => "one of ".toList ++ ", ".toList.intercalate (names.map marked)

/-- What to tell the user. -/
def message : DecodeError → Text
  | .wrongKind found expected =>
    "invalid type: ".toList ++ describe found ++ ", expected ".toList ++ expected
  | .notOneKey => "invalid value: map, expected map with a single key".toList
  | .unknownName name names =>
    "unknown variant ".toList ++ marked name ++ ", expected ".toList ++ choice names
  | .missingField name => "missing field ".toList ++ marked name
  | .tooShort length =>
    "invalid length ".toList ++ Text.ofNat length
      ++ ", expected struct RawAmount with 3 elements".toList
  | .tooLong length =>
    "invalid length ".toList ++ Text.ofNat length ++ ", expected fewer elements in array".toList
  | .invalid reason => reason.message

end DecodeError

/-! ## Names -/

/-- The value with the given name. -/
def decodeName {α : Type} (all : List α) (name : α → Text) (s : Text) : Except DecodeError α :=
  match all.find? fun a => name a = s with
  | some a => .ok a
  | none => .error (.unknownName s (all.map name))

/-- A named value: its name as a string, or as the only key of an object with `null` under it. -/
def decodeNamed {α : Type} (all : List α) (name : α → Text) : Json → Except DecodeError α
  | .str s => decodeName all name s
  | .obj [(key, content)] =>
    match decodeName all name key with
    | .error e => .error e
    | .ok a => if content.isNull then .ok a else .error (.wrongKind content "unit".toList)
  | .obj _ => .error .notOneKey
  | value => .error (.wrongKind value "string or map".toList)

/-- Reads an action. -/
def Action.ofJson (value : Json) : Except DecodeError Action :=
  decodeNamed Action.all Action.name value

/-- Reads a chain. -/
def Chain.ofJson (value : Json) : Except DecodeError Chain :=
  decodeNamed Chain.all Chain.name value

/-- Reads a family. -/
def Family.ofJson (value : Json) : Except DecodeError Family :=
  decodeNamed Family.all Family.name value

/-- Reads a mode. -/
def Mode.ofJson (value : Json) : Except DecodeError Mode :=
  decodeNamed Mode.all Mode.name value

/-- Reads a kind of rejection. -/
def RejectionKind.ofJson (value : Json) : Except DecodeError RejectionKind :=
  decodeNamed RejectionKind.all RejectionKind.code value

/-! ## Texts and parts of an amount -/

/-- A value made from a string that passes its check. -/
def decodeText {α : Type} (make : Text → Except Invalid α) : Json → Except DecodeError α
  | .str s => (make s).mapError .invalid
  | value => .error (.wrongKind value "a string".toList)

/-- Reads an address. -/
def Address.ofJson (value : Json) : Except DecodeError Address :=
  decodeText Address.ofText value

/-- Reads a unit. -/
def UnitName.ofJson (value : Json) : Except DecodeError UnitName :=
  decodeText UnitName.ofText value

/-- Reads a number. -/
def decodeNumber (value : Json) : Except DecodeError Binary64 :=
  match value.number? with
  | some x => .ok x
  | none => .error (.wrongKind value "f64".toList)

/-- Reads a truth value. -/
def decodeFlag : Json → Except DecodeError Bool
  | .bool b => .ok b
  | value => .error (.wrongKind value "a boolean".toList)

/-- Reads a field if it is there. -/
def decodeField {α : Type} (decode : Json → Except DecodeError α) (key : String)
    (members : List (Text × Json)) : Except DecodeError (Option α) :=
  match Json.lookup key.toList members with
  | none => .ok none
  | some value => (decode value).map some

/-- A field that has to be there. -/
def requireField {α : Type} (key : String) : Option α → Except DecodeError α
  | some a => .ok a
  | none => .error (.missingField key.toList)

namespace Amount

/-- The amount of parts that were read. -/
def ofParts (value : Binary64) (percent : Bool) (unit : UnitName) : Except DecodeError Amount :=
  (ofValue value percent unit).mapError .invalid

/-- Reads an amount from the members of an object. What is there is read in key order; after that
each of the three has to be there. -/
def ofMembers (members : List (Text × Json)) : Except DecodeError Amount := do
  let percent ← decodeField decodeFlag "isPercent" members
  let unit ← decodeField UnitName.ofJson "unit" members
  let value ← decodeField decodeNumber "value" members
  let value ← requireField "value" value
  let percent ← requireField "isPercent" percent
  let unit ← requireField "unit" unit
  ofParts value percent unit

/-- Reads an amount from the items of an array, one after the other. -/
def ofItems : List Json → Except DecodeError Amount
  | [] => .error (.tooShort 0)
  | value :: items => do
    let value ← decodeNumber value
    match items with
    | [] => .error (.tooShort 1)
    | percent :: items =>
      let percent ← decodeFlag percent
      match items with
      | [] => .error (.tooShort 2)
      | unit :: items =>
        let unit ← UnitName.ofJson unit
        match items with
        | [] => ofParts value percent unit
        | _ :: _ => .error (.tooLong (items.length + 3))

/-- Reads an amount. -/
def ofJson : Json → Except DecodeError Amount
  | .obj members => ofMembers members
  | .arr items => ofItems items
  | value => .error (.wrongKind value "struct RawAmount".toList)

end Amount

end TradeLine
