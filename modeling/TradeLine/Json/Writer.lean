import TradeLine.Json.Basic

/-!
# Writing JSON

`Json.compact` writes a value on one line without spaces; `Json.pretty` puts each member and item
on a line of its own, indented by two spaces a level. Both write strings and numbers alike, so
they differ in blanks outside of strings alone. A string shows every character but the quote, the
backslash and the controls below the space, so a written value never holds one of these raw.
-/

namespace TradeLine.Json

/-! ## Strings -/

/-- How one character is written inside a string. -/
def escapedChar (c : Char) : Text :=
  if c = '"' then ['\\', '"']
  else if c = '\\' then ['\\', '\\']
  else if c = '\x08' then ['\\', 'b']
  else if c = '\x0c' then ['\\', 'f']
  else if c = '\n' then ['\\', 'n']
  else if c = '\r' then ['\\', 'r']
  else if c = '\t' then ['\\', 't']
  else if c.toNat < 0x20 then
    ['\\', 'u', '0', '0', (c.toNat / 16).digitChar, (c.toNat % 16).digitChar]
  else [c]

/-- A string between its quotes. -/
def string (s : Text) : Text :=
  '"' :: s.flatMap escapedChar ++ ['"']

/-- The two truth values. -/
def boolean (b : Bool) : Text :=
  if b then "true".toList else "false".toList

/-! ## On one line -/

mutual

/-- A value on one line. -/
def compact : Json → Text
  | .null => "null".toList
  | .bool b => boolean b
  | .int n => Text.ofInt n
  | .float x => x.json
  | .str s => string s
  | .arr items => '[' :: compactItems [] items ++ [']']
  | .obj members => '\x7b' :: compactMembers [] members ++ ['\x7d']

/-- The items of an array, with `before` in front of the first and a comma in front of the
others. -/
def compactItems (before : Text) : List Json → Text
  | [] => []
  | item :: items => before ++ compact item ++ compactItems [','] items

/-- The members of an object, with `before` in front of the first and a comma in front of the
others. -/
def compactMembers (before : Text) : List (Text × Json) → Text
  | [] => []
  | (key, value) :: members =>
    before ++ string key ++ ':' :: compact value ++ compactMembers [','] members

end

/-- Members behind others stand behind a comma. -/
theorem compactMembers_append (before : Text) (m : Text × Json) (ms ns : List (Text × Json)) :
    compactMembers before (m :: ms ++ ns) =
      compactMembers before (m :: ms) ++ compactMembers [','] ns := by
  obtain ⟨key, value⟩ := m
  induction ms generalizing before key value with
  | nil => simp [compactMembers]
  | cons m ms ih =>
    obtain ⟨key', value'⟩ := m
    rw [compactMembers, List.cons_append, compactMembers, ih, ← List.append_assoc]

/-! ## On many lines -/

/-- The start of a line at the given depth. -/
def newLine (depth : Nat) : Text :=
  '\n' :: List.replicate (2 * depth) ' '

mutual

/-- A value on many lines, whose own lines stand at `depth`. -/
def prettyAt (depth : Nat) : Json → Text
  | .null => "null".toList
  | .bool b => boolean b
  | .int n => Text.ofInt n
  | .float x => x.json
  | .str s => string s
  | .arr [] => ['[', ']']
  | .arr (item :: items) =>
    '[' :: prettyItems (depth + 1) [] (item :: items) ++ newLine depth ++ [']']
  | .obj [] => ['\x7b', '\x7d']
  | .obj (m :: members) =>
    '\x7b' :: prettyMembers (depth + 1) [] (m :: members) ++ newLine depth ++ ['\x7d']

/-- The items of an array, each on its own line. -/
def prettyItems (depth : Nat) (before : Text) : List Json → Text
  | [] => []
  | item :: items =>
    before ++ newLine depth ++ prettyAt depth item ++ prettyItems depth [','] items

/-- The members of an object, each on its own line. -/
def prettyMembers (depth : Nat) (before : Text) : List (Text × Json) → Text
  | [] => []
  | (key, value) :: members =>
    before ++ newLine depth ++ string key ++ ':' :: ' ' :: prettyAt depth value
      ++ prettyMembers depth [','] members

end

/-- A value on many lines. -/
def pretty (value : Json) : Text :=
  prettyAt 0 value

end TradeLine.Json
