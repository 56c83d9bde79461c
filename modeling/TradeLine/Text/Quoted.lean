import TradeLine.Text.Hidden

/-!
# Quoted text

Messages and log lines show a text between double quotes, so that its ends and every character in
it can be seen. The quote and the backslash get a backslash, four controls have a letter of their
own, and any other character that does not show is written by its code point.
-/

namespace TradeLine.Text

/-- A character by its code point, in lower-case hexadecimal between braces. -/
def codePoint (c : Char) : Text :=
  '\\' :: 'u' :: '\x7b' :: Nat.toDigits 16 c.toNat ++ ['\x7d']

/-- How one character is written between quotes. -/
def quotedChar (c : Char) : Text :=
  if c = '\x00' then ['\\', '0']
  else if c = '\t' then ['\\', 't']
  else if c = '\r' then ['\\', 'r']
  else if c = '\n' then ['\\', 'n']
  else if c = '"' then ['\\', '"']
  else if c = '\\' then ['\\', '\\']
  else if isHidden c then codePoint c
  else [c]

/-- A text between double quotes, with every character in it shown. -/
def quoted (s : Text) : Text :=
  '"' :: s.flatMap quotedChar ++ ['"']

example : quoted ['a', '"', '\n', '\x07'] = "\"a\\\"\\n\\u\x7b7\x7d\"".toList := by
  decide +kernel

end TradeLine.Text
