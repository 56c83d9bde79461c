import TradeLine.Text.Basic

/-!
# Request identifiers

Every run has a name of its own, so that its output and its log can be put side by side: a random
UUID of version 4, in five groups of hexadecimal digits.
-/

namespace TradeLine.RequestId

/-- The lowest `width` hexadecimal digits of a number. -/
def hex : (width : Nat) → Nat → Text
  | 0, _ => []
  | width + 1, n => hex width (n / 16) ++ [(n % 16).digitChar]

/-- The identifier made of 122 random bits; the version and the variant take the other six. -/
def ofRandom (bits : Nat) : Text :=
  hex 8 bits ++ '-' :: hex 4 (bits >>> 32) ++ '-' :: '4' :: hex 3 (bits >>> 48) ++ '-' ::
    hex 4 (0x8000 + (bits >>> 60) % 0x4000) ++ '-' :: hex 12 (bits >>> 74)

end TradeLine.RequestId
