import TradeLine.Text.Basic

/-!
# Reading bytes as text

`Utf8.decode` reads bytes as UTF-8 and never fails: each maximal run of bytes that begins a
character without finishing it becomes one replacement character, and so does each byte that
cannot begin one. The reader goes byte by byte, so what it has read so far is one small value, a
`Progress`. `Utf8.encode` is the other direction.

**Main statement**: an ASCII byte ends whatever was begun and leaves the reader at the start of a
character (`feed_of_lt`), so text can be cut at ASCII bytes before or after it is read.
-/

namespace TradeLine.Utf8

/-- Stands for bytes that spell no character. -/
def replacement : Char := '\uFFFD'

/-- Which bytes may come next inside a character: any that goes on with one, or fewer of them,
where the others would give an over-long spelling, a surrogate or a code past the last
character. -/
inductive Window
  | any
  | fromA0
  | upTo9F
  | from90
  | upTo8F
deriving DecidableEq, Repr

namespace Window

/-- The first byte of the window. -/
def low : Window → UInt8
  | .fromA0 => 0xA0
  | .from90 => 0x90
  | _ => 0x80

/-- The last byte of the window. -/
def high : Window → UInt8
  | .upTo9F => 0x9F
  | .upTo8F => 0x8F
  | _ => 0xBF

/-- Whether the byte may come next. -/
def holds (w : Window) (b : UInt8) : Bool :=
  w.low ≤ b && b ≤ w.high

/-- No ASCII byte is ever inside a character. -/
theorem holds_of_lt (w : Window) {b : UInt8} (h : b < 0x80) : w.holds b = false := by
  have hl : 0x80 ≤ w.low := by cases w <;> decide
  have : ¬ w.low ≤ b := fun hb => absurd (UInt8.le_trans hl hb) (UInt8.not_le.mpr h)
  simp [holds, this]

end Window

/-- Where the reader stands: at the start of a character, or inside one whose bytes so far spell
`code`, where the next byte has to lie in `window` and `more` bytes follow it. -/
inductive Progress
  | start
  | inside (window : Window) (more code : Nat)
deriving DecidableEq, Repr

/-- Reads a byte at the start of a character. -/
def first (b : UInt8) : Text × Progress :=
  if b < 0x80 then ([Char.ofNat b.toNat], .start)
  else if b < 0xC2 then ([replacement], .start)
  else if b < 0xE0 then ([], .inside .any 0 (b.toNat - 0xC0))
  else if b = 0xE0 then ([], .inside .fromA0 1 0)
  else if b = 0xED then ([], .inside .upTo9F 1 0xD)
  else if b < 0xF0 then ([], .inside .any 1 (b.toNat - 0xE0))
  else if b = 0xF0 then ([], .inside .from90 2 0)
  else if b < 0xF4 then ([], .inside .any 2 (b.toNat - 0xF0))
  else if b = 0xF4 then ([], .inside .upTo8F 2 4)
  else ([replacement], .start)

/-- What is left to write when the bytes end: a character that was begun is replaced. -/
def finish : Progress → Text
  | .start => []
  | .inside .. => [replacement]

/-- Reads one byte. A byte that does not go on with the character at hand ends it in a
replacement and is read again as the start of the next. -/
def feed : Progress → UInt8 → Text × Progress
  | .start, b => first b
  | .inside window more code, b =>
    if window.holds b then
      match more with
      | 0 => ([Char.ofNat (code * 64 + (b.toNat - 0x80))], .start)
      | more + 1 => ([], .inside .any more (code * 64 + (b.toNat - 0x80)))
    else (replacement :: (first b).1, (first b).2)

/-- The text that the bytes spell, read on from `p`. -/
def decodeFrom (p : Progress) : List UInt8 → Text
  | [] => finish p
  | b :: bs => (feed p b).1 ++ decodeFrom (feed p b).2 bs

/-- The text that the bytes spell. -/
def decode (bytes : List UInt8) : Text :=
  decodeFrom .start bytes

/-- An ASCII byte ends whatever was begun and spells itself. -/
theorem feed_of_lt (p : Progress) {b : UInt8} (h : b < 0x80) :
    feed p b = (finish p ++ [Char.ofNat b.toNat], .start) := by
  cases p with
  | start => simp [feed, first, finish, h]
  | inside window more code => simp [feed, first, finish, h, window.holds_of_lt h]

/-- The bytes that spell a text. -/
def encode (s : Text) : List UInt8 :=
  s.flatMap String.utf8EncodeChar

@[simp] theorem decode_nil : decode [] = [] := rfl

@[simp] theorem encode_nil : encode [] = [] := rfl

@[simp] theorem encode_cons (c : Char) (s : Text) :
    encode (c :: s) = String.utf8EncodeChar c ++ encode s := by
  simp [encode]

/-- Over-long spellings, surrogates and codes past the last character spell nothing, byte by
byte; a character that breaks off spells one replacement. -/
example :
    decode [0x41, 0xC0, 0x80] = ['A', replacement, replacement] ∧
    decode [0xED, 0xA0, 0x80] = [replacement, replacement, replacement] ∧
    decode [0xF0, 0x9F, 0x9A, 0x42] = [replacement, 'B'] ∧
    decode [0xF0, 0x9F, 0x9A, 0x80] = ['🚀'] := by
  decide

end TradeLine.Utf8
