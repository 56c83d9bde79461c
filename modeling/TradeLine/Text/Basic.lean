/-!
# Text

Text is a list of characters: a line is cut, trimmed and put together again character by
character, and every law about it is a law about lists. The boundary with `String` is left to
the command line.

**Blank** characters are those with the property White_Space; `Text.trim` takes them off both
ends. `cutAt` splits a list at a mark, the way a file is split into lines.

**Main statement**: a mark ends the pieces before it, whatever follows (`cutAt_append_mark`), so
what comes after a line feed has no bearing on the lines before it.
-/

namespace TradeLine

/-- A text, character by character. -/
abbrev Text := List Char

namespace Text

/-! ## Blank characters -/

/-- The code points with the property White_Space, as ranges. -/
def blankRanges : List (Nat × Nat) :=
  [(0x09, 0x0D), (0x20, 0x20), (0x85, 0x85), (0xA0, 0xA0), (0x1680, 0x1680), (0x2000, 0x200A),
   (0x2028, 0x2029), (0x202F, 0x202F), (0x205F, 0x205F), (0x3000, 0x3000)]

/-- Whether a code point lies in one of the ranges. -/
def inRanges (ranges : List (Nat × Nat)) (code : Nat) : Bool :=
  ranges.any fun range => range.1 ≤ code && code ≤ range.2

/-- A blank character: one with the property White_Space. -/
def isBlank (c : Char) : Bool :=
  inRanges blankRanges c.toNat

/-- The text without the blanks it begins with. -/
def trimStart (s : Text) : Text :=
  s.dropWhile isBlank

/-- The text without the blanks it ends with. -/
def trimEnd (s : Text) : Text :=
  (s.reverse.dropWhile isBlank).reverse

/-- The text without the blanks at either end. -/
def trim (s : Text) : Text :=
  trimEnd (trimStart s)

@[simp] theorem trim_nil : trim [] = [] := rfl

/-! ## Padding -/

/-- The text with spaces in front, at least `width` characters long. -/
def padLeft (width : Nat) (s : Text) : Text :=
  List.replicate (width - s.length) ' ' ++ s

/-- The text with spaces behind, at least `width` characters long. -/
def padRight (width : Nat) (s : Text) : Text :=
  s ++ List.replicate (width - s.length) ' '

/-! ## Numbers in text -/

/-- A natural number in decimal digits. -/
def ofNat (n : Nat) : Text :=
  Nat.toDigits 10 n

/-- An integer in decimal digits, with a minus sign when it is below zero. -/
def ofInt (n : Int) : Text :=
  if n < 0 then '-' :: ofNat n.natAbs else ofNat n.natAbs

/-! ## Letter case -/

/-- ASCII letters in lower case, all other characters as they are. -/
def lower (s : Text) : Text :=
  s.map Char.toLower

@[simp] theorem length_lower (s : Text) : (lower s).length = s.length := by
  simp [lower]

end Text

/-! ## Cutting at a mark -/

/-- The pieces of a list between occurrences of `mark`. A mark ends the piece before it, so
nothing follows a mark at the very end. -/
def cutAt {α : Type} [DecidableEq α] (mark : α) : List α → List (List α)
  | [] => []
  | x :: xs =>
    if x = mark then [] :: cutAt mark xs
    else
      match cutAt mark xs with
      | [] => [[x]]
      | piece :: pieces => (x :: piece) :: pieces

@[simp] theorem cutAt_nil {α : Type} [DecidableEq α] (mark : α) : cutAt mark [] = [] := rfl

/-- A mark in front gives an empty piece in front. -/
@[simp] theorem cutAt_mark_cons {α : Type} [DecidableEq α] (mark : α) (xs : List α) :
    cutAt mark (mark :: xs) = [] :: cutAt mark xs := by
  simp [cutAt]

/-- Only the empty list has no pieces. -/
theorem cutAt_eq_nil_iff {α : Type} [DecidableEq α] {mark : α} {xs : List α} :
    cutAt mark xs = [] ↔ xs = [] := by
  cases xs with
  | nil => simp
  | cons x xs =>
    simp only [cutAt, reduceCtorEq, iff_false]
    split
    · simp
    · split <;> simp

/-- A mark ends the pieces before it, whatever follows. -/
theorem cutAt_append_mark {α : Type} [DecidableEq α] (mark : α) (xs ys : List α) :
    cutAt mark (xs ++ mark :: ys) = cutAt mark (xs ++ [mark]) ++ cutAt mark ys := by
  induction xs with
  | nil => simp
  | cons x xs ih =>
    by_cases h : x = mark
    · subst h
      simp [ih]
    · simp only [List.cons_append, cutAt, h, if_false, ih]
      cases hc : cutAt mark (xs ++ [mark]) with
      | nil => simp [cutAt_eq_nil_iff] at hc
      | cons piece pieces => simp

end TradeLine
