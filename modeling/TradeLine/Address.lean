import TradeLine.Invalid

/-!
# Addresses

An address belongs to one of two **families** by its looks alone: `0x` and forty hexadecimal
digits, or thirty-two to forty-four characters of the Base58 alphabet. The family settles the
chain; a text of neither family has no known chain. An `Address` is a text together with the
family it was found to be of.
-/

namespace TradeLine

/-- The chain that an address belongs to. -/
inductive Chain
  | bsc
  | sol
  | unknown
deriving DecidableEq, Repr

/-- The two kinds of address, told apart by their characters. -/
inductive Family
  | evm
  | base58
deriving DecidableEq, Repr

namespace Family

/-- The families, in the order in which they are listed to a user. -/
def all : List Family :=
  [.evm, .base58]

/-- The family's name in reports. -/
def name : Family → Text
  | .evm => "evm".toList
  | .base58 => "base58".toList

/-- The chain of the family's addresses. -/
def chain : Family → Chain
  | .evm => .bsc
  | .base58 => .sol

/-! ## Shapes -/

/-- A hexadecimal digit of either case. -/
def isHexDigit (c : Char) : Bool :=
  c.isDigit || ('a' ≤ c && c ≤ 'f') || ('A' ≤ c && c ≤ 'F')

/-- A character of the Base58 alphabet: an ASCII letter or digit that is not easily taken for
another. -/
def isBase58Char (c : Char) : Bool :=
  c.isAlphanum && c != '0' && c != 'O' && c != 'I' && c != 'l'

/-- `0x` and forty hexadecimal digits. -/
def isEvmShape : Text → Bool
  | '0' :: 'x' :: digits => digits.length == 40 && digits.all isHexDigit
  | _ => false

/-- Thirty-two to forty-four Base58 characters. -/
def isBase58Shape (s : Text) : Bool :=
  32 ≤ s.length && s.length ≤ 44 && s.all isBase58Char

/-- The family that a text looks like. -/
def classify (s : Text) : Option Family :=
  if isEvmShape s then some .evm else if isBase58Shape s then some .base58 else none

end Family

namespace Chain

/-- The chains, in the order in which they are listed to a user. -/
def all : List Chain :=
  [.bsc, .sol, .unknown]

/-- The chain's name in reports. -/
def name : Chain → Text
  | .bsc => "bsc".toList
  | .sol => "sol".toList
  | .unknown => "unknown".toList

/-- The chain that a text's looks point to. -/
def detect (s : Text) : Chain :=
  match Family.classify s with
  | some family => family.chain
  | none => .unknown

end Chain

/-- A text of one of the two families, kept letter for letter. -/
structure Address where
  text : Text
  family : Family
  classified : Family.classify text = some family
deriving DecidableEq, Repr

namespace Address

/-- The text as an address, if it belongs to a family. -/
def ofText (s : Text) : Except Invalid Address :=
  match h : Family.classify s with
  | some family => .ok ⟨s, family, h⟩
  | none => .error (.address s)

/-- The chain of the address. -/
def chain (a : Address) : Chain :=
  a.family.chain

theorem ofText_text (a : Address) : ofText a.text = .ok a := by
  obtain ⟨text, family, h⟩ := a
  unfold ofText
  split
  · next f hf =>
    obtain rfl : f = family := Option.some.inj (hf.symm.trans h)
    rfl
  · next hn => exact absurd (hn.symm.trans h) (by simp)

theorem ofText_eq_error_iff {s : Text} {e : Invalid} :
    ofText s = .error e ↔ Family.classify s = none ∧ e = .address s := by
  unfold ofText
  split
  · next h => simp [h]
  · next h => simp [h, eq_comm]

theorem text_of_ofText {s : Text} {a : Address} (h : ofText s = .ok a) : a.text = s := by
  unfold ofText at h
  split at h
  · cases h; rfl
  · cases h

theorem chain_eq_detect (a : Address) : a.chain = Chain.detect a.text := by
  simp [chain, Chain.detect, a.classified]

end Address

end TradeLine
