import TradeLine.Decimal.Binary64

/-!
# The shortest decimal of a number

`shortest` writes a magnitude with the fewest digits that still read back as it. The decimals
that round to a magnitude fill an interval around its number, from the middle to the number before
up to the middle to the number after; a middle belongs to the even one of its two magnitudes.

The decimal grids `10^g` are tried from coarse to fine. On each only the two neighbours of the
number matter, since a grid that has a point in the interval has a neighbour in it. Of two
neighbours in the interval the nearer one is taken, and a `Tie` decides between equals. Should no
grid serve, the exact expansion does.
-/

namespace TradeLine

/-- Which of two equally near decimals to take. -/
inductive Tie
  | up
  | even
deriving DecidableEq, Repr

namespace Binary64

/-- The power of ten that the first digit of a positive magnitude's number counts. -/
def leadingExponent (k : Nat) : Int :=
  (Nat.toDigits 10 (units k * Nat.pow 10 400 / unitsPerOne)).length - 401

/-- Whether the decimal `c * 10^g` rounds to the magnitude `k`: it lies between the middles to the
numbers before and after, or on one of them when `k` is even. -/
def roundsTo (k : Nat) (c : Nat) (g : Int) : Bool :=
  let point := 2 * c * unitsPerOne * Nat.pow 10 g.toNat
  let low := (units (k - 1) + units k) * Nat.pow 10 (-g).toNat
  let high := (units k + units (k + 1)) * Nat.pow 10 (-g).toNat
  if k % 2 = 0 then low ≤ point && point ≤ high else low < point && point < high

/-- The multiple of `10^g` just at or below the number of `k`. -/
def gridBelow (k : Nat) (g : Int) : Nat :=
  units k * Nat.pow 10 (-g).toNat / (unitsPerOne * Nat.pow 10 g.toNat)

/-- How the number of `k` compares with the middle between the multiple `c` of `10^g` and the
next one. -/
def compareMiddle (k c : Nat) (g : Int) : Ordering :=
  compare (2 * units k * Nat.pow 10 (-g).toNat) ((2 * c + 1) * (unitsPerOne * Nat.pow 10 g.toNat))

/-- The multiple of `10^g` to write the magnitude `k` with, if one of its two neighbours rounds
to it. -/
def onGrid (tie : Tie) (k : Nat) (g : Int) : Option Nat :=
  let below := gridBelow k g
  match roundsTo k below g, roundsTo k (below + 1) g with
  | false, false => none
  | true, false => some below
  | false, true => some (below + 1)
  | true, true =>
    match compareMiddle k below g, tie with
    | .lt, _ => some below
    | .gt, _ => some (below + 1)
    | .eq, .up => some (below + 1)
    | .eq, .even => if below % 2 = 0 then some below else some (below + 1)

/-- The number of a magnitude with all its digits. -/
def exactDecimal (k : Nat) : Decimal :=
  .ofCoefficient (units k * Nat.pow 5 1074) (-1074)

/-- The decimal with `n + 1` digits that rounds to `k`, where the first digit counts `10^e`. -/
def withDigits (tie : Tie) (k : Nat) (e : Int) (n : Nat) : Option Decimal :=
  (onGrid tie k (e - n)).map fun c => .ofCoefficient c (e - n)

/-- The decimal with the fewest digits that rounds to a finite magnitude, without zeros at its
end; zero is the digit `0`. Seventeen digits are always enough. -/
def shortest (tie : Tie) (k : Nat) : Decimal :=
  if k = 0 then ⟨['0'], 0⟩
  else
    match (List.range 17).findSome? (withDigits tie k (leadingExponent k)) with
    | some d => d.reduced
    | none => (exactDecimal k).reduced

end Binary64

end TradeLine
