import TradeLine.Action
import TradeLine.Invalid

/-!
# Unit names

The unit of an amount is a name in lower-case letters. Which names mean something is not decided
here: any run of ASCII letters serves, and letter case does not matter.
-/

namespace TradeLine

/-- A non-empty name in the letters `a` to `z`. -/
structure UnitName where
  text : Text
  ne_nil : text ≠ []
  all_lower : text.all Char.isLower = true
deriving DecidableEq, Repr

namespace UnitName

/-- Lower case turns an ASCII letter into a lower-case letter. -/
theorem isLower_toLower_ofNat :
    ∀ n, n < 128 → (Char.ofNat n).isAlpha = true → (Char.ofNat n).toLower.isLower = true := by
  decide

/-- Letters are ASCII. -/
theorem toNat_lt_of_isAlpha {c : Char} (h : c.isAlpha = true) : c.toNat < 128 := by
  rcases (Bool.or_eq_true c.isUpper c.isLower).mp h with hu | hl
  · have hz : c.val ≤ 'Z'.val := (of_decide_eq_true hu).2
    exact Nat.lt_of_le_of_lt (UInt32.le_iff_toNat_le.mp hz) (by decide)
  · have hz : c.val ≤ 'z'.val := of_decide_eq_true ((Bool.and_eq_true _ _).mp hl).2
    exact Nat.lt_of_le_of_lt (UInt32.le_iff_toNat_le.mp hz) (by decide)

/-- Lower case turns a letter into a lower-case letter. -/
theorem isLower_toLower {c : Char} (h : c.isAlpha = true) : c.toLower.isLower = true := by
  have := isLower_toLower_ofNat c.toNat (toNat_lt_of_isAlpha h)
  rw [Char.ofNat_toNat] at this
  exact this h

/-- The name that a run of letters of any case stands for. -/
def ofText (s : Text) : Except Invalid UnitName :=
  if h : s ≠ [] ∧ s.all Char.isAlpha = true then
    .ok ⟨Text.lower s, by simp [Text.lower, h.1], by
      simp only [Text.lower, List.all_map, List.all_eq_true] at h ⊢
      exact fun c hc => isLower_toLower (h.2 c hc)⟩
  else .error (.unit s)

/-- The name that a line writes, where an empty one means the action's own unit, if it has one. -/
def normalize (s : Text) (action : Action) : Except Invalid UnitName :=
  match s, action.defaultUnit? with
  | [], some unit => ofText unit
  | s, _ => ofText s

end UnitName

end TradeLine
