import Mathlib.Data.List.DropRight
import Mathlib.Data.List.TakeWhile
import TradeLine.Text.Basic

/-!
# Runs of characters of one class

A line is read by cutting off the longest run of one class after another. `Run p s` says that all
of `s` is of the class `p`, and `Stops p s` that `s` does not begin with that class. A run before
a text that stops it is exactly what `takeWhile` cuts off and `dropWhile` leaves
(`takeWhile_run`, `dropWhile_run`).

The second half keeps the classes of a line apart: letters and digits are not blank, and the sign,
the point and the percent mark are neither. A text without blanks is its own trimmed text
(`trim_eq_self`), and blanks at its ends never count (`trim_append_blanks`).
-/

namespace TradeLine.Text

/-! ## Runs -/

/-- All characters are of the class. -/
def Run (p : Char → Bool) (s : Text) : Prop :=
  ∀ c ∈ s, p c = true

/-- The text is empty or begins with a character that is not of the class. -/
def Stops (p : Char → Bool) (s : Text) : Prop :=
  ∀ c, s.head? = some c → p c = false

variable {p q : Char → Bool} {run rest s : Text} {c : Char}

@[simp] theorem run_nil : Run p [] := by
  simp [Run]

@[simp] theorem run_cons : Run p (c :: s) ↔ p c = true ∧ Run p s := by
  simp [Run]

@[simp] theorem run_append : Run p (run ++ rest) ↔ Run p run ∧ Run p rest := by
  simp [Run, or_imp, forall_and]

@[simp] theorem stops_nil : Stops p [] := by
  simp [Stops]

@[simp] theorem stops_cons : Stops p (c :: s) ↔ p c = false := by
  simp [Stops]

theorem all_eq_true_iff_run : s.all p = true ↔ Run p s := by
  simp [Run]

/-- A run of another class stops a class, and so does an empty run before a text that does. -/
theorem Run.stops_append (h : Run q run) (hpq : ∀ c, q c = true → p c = false)
    (hrest : Stops p rest) : Stops p (run ++ rest) := by
  cases run with
  | nil => exact hrest
  | cons c run => exact stops_cons.mpr (hpq c (run_cons.mp h).1)

theorem takeWhile_run (h : Run p run) (hrest : Stops p rest) :
    (run ++ rest).takeWhile p = run := by
  have hstop : rest.takeWhile p = [] := by
    cases rest with
    | nil => rfl
    | cons c rest => simp [stops_cons.mp hrest]
  rw [List.takeWhile_append_of_pos h, hstop, List.append_nil]

theorem dropWhile_run (h : Run p run) (hrest : Stops p rest) :
    (run ++ rest).dropWhile p = rest := by
  rw [List.dropWhile_append_of_pos h]
  cases rest with
  | nil => rfl
  | cons c rest => simp [stops_cons.mp hrest]

theorem run_takeWhile (p : Char → Bool) (s : Text) : Run p (s.takeWhile p) :=
  fun _ hc => List.mem_takeWhile_imp hc

theorem trimStart_blanks (h : Run isBlank run) (hrest : Stops isBlank rest) :
    trimStart (run ++ rest) = rest :=
  dropWhile_run h hrest

/-! ## Classes by code point -/

theorem isDigit_iff : c.isDigit = true ↔ 48 ≤ c.toNat ∧ c.toNat ≤ 57 := by
  simp [Char.isDigit, UInt32.le_iff_toNat_le]

theorem isUpper_iff : c.isUpper = true ↔ 65 ≤ c.toNat ∧ c.toNat ≤ 90 := by
  change decide (65 ≤ c.val ∧ c.val ≤ 90) = true ↔ _
  simp [UInt32.le_iff_toNat_le]

theorem isLower_iff : c.isLower = true ↔ 97 ≤ c.toNat ∧ c.toNat ≤ 122 := by
  change (decide (97 ≤ c.val) && decide (c.val ≤ 122)) = true ↔ _
  simp [UInt32.le_iff_toNat_le]

theorem isAlpha_iff :
    c.isAlpha = true ↔ (65 ≤ c.toNat ∧ c.toNat ≤ 90) ∨ (97 ≤ c.toNat ∧ c.toNat ≤ 122) := by
  change (c.isUpper || c.isLower) = true ↔ _
  rw [Bool.or_eq_true, isUpper_iff, isLower_iff]

theorem isAlphanum_iff : c.isAlphanum = true ↔ c.isAlpha = true ∨ c.isDigit = true := by
  simp [Char.isAlphanum]

/-- Letters and digits are not blank. -/
theorem not_isBlank_of_isAlphanum (h : c.isAlphanum = true) : isBlank c = false := by
  rw [isAlphanum_iff, isAlpha_iff, isDigit_iff] at h
  simp only [isBlank, inRanges, blankRanges, List.any_cons, List.any_nil, Bool.or_false,
    Bool.or_eq_false_iff, Bool.and_eq_false_iff, decide_eq_false_iff_not]
  omega

theorem not_isBlank_of_isAlpha (h : c.isAlpha = true) : isBlank c = false :=
  not_isBlank_of_isAlphanum (isAlphanum_iff.mpr (.inl h))

theorem not_isBlank_of_isDigit (h : c.isDigit = true) : isBlank c = false :=
  not_isBlank_of_isAlphanum (isAlphanum_iff.mpr (.inr h))

/-- No letter is a digit. -/
theorem not_isDigit_of_isAlpha (h : c.isAlpha = true) : c.isDigit = false := by
  rw [isAlpha_iff] at h
  rw [Bool.eq_false_iff, ne_eq, isDigit_iff]
  omega

/-- No blank is a letter or a digit. -/
theorem not_isAlphanum_of_isBlank (h : isBlank c = true) : c.isAlphanum = false := by
  by_contra hc
  rw [Bool.not_eq_false] at hc
  rw [not_isBlank_of_isAlphanum hc] at h
  cases h

/-- No blank is a digit. -/
theorem not_isDigit_of_isBlank (h : isBlank c = true) : c.isDigit = false := by
  have := not_isAlphanum_of_isBlank h
  simp only [Char.isAlphanum, Bool.or_eq_false_iff] at this
  exact this.2

/-- Lower case leaves all but the upper-case letters as they are. -/
theorem toLower_eq_self (h : ¬ (65 ≤ c.toNat ∧ c.toNat ≤ 90)) : c.toLower = c := by
  refine dif_neg ?_
  rw [ge_iff_le, UInt32.le_iff_toNat_le, UInt32.le_iff_toNat_le]
  exact h

/-! ## Trimming -/

/-- A text with no blank at either end is its own trimmed text. -/
theorem trim_of_stops (h : Stops isBlank s) (h' : Stops isBlank s.reverse) : trim s = s := by
  have hstart : trimStart s = s := trimStart_blanks run_nil h
  have hend : s.reverse.dropWhile isBlank = s.reverse := dropWhile_run run_nil h'
  rw [trim, hstart, trimEnd, hend, List.reverse_reverse]

/-- A text that begins without blanks does not begin with one. -/
theorem stops_of_not_isBlank (hne : s ≠ []) (h : ∀ c ∈ s, isBlank c = false) (rest : Text) :
    Stops isBlank (s ++ rest) := by
  cases s with
  | nil => exact absurd rfl hne
  | cons c s => exact stops_cons.mpr (h c List.mem_cons_self)

/-- A text that ends without blanks does not end with one. -/
theorem stops_reverse_of_not_isBlank (hne : s ≠ []) (h : ∀ c ∈ s, isBlank c = false)
    (front : Text) : Stops isBlank (front ++ s).reverse := by
  rw [List.reverse_append]
  apply stops_of_not_isBlank
  · rwa [ne_eq, List.reverse_eq_nil_iff]
  · intro c hc
    exact h c (List.mem_reverse.mp hc)

/-- A text without blanks is its own trimmed text. -/
theorem trim_eq_self (h : ∀ c ∈ s, isBlank c = false) : trim s = s := by
  by_cases hne : s = []
  · rw [hne]
    rfl
  · apply trim_of_stops
    · have := stops_of_not_isBlank hne h []
      rwa [List.append_nil] at this
    · exact stops_reverse_of_not_isBlank hne h []

/-- Blanks at the ends are all that trimming takes off. -/
theorem exists_blanks_trim (s : Text) :
    ∃ w w', Run isBlank w ∧ Run isBlank w' ∧ s = w ++ trim s ++ w' := by
  refine ⟨s.takeWhile isBlank, (trimStart s).rtakeWhile isBlank, run_takeWhile _ _, ?_, ?_⟩
  · intro c hc
    exact List.mem_rtakeWhile_imp hc
  · have hend : trim s ++ (trimStart s).rtakeWhile isBlank = trimStart s :=
      List.rdropWhile_append_rtakeWhile
    rw [List.append_assoc, hend, trimStart, List.takeWhile_append_dropWhile]

/-- Only blanks trim to nothing. -/
theorem trim_eq_nil_iff : trim s = [] ↔ Run isBlank s := by
  constructor
  · intro h
    obtain ⟨w, w', hw, hw', hs⟩ := exists_blanks_trim s
    rw [hs, h, List.append_nil, run_append]
    exact ⟨hw, hw'⟩
  · intro h
    rw [trim, trimStart, List.dropWhile_eq_nil_iff.mpr h]
    rfl

/-- Blanks behind a text do not count. -/
theorem trimEnd_append_blanks {w : Text} (h : Run isBlank w) : trimEnd (s ++ w) = trimEnd s := by
  have hrev : ∀ c ∈ w.reverse, isBlank c = true := by
    intro c hc
    exact h c (List.mem_reverse.mp hc)
  rw [trimEnd, List.reverse_append, List.dropWhile_append_of_pos hrev, trimEnd]

/-- Blanks at the ends do not count. -/
theorem trim_append_blanks {w w' : Text} (hw : Run isBlank w) (hw' : Run isBlank w') :
    trim (w ++ s ++ w') = trim s := by
  rw [trim, List.append_assoc, trimStart, List.dropWhile_append_of_pos hw, List.dropWhile_append]
  by_cases hs : Run isBlank s
  · have hdrop : s.dropWhile isBlank = [] := List.dropWhile_eq_nil_iff.mpr hs
    have hdrop' : w'.dropWhile isBlank = [] := List.dropWhile_eq_nil_iff.mpr hw'
    simp [trim, trimStart, hdrop, hdrop']
  · have hdrop : (s.dropWhile isBlank).isEmpty = false := by
      rw [Bool.eq_false_iff, ne_eq, List.isEmpty_iff, List.dropWhile_eq_nil_iff]
      exact hs
    rw [hdrop, if_neg Bool.false_ne_true, trimEnd_append_blanks hw', trim, trimStart]

/-- A trimmed text has nothing left to trim. -/
theorem trim_trim (s : Text) : trim (trim s) = trim s := by
  obtain ⟨w, w', hw, hw', hs⟩ := exists_blanks_trim s
  calc trim (trim s)
    _ = trim (w ++ trim s ++ w') := (trim_append_blanks hw hw').symm
    _ = trim s := by rw [← hs]

end TradeLine.Text
