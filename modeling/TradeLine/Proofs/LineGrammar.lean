import TradeLine.Address
import TradeLine.Line.Form
import TradeLine.Proofs.Runs
import Mathlib.Data.Set.Subsingleton

/-!
# The grammar of a line

`Form.ofLine?` finds the parts of a line by cutting off runs. Here the grammar stands on its own:

* `IsLooseAddress` — thirty-two to forty-four ASCII letters and digits;
* `IsLiteral` — digits, perhaps with a point and more digits;
* `TradeLayout` — the parts of a trade together with the blanks between them, its `text`, and
  `WellFormed`, which says of each part what it may be made of.

**Main statement** (`ofLine?_grammar`): a line has a form exactly when its trimmed text is written
by the grammar, the form holds the parts of the only layout that writes it, and blanks included
there is no second one.
-/

namespace TradeLine

open Text

/-! ## The grammar -/

/-- Thirty-two to forty-four ASCII letters and digits. -/
structure IsLooseAddress (s : Text) : Prop where
  le_length : 32 ≤ s.length
  length_le : s.length ≤ 44
  alphanumeric : Run Char.isAlphanum s

/-- One or more digits. -/
structure IsDigits (s : Text) : Prop where
  ne_nil : s ≠ []
  digits : Run Char.isDigit s

/-- A number as a line writes it: digits, perhaps with a point and more digits. -/
inductive IsLiteral : Text → Prop
  | whole {s : Text} : IsDigits s → IsLiteral s
  | point {s t : Text} : IsDigits s → IsDigits t → IsLiteral (s ++ '.' :: t)

/-- The percent mark, where there is one. -/
def percentMark (percent : Bool) : Text :=
  if percent then ['%'] else []

/-- A trade as written: its parts, and the blanks around the sign and before the unit. -/
@[ext]
structure TradeLayout where
  parts : TradeForm
  beforeSign : Text
  afterSign : Text
  beforeUnit : Text

namespace TradeLayout

/-- What follows the number. -/
def unitText (l : TradeLayout) : Text :=
  percentMark l.parts.percent ++ l.beforeUnit ++ l.parts.unit

/-- What follows the sign. -/
def amountText (l : TradeLayout) : Text :=
  l.afterSign ++ l.parts.value ++ l.unitText

/-- The whole line. -/
def text (l : TradeLayout) : Text :=
  l.parts.address ++ l.beforeSign ++ l.parts.side.operator :: l.amountText

/-- Each part is made of what the grammar allows there. -/
structure WellFormed (l : TradeLayout) : Prop where
  address : IsLooseAddress l.parts.address
  value : IsLiteral l.parts.value
  unit : Run Char.isAlpha l.parts.unit
  beforeSign : Run isBlank l.beforeSign
  afterSign : Run isBlank l.afterSign
  beforeUnit : Run isBlank l.beforeUnit

end TradeLayout

/-! ## Where the parts stop each other -/

theorem Side.operator_class (side : Side) :
    isBlank side.operator = false ∧ side.operator.isAlphanum = false := by
  cases side <;> decide

theorem IsDigits.exists_cons {s : Text} (h : IsDigits s) :
    ∃ c t, s = c :: t ∧ c.isDigit = true := by
  cases s with
  | nil => exact absurd rfl h.ne_nil
  | cons c t => exact ⟨c, t, rfl, (run_cons.mp h.digits).1⟩

/-- A number begins with a digit. -/
theorem IsLiteral.exists_cons {v : Text} (h : IsLiteral v) :
    ∃ c t, v = c :: t ∧ c.isDigit = true := by
  cases h with
  | whole h => exact h.exists_cons
  | @point s t hs ht =>
    obtain ⟨c, s, rfl, hc⟩ := hs.exists_cons
    exact ⟨c, s ++ '.' :: t, rfl, hc⟩

/-- A number is not blank at its start, so it ends a run of blanks. -/
theorem IsLiteral.stops_blanks {v : Text} (h : IsLiteral v) (rest : Text) :
    Stops isBlank (v ++ rest) := by
  obtain ⟨c, t, rfl, hc⟩ := h.exists_cons
  exact stops_cons.mpr (not_isBlank_of_isDigit hc)

/-- Letters end a run of blanks. -/
theorem stops_blanks_of_letters {u : Text} (h : Run Char.isAlpha u) : Stops isBlank u := by
  have := h.stops_append (fun _ => not_isBlank_of_isAlpha) (stops_nil (p := isBlank))
  rwa [List.append_nil] at this

/-- Blanks and letters stop every class that has neither. -/
theorem stops_blanks_letters {p : Char → Bool} {w u : Text} (hw : Run isBlank w)
    (hu : Run Char.isAlpha u) (hblank : ∀ c, isBlank c = true → p c = false)
    (hletter : ∀ c, c.isAlpha = true → p c = false) : Stops p (w ++ u) := by
  have hstop : Stops p (u ++ []) := hu.stops_append hletter stops_nil
  rw [List.append_nil] at hstop
  exact hw.stops_append hblank hstop

/-- What follows the number begins with none of its characters. -/
theorem stops_unitText {p : Char → Bool} {percent : Bool} {w u : Text} (hw : Run isBlank w)
    (hu : Run Char.isAlpha u) (hmark : p '%' = false)
    (hblank : ∀ c, isBlank c = true → p c = false)
    (hletter : ∀ c, c.isAlpha = true → p c = false) :
    Stops p (percentMark percent ++ w ++ u) := by
  cases percent with
  | true => exact stops_cons.mpr hmark
  | false => exact stops_blanks_letters hw hu hblank hletter

/-- A character outside a class is none of the class. -/
theorem beq_eq_false_of_class {p : Char → Bool} {c mark : Char} (hmark : p mark = false)
    (h : p c = true) : (c == mark) = false := by
  rw [beq_eq_false_iff_ne]
  rintro rfl
  rw [hmark] at h
  cases h

/-! ## Reading the parts -/

namespace Form

variable {s rest v u w : Text} {percent : Bool}

/-- After a percent mark come blanks and letters. -/
theorem unitPart?_percent (s : Text) :
    unitPart? ('%' :: s) =
      if (trimStart s).all Char.isAlpha then some (true, trimStart s) else none := by
  simp [unitPart?]

/-- Without a percent mark the blanks and letters come at once. -/
theorem unitPart?_of_stops (h : Stops (· == '%') s) :
    unitPart? s = if (trimStart s).all Char.isAlpha then some (false, trimStart s) else none := by
  have hmark : (s.head? == some '%') = false := by
    rw [beq_eq_false_iff_ne]
    intro hs
    exact absurd (h _ hs) (by decide)
  simp only [unitPart?, hmark, Bool.false_eq_true, if_false]

/-- Percent mark, blanks and letters are read back. -/
theorem unitPart?_text (hw : Run isBlank w) (hu : Run Char.isAlpha u) :
    unitPart? (percentMark percent ++ w ++ u) = some (percent, u) := by
  have htrim : trimStart (w ++ u) = u := trimStart_blanks hw (stops_blanks_of_letters hu)
  have hall : u.all Char.isAlpha = true := all_eq_true_iff_run.mpr hu
  cases percent with
  | true =>
    show unitPart? ('%' :: (w ++ u)) = _
    rw [unitPart?_percent, htrim, if_pos hall]
  | false =>
    have hhead : Stops (· == '%') (w ++ u) :=
      stops_blanks_letters hw hu (fun _ => beq_eq_false_of_class (by decide))
        (fun _ => beq_eq_false_of_class (by decide))
    show unitPart? (w ++ u) = _
    rw [unitPart?_of_stops hhead, htrim, if_pos hall]

/-- What is read after the number is a percent mark or none, blanks and letters. -/
theorem exists_of_unitPart? (h : unitPart? s = some (percent, u)) :
    ∃ w, Run isBlank w ∧ Run Char.isAlpha u ∧ s = percentMark percent ++ w ++ u := by
  by_cases hs : Stops (· == '%') s
  · rw [unitPart?_of_stops hs, Option.ite_none_right_eq_some] at h
    obtain ⟨hall, heq⟩ := h
    cases heq
    exact ⟨s.takeWhile isBlank, run_takeWhile _ _, all_eq_true_iff_run.mp hall,
      List.takeWhile_append_dropWhile.symm⟩
  · obtain ⟨s, rfl⟩ : ∃ t, s = '%' :: t := by
      cases s with
      | nil => exact absurd stops_nil hs
      | cons c t => exact ⟨t, by simpa using hs⟩
    rw [unitPart?_percent, Option.ite_none_right_eq_some] at h
    obtain ⟨hall, heq⟩ := h
    cases heq
    refine ⟨s.takeWhile isBlank, run_takeWhile _ _, all_eq_true_iff_run.mp hall, ?_⟩
    show '%' :: s = '%' :: (s.takeWhile isBlank ++ s.dropWhile isBlank)
    rw [List.takeWhile_append_dropWhile]

/-- A number is read back where neither its digits nor a point go on. -/
theorem valuePart?_text (hv : IsLiteral v) (hdigit : Stops Char.isDigit rest)
    (hpoint : Stops (· == '.') rest) : valuePart? (v ++ rest) = some (v, rest) := by
  cases hv with
  | whole h =>
    have hrest : ∀ t, rest ≠ '.' :: t := by
      rintro t rfl
      exact absurd (stops_cons.mp hpoint) (by decide)
    simp only [valuePart?, takeWhile_run h.digits hdigit, dropWhile_run h.digits hdigit, h.ne_nil,
      if_false]
  | @point whole places hw hp =>
    have hstop : Stops Char.isDigit ('.' :: (places ++ rest)) := stops_cons.mpr (by decide)
    rw [List.append_assoc, List.cons_append]
    simp only [valuePart?, takeWhile_run hw.digits hstop, dropWhile_run hw.digits hstop, hw.ne_nil,
      if_false, takeWhile_run hp.digits hdigit, dropWhile_run hp.digits hdigit, hp.ne_nil]

/-- What is read as a number is one, and it is cut off the front. -/
theorem isLiteral_of_valuePart? (h : valuePart? s = some (v, rest)) :
    IsLiteral v ∧ s = v ++ rest := by
  have hcut : s = s.takeWhile Char.isDigit ++ s.dropWhile Char.isDigit :=
    List.takeWhile_append_dropWhile.symm
  simp only [valuePart?, Option.ite_none_left_eq_some] at h
  obtain ⟨hne, h⟩ := h
  have hwhole : IsDigits (s.takeWhile Char.isDigit) := ⟨hne, run_takeWhile _ _⟩
  split at h
  · next t ht =>
    rw [Option.ite_none_left_eq_some] at h
    obtain ⟨hplaces, heq⟩ := h
    cases heq
    refine ⟨.point hwhole ⟨hplaces, run_takeWhile _ _⟩, ?_⟩
    rw [List.append_assoc, List.cons_append, List.takeWhile_append_dropWhile, ← ht]
    exact hcut
  · cases h
    exact ⟨.whole hwhole, hcut⟩

end Form

/-! ## Reading a whole line -/

namespace TradeLayout

variable {l : TradeLayout}

/-- The number of a layout is read off what follows the sign. -/
theorem valuePart?_amountText (h : l.WellFormed) :
    Form.valuePart? (trimStart l.amountText) = some (l.parts.value, l.unitText) := by
  have hdigit : Stops Char.isDigit l.unitText :=
    stops_unitText h.beforeUnit h.unit (by decide) (fun _ => not_isDigit_of_isBlank)
      (fun _ => not_isDigit_of_isAlpha)
  have hpoint : Stops (· == '.') l.unitText :=
    stops_unitText h.beforeUnit h.unit (by decide) (fun _ => beq_eq_false_of_class (by decide))
      (fun _ => beq_eq_false_of_class (by decide))
  rw [amountText, List.append_assoc, trimStart_blanks h.afterSign (h.value.stops_blanks _)]
  exact Form.valuePart?_text h.value hdigit hpoint

/-- The text of a well-formed layout gives its parts. -/
theorem ofTrimmed?_text (h : l.WellFormed) : Form.ofTrimmed? l.text = some (.trade l.parts) := by
  obtain ⟨hblank, halnum⟩ := l.parts.side.operator_class
  have hstop : Stops Char.isAlphanum (l.beforeSign ++ l.parts.side.operator :: l.amountText) :=
    h.beforeSign.stops_append (fun _ => not_isAlphanum_of_isBlank) (stops_cons.mpr halnum)
  have hsign : trimStart (l.beforeSign ++ l.parts.side.operator :: l.amountText)
      = l.parts.side.operator :: l.amountText :=
    trimStart_blanks h.beforeSign (stops_cons.mpr hblank)
  have hside : Side.ofOperator? l.parts.side.operator = some l.parts.side :=
    Side.ofOperator?_eq_some_iff.mpr rfl
  have hunit : Form.unitPart? l.unitText = some (l.parts.percent, l.parts.unit) :=
    Form.unitPart?_text h.beforeUnit h.unit
  have htrade : Form.tradePart? l.parts.address
      (l.beforeSign ++ l.parts.side.operator :: l.amountText) = some l.parts := by
    simp only [Form.tradePart?, hsign, hside, valuePart?_amountText h, hunit, Option.map_some]
  rw [text, List.append_assoc]
  simp only [Form.ofTrimmed?, takeWhile_run h.address.alphanumeric hstop,
    dropWhile_run h.address.alphanumeric hstop, h.address.le_length, h.address.length_le, true_and,
    if_true]
  split
  · next hnil => simp at hnil
  · rw [htrade, Option.map_some]

end TradeLayout

namespace Form

variable {s address : Text} {parts : TradeForm}

/-- What is read after an address is a sign between blanks, a number and a unit. -/
theorem exists_of_tradePart? (h : tradePart? address s = some parts) :
    ∃ l : TradeLayout, l.parts = parts ∧ parts.address = address ∧ IsLiteral parts.value ∧
      Run Char.isAlpha parts.unit ∧ Run isBlank l.beforeSign ∧ Run isBlank l.afterSign ∧
      Run isBlank l.beforeUnit ∧ s = l.beforeSign ++ parts.side.operator :: l.amountText := by
  unfold tradePart? at h
  split at h
  · cases h
  · next sign rest hsign =>
    split at h
    · next side value rest' hside hvalue =>
      obtain ⟨⟨percent, unit⟩, hunit, rfl⟩ := Option.map_eq_some_iff.mp h
      obtain ⟨hliteral, hrest⟩ := isLiteral_of_valuePart? hvalue
      obtain ⟨w, hw, hu, htext⟩ := exists_of_unitPart? hunit
      have hop : sign = side.operator := Side.ofOperator?_eq_some_iff.mp hside
      refine ⟨⟨⟨address, side, value, percent, unit⟩, s.takeWhile isBlank,
        rest.takeWhile isBlank, w⟩, rfl, rfl, hliteral, hu, run_takeWhile _ _, run_takeWhile _ _,
        hw, ?_⟩
      have hamount : rest =
          rest.takeWhile isBlank ++ (value ++ (percentMark percent ++ w ++ unit)) := by
        rw [← htext, ← hrest, trimStart, List.takeWhile_append_dropWhile]
      show s = s.takeWhile isBlank ++ side.operator ::
        (rest.takeWhile isBlank ++ value ++ (percentMark percent ++ w ++ unit))
      rw [List.append_assoc, ← hamount, ← hop, ← hsign, trimStart, List.takeWhile_append_dropWhile]
    · cases h

/-- A line is a trade exactly when a well-formed layout writes it. -/
theorem ofTrimmed?_eq_trade_iff :
    ofTrimmed? s = some (.trade parts) ↔
      ∃ l : TradeLayout, l.WellFormed ∧ l.parts = parts ∧ l.text = s := by
  constructor
  · intro h
    simp only [ofTrimmed?, Option.ite_none_right_eq_some] at h
    obtain ⟨⟨hlow, hhigh⟩, h⟩ := h
    split at h
    · cases h
    · obtain ⟨parts', htrade, hparts⟩ := Option.map_eq_some_iff.mp h
      cases hparts
      obtain ⟨l, rfl, haddress, hvalue, hunit, hbefore, hafter, hgap, hs⟩ :=
        exists_of_tradePart? htrade
      refine ⟨l, ⟨?_, hvalue, hunit, hbefore, hafter, hgap⟩, rfl, ?_⟩
      · rw [haddress]
        exact ⟨hlow, hhigh, run_takeWhile _ _⟩
      · rw [TradeLayout.text, List.append_assoc, ← hs, haddress, List.takeWhile_append_dropWhile]
  · rintro ⟨l, hl, rfl, rfl⟩
    exact TradeLayout.ofTrimmed?_text hl

/-- A line is a query exactly when it is an address alone. -/
theorem ofTrimmed?_eq_query_iff :
    ofTrimmed? s = some (.query address) ↔ IsLooseAddress address ∧ s = address := by
  constructor
  · intro h
    simp only [ofTrimmed?, Option.ite_none_right_eq_some] at h
    obtain ⟨⟨hlow, hhigh⟩, h⟩ := h
    split at h
    · next hnil =>
      cases h
      refine ⟨⟨hlow, hhigh, run_takeWhile _ _⟩, ?_⟩
      rw [← List.append_nil (List.takeWhile _ _), ← hnil, List.takeWhile_append_dropWhile]
    · obtain ⟨_, _, hparts⟩ := Option.map_eq_some_iff.mp h
      cases hparts
  · rintro ⟨⟨hlow, hhigh, hrun⟩, rfl⟩
    have htake : s.takeWhile Char.isAlphanum = s := List.takeWhile_eq_self_iff.mpr hrun
    have hdrop : s.dropWhile Char.isAlphanum = [] := List.dropWhile_eq_nil_iff.mpr hrun
    simp only [ofTrimmed?, htake, hdrop, hlow, hhigh, true_and, if_true]

end Form

/-! ## The grammar is unambiguous -/

/-- Two well-formed layouts of one text have the same parts and the same blanks. -/
theorem TradeLayout.eq_of_text_eq {l l' : TradeLayout} (h : l.WellFormed) (h' : l'.WellFormed)
    (ht : l.text = l'.text) : l = l' := by
  have hparts : l.parts = l'.parts := by
    have hform := ofTrimmed?_text h
    rw [ht, ofTrimmed?_text h'] at hform
    exact (Form.trade.inj (Option.some.inj hform)).symm
  -- each run of blanks is what `takeWhile` cuts off where it begins
  have hsign : l.beforeSign ++ l'.parts.side.operator :: l.amountText
      = l'.beforeSign ++ l'.parts.side.operator :: l'.amountText := by
    rw [text, text, hparts, List.append_assoc, List.append_assoc] at ht
    exact List.append_cancel_left ht
  have hbefore : l.beforeSign = l'.beforeSign := by
    have hstop : ∀ t, Stops isBlank (l'.parts.side.operator :: t) :=
      fun _ => stops_cons.mpr l'.parts.side.operator_class.1
    have hcut := congrArg (List.takeWhile isBlank) hsign
    rwa [takeWhile_run h.beforeSign (hstop _), takeWhile_run h'.beforeSign (hstop _)] at hcut
  have hamount : l.afterSign ++ (l'.parts.value ++ l.unitText)
      = l'.afterSign ++ (l'.parts.value ++ l'.unitText) := by
    rw [hbefore] at hsign
    have htail := (List.cons.inj (List.append_cancel_left hsign)).2
    rwa [amountText, amountText, hparts, List.append_assoc, List.append_assoc] at htail
  have hafter : l.afterSign = l'.afterSign := by
    have hcut := congrArg (List.takeWhile isBlank) hamount
    rwa [takeWhile_run h.afterSign (h'.value.stops_blanks _),
      takeWhile_run h'.afterSign (h'.value.stops_blanks _)] at hcut
  have hgap : l.beforeUnit = l'.beforeUnit := by
    rw [hafter] at hamount
    have hunit := List.append_cancel_left (List.append_cancel_left hamount)
    rw [unitText, unitText, hparts] at hunit
    exact List.append_cancel_left (List.append_cancel_right hunit)
  exact TradeLayout.ext hparts hbefore hafter hgap

/-- A layout has a sign in it, so it is no address alone. -/
theorem TradeLayout.not_isLooseAddress_text {l : TradeLayout} (h : l.WellFormed) :
    ¬ IsLooseAddress l.text := by
  intro haddress
  have hquery := Form.ofTrimmed?_eq_query_iff.mpr ⟨haddress, rfl⟩
  rw [ofTrimmed?_text h] at hquery
  cases hquery

/-- `0x` and forty hexadecimal digits are letters and digits, and not too many. -/
theorem IsLooseAddress.of_isEvmShape {a : Text} (h : Family.isEvmShape a = true) :
    IsLooseAddress a := by
  unfold Family.isEvmShape at h
  split at h
  · next digits =>
    rw [Bool.and_eq_true, beq_iff_eq, all_eq_true_iff_run] at h
    refine ⟨by simp [h.1], by simp [h.1], ?_⟩
    have hdigits : Run Char.isAlphanum digits := by
      intro c hc
      have hhex := h.2 c hc
      simp only [Family.isHexDigit, Bool.or_eq_true, Bool.and_eq_true, decide_eq_true_eq,
        Char.le_def, UInt32.le_iff_toNat_le, isDigit_iff, Char.reduceVal, UInt32.reduceToNat,
        Char.toNat_val] at hhex
      rw [isAlphanum_iff, isAlpha_iff, isDigit_iff]
      omega
    exact run_cons.mpr ⟨by decide, run_cons.mpr ⟨by decide, hdigits⟩⟩
  · cases h

/-- **The grammar of lines.** With the blanks at its ends taken off, a line is a trade exactly when
a well-formed layout writes it, and then only one does; it is a query exactly when it is an address
alone; it is never both; in every other case it has no form. `0x` with forty hexadecimal digits is
no case of its own, since it is among the letters and digits already. -/
theorem ofLine?_grammar (line : Text) :
    (∀ parts, Form.ofLine? line = some (.trade parts) ↔
      ∃ l : TradeLayout, l.WellFormed ∧ l.parts = parts ∧ trim line = l.text) ∧
    {l : TradeLayout | l.WellFormed ∧ trim line = l.text}.Subsingleton ∧
    (∀ address, Form.ofLine? line = some (.query address) ↔
      IsLooseAddress address ∧ trim line = address) ∧
    ¬ ((∃ l : TradeLayout, l.WellFormed ∧ trim line = l.text) ∧ IsLooseAddress (trim line)) ∧
    (Form.ofLine? line = none ↔
      ¬ (∃ l : TradeLayout, l.WellFormed ∧ trim line = l.text) ∧ ¬ IsLooseAddress (trim line)) ∧
    (∀ address, (IsLooseAddress address ∨ Family.isEvmShape address = true) ↔
      IsLooseAddress address) := by
  refine ⟨?_, ?_, ?_, ?_, ?_, ?_⟩
  · intro parts
    rw [Form.ofLine?, Form.ofTrimmed?_eq_trade_iff]
    simp only [eq_comm]
  · rintro l ⟨hl, ht⟩ l' ⟨hl', ht'⟩
    exact TradeLayout.eq_of_text_eq hl hl' (ht.symm.trans ht')
  · intro address
    rw [Form.ofLine?, Form.ofTrimmed?_eq_query_iff]
  · rintro ⟨⟨l, hl, ht⟩, haddress⟩
    exact TradeLayout.not_isLooseAddress_text hl (ht ▸ haddress)
  · rw [Form.ofLine?]
    constructor
    · intro hnone
      refine ⟨?_, ?_⟩
      · rintro ⟨l, hl, ht⟩
        rw [ht, TradeLayout.ofTrimmed?_text hl] at hnone
        cases hnone
      · intro haddress
        rw [Form.ofTrimmed?_eq_query_iff.mpr ⟨haddress, rfl⟩] at hnone
        cases hnone
    · rintro ⟨htrade, hquery⟩
      rcases hform : Form.ofTrimmed? (trim line) with _ | ⟨address⟩ | ⟨parts⟩
      · rfl
      · obtain ⟨haddress, rfl⟩ := Form.ofTrimmed?_eq_query_iff.mp hform
        exact absurd haddress hquery
      · obtain ⟨l, hl, -, ht⟩ := Form.ofTrimmed?_eq_trade_iff.mp hform
        exact absurd ⟨l, hl, ht.symm⟩ htrade
  · intro address
    exact or_iff_left_of_imp IsLooseAddress.of_isEvmShape

end TradeLine
