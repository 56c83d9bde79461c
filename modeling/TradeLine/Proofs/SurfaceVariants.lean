import TradeLine.Proofs.CanonicalLine
import TradeLine.Proofs.FileOfLines

/-!
# Lines that mean the same

A line may be spread out with blanks at its ends, around the sign and before the unit, its unit may
be written in any letter case, and the unit that a side falls back on may be left out. None of this
changes what the line means, and where the line is rejected, none of it changes why.

* `ofLine?_text` — a well-formed layout is found again between any blanks, also where the last
  blanks of the layout are at the end of the line;
* `withoutBlanks_text` — without blanks, the text of a layout is that of its parts written closely;
* `TradeForm.SameMeaning`, `parse_eq_of_sameMeaning` — parts that differ in the spelling of their
  unit alone give the same command or are rejected alike.

**Main statement** (`parse_surface_variants`).
-/

namespace TradeLine

open Text

/-! ## Texts without their blanks -/

namespace Text

variable {s w w' : Text}

/-- The text without any of its blanks. -/
def withoutBlanks (s : Text) : Text :=
  s.filter fun c => !isBlank c

@[simp] theorem withoutBlanks_append (s t : Text) :
    withoutBlanks (s ++ t) = withoutBlanks s ++ withoutBlanks t :=
  List.filter_append s t

theorem withoutBlanks_blanks (h : Run isBlank w) : withoutBlanks w = [] := by
  apply List.filter_eq_nil_iff.mpr
  intro c hc
  simp [h c hc]

theorem withoutBlanks_eq_self (h : ∀ c ∈ s, isBlank c = false) : withoutBlanks s = s := by
  apply List.filter_eq_self.mpr
  intro c hc
  simp [h c hc]

theorem withoutBlanks_cons_of_not (c : Char) (h : isBlank c = false) (s : Text) :
    withoutBlanks (c :: s) = c :: withoutBlanks s :=
  List.filter_cons_of_pos (by simp [h])

/-- The blanks at the ends are among those left out. -/
theorem withoutBlanks_trim (s : Text) : withoutBlanks (trim s) = withoutBlanks s := by
  obtain ⟨w, w', hw, hw', hs⟩ := exists_blanks_trim s
  have h := congrArg withoutBlanks hs
  rw [withoutBlanks_append, withoutBlanks_append, withoutBlanks_blanks hw,
    withoutBlanks_blanks hw', List.nil_append, List.append_nil] at h
  exact h.symm

/-! ## Letters of either case -/

theorem isAlpha_toLower (c : Char) : c.toLower.isAlpha = c.isAlpha := by
  by_cases h : 65 ≤ c.toNat ∧ c.toNat ≤ 90
  · have hc : c.isAlpha = true := isAlpha_iff.mpr (.inl h)
    rw [hc, isAlpha_iff]
    exact .inr (isLower_iff.mp (UnitName.isLower_toLower hc))
  · rw [toLower_eq_self h]

/-- A text is letters exactly when its lower case is. -/
theorem run_isAlpha_lower : Run Char.isAlpha (lower s) ↔ Run Char.isAlpha s := by
  unfold Run lower
  rw [List.forall_mem_map]
  simp only [isAlpha_toLower]

end Text

/-! ## Layouts between blanks -/

namespace TradeLayout

variable {l : TradeLayout} {w w' u line : Text}

/-- The last part that is never empty, and what may stand right behind it. -/
theorem text_eq (l : TradeLayout) :
    l.text = (l.parts.address ++ l.beforeSign ++ l.parts.side.operator :: l.afterSign) ++
      (l.parts.value ++ percentMark l.parts.percent) ++ l.beforeUnit ++ l.parts.unit := by
  simp [text, amountText, unitText]

theorem stops_text (h : l.WellFormed) : Stops isBlank l.text := by
  have hlength := h.address.le_length
  have hne : l.parts.address ≠ [] := List.ne_nil_of_length_pos (by omega)
  unfold text
  rw [List.append_assoc]
  apply stops_of_not_isBlank hne
  intro c hc
  exact not_isBlank_of_isAlphanum (h.address.alphanumeric c hc)

/-- A number and its percent mark are written without blanks. -/
theorem not_isBlank_value (h : l.WellFormed) :
    ∀ c ∈ l.parts.value ++ percentMark l.parts.percent, isBlank c = false := by
  intro c hc
  rcases List.mem_append.mp hc with hc | hc
  · exact h.value.not_isBlank c hc
  · unfold percentMark at hc
    split_ifs at hc
    · rw [List.mem_singleton.mp hc]
      decide
    · cases hc

/-- A layout ends without blanks if it has a unit, or no blanks before the unit that it has not. -/
theorem stops_reverse_text (h : l.WellFormed) (hgap : l.parts.unit = [] → l.beforeUnit = []) :
    Stops isBlank l.text.reverse := by
  rw [text_eq]
  by_cases hunit : l.parts.unit = []
  · rw [hunit, hgap hunit, List.append_nil, List.append_nil]
    apply stops_reverse_of_not_isBlank
    · obtain ⟨c, t, hvalue, -⟩ := h.value.exists_cons
      rw [hvalue]
      exact List.cons_ne_nil c _
    · exact not_isBlank_value h
  · apply stops_reverse_of_not_isBlank hunit
    intro c hc
    exact not_isBlank_of_isAlpha (h.unit c hc)

/-- **Blanks around a layout**: between any blanks its parts are found again. -/
theorem ofLine?_text (h : l.WellFormed) (hw : Run isBlank w) (hw' : Run isBlank w') :
    Form.ofLine? (w ++ l.text ++ w') = some (.trade l.parts) := by
  by_cases hunit : l.parts.unit = []
  · -- blanks before a unit that is not there are blanks at the end of the line
    let l' : TradeLayout := { l with beforeUnit := [] }
    have hl' : l'.WellFormed := { h with beforeUnit := run_nil }
    have htext : w ++ l.text ++ w' = w ++ l'.text ++ (l.beforeUnit ++ w') := by
      simp [text, amountText, unitText, l', hunit]
    rw [Form.ofLine?, htext, trim_append_blanks hw (run_append.mpr ⟨h.beforeUnit, hw'⟩),
      trim_of_stops (stops_text hl') (stops_reverse_text hl' fun _ => rfl)]
    exact ofTrimmed?_text hl'
  · have hgap : l.parts.unit = [] → l.beforeUnit = [] := fun hnil => absurd hnil hunit
    rw [Form.ofLine?, trim_append_blanks hw hw',
      trim_of_stops (stops_text h) (stops_reverse_text h hgap)]
    exact ofTrimmed?_text h

/-- The lines that trade are the well-formed layouts between blanks. -/
theorem ofLine?_eq_trade_iff {parts : TradeForm} :
    Form.ofLine? line = some (.trade parts) ↔
      ∃ (l : TradeLayout) (w w' : Text), l.WellFormed ∧ l.parts = parts ∧ Run isBlank w ∧
        Run isBlank w' ∧ line = w ++ l.text ++ w' := by
  constructor
  · intro h
    obtain ⟨l, hl, hparts, htext⟩ := Form.ofTrimmed?_eq_trade_iff.mp h
    obtain ⟨w, w', hw, hw', hline⟩ := exists_blanks_trim line
    exact ⟨l, w, w', hl, hparts, hw, hw', htext ▸ hline⟩
  · rintro ⟨l, w, w', hl, rfl, hw, hw', rfl⟩
    exact ofLine?_text hl hw hw'

/-- The parts of the layout with nothing between them. -/
def closed (l : TradeLayout) : TradeLayout :=
  ⟨l.parts, [], [], []⟩

theorem wellFormed_closed (h : l.WellFormed) : l.closed.WellFormed :=
  ⟨h.address, h.value, h.unit, run_nil, run_nil, run_nil⟩

/-- Without its blanks the text of a layout is that of its parts with nothing between them. -/
theorem withoutBlanks_text (h : l.WellFormed) : withoutBlanks l.text = l.closed.text := by
  have haddress : withoutBlanks l.parts.address = l.parts.address :=
    withoutBlanks_eq_self fun c hc => not_isBlank_of_isAlphanum (h.address.alphanumeric c hc)
  have hvalue := withoutBlanks_eq_self (not_isBlank_value h)
  have hunit : withoutBlanks l.parts.unit = l.parts.unit :=
    withoutBlanks_eq_self fun c hc => not_isBlank_of_isAlpha (h.unit c hc)
  have hsign := withoutBlanks_cons_of_not _ l.parts.side.operator_class.1 l.afterSign
  rw [text_eq, text_eq]
  simp only [withoutBlanks_append, haddress, hsign, withoutBlanks_blanks h.beforeSign,
    withoutBlanks_blanks h.afterSign, withoutBlanks_blanks h.beforeUnit, hunit, closed]
  rw [← withoutBlanks_append, hvalue]

/-- The layout with another unit. -/
def withUnit (l : TradeLayout) (u : Text) : TradeLayout :=
  { l with parts := { l.parts with unit := u } }

theorem wellFormed_withUnit (h : l.WellFormed) (hu : Run Char.isAlpha u) :
    (l.withUnit u).WellFormed :=
  { h with unit := hu }

end TradeLayout

/-! ## Parts with the same meaning -/

/-- The parts differ in the spelling of their unit at most. -/
structure TradeForm.SameMeaning (p p' : TradeForm) : Prop where
  address : p.address = p'.address
  side : p.side = p'.side
  value : p.value = p'.value
  percent : p.percent = p'.percent
  unit : p.side.unitFor p.unit = p'.side.unitFor p'.unit

variable {s t : Text} {p p' : TradeForm}

/-- At one address, parts with the same meaning make the same trade or fail on the same number. -/
theorem TradeForm.SameMeaning.command_eq (h : p.SameMeaning p') (hp : Run Char.isAlpha p.unit)
    (hp' : Run Char.isAlpha p'.unit) (target : Address) :
    p.command s target = p'.command t target := by
  obtain ⟨unit, hunit, htext⟩ := normalize_letters p.side hp
  obtain ⟨unit', hunit', htext'⟩ := normalize_letters p'.side hp'
  obtain rfl : unit = unit' := UnitName.ext (htext.trans (h.unit.trans htext'.symm))
  unfold TradeForm.command
  rw [hunit, hunit', h.value, h.percent, h.side]
  simp only [Command.ofAction?_trade]

/-- Lines whose parts have the same meaning are the same command or are rejected alike. -/
theorem parse_eq_of_sameMeaning (hs : Form.ofLine? s = some (.trade p))
    (ht : Form.ofLine? t = some (.trade p')) (h : p.SameMeaning p') : parse s = parse t := by
  rcases haddress : Address.ofText p.address with e | target
  · have haddress' : Address.ofText p'.address = .error e := h.address ▸ haddress
    unfold parse
    simp only [hs, ht, Form.address, haddress', h.address]
  · have haddress' : Address.ofText p'.address = .ok target := h.address ▸ haddress
    rw [parse_trade hs haddress, parse_trade ht haddress']
    exact h.command_eq (Form.parts_of_ofLine? hs).2 (Form.parts_of_ofLine? ht).2 target

/-- A unit in other letter case stands for the same. -/
theorem Side.unitFor_congr (side : Side) {u u' : Text} (h : lower u = lower u') :
    side.unitFor u = side.unitFor u' := by
  have hnil : u = [] ↔ u' = [] := by
    rw [← List.length_eq_zero_iff, ← length_lower u, h, length_lower, List.length_eq_zero_iff]
  unfold Side.unitFor
  simp only [hnil, h]

/-- The unit that a side falls back on stands for itself. -/
theorem Side.unitFor_defaultUnit (side : Side) :
    side.unitFor side.defaultUnit = side.unitFor [] := by
  cases side <;> decide

/-- A line with a form means the same without its blanks. -/
theorem parse_withoutBlanks (h : Form.ofLine? s ≠ none) : parse (withoutBlanks s) = parse s := by
  rcases hform : Form.ofLine? s with _ | address | parts
  · exact absurd hform h
  · obtain ⟨haddress, htrim⟩ := Form.ofTrimmed?_eq_query_iff.mp hform
    have hclosed : withoutBlanks (trim s) = trim s := by
      rw [htrim]
      exact withoutBlanks_eq_self fun c hc => not_isBlank_of_isAlphanum (haddress.alphanumeric c hc)
    rw [← withoutBlanks_trim, hclosed, parse_trim]
  · obtain ⟨l, hl, rfl, htext⟩ := Form.ofTrimmed?_eq_trade_iff.mp hform
    have hclosed : withoutBlanks s = [] ++ l.closed.text ++ [] := by
      rw [← withoutBlanks_trim, ← htext, TradeLayout.withoutBlanks_text hl, List.nil_append,
        List.append_nil]
    have hform' : Form.ofLine? (withoutBlanks s) = some (.trade l.parts) := by
      rw [hclosed]
      exact TradeLayout.ofLine?_text (TradeLayout.wellFormed_closed hl) run_nil run_nil
    exact parse_eq_of_sameMeaning hform' hform ⟨rfl, rfl, rfl, rfl, rfl⟩

/-- A line without a form may have one without its blanks. -/
example :
    let line := "0x098054c0c6ba84d95E2011946Db9a15BfFDB4444-100 %".toList
    Form.ofLine? line = none ∧ Form.ofLine? (withoutBlanks line) ≠ none := by
  decide

/-- Between the same blanks, a layout means the same with any unit that stands for its own. -/
theorem parse_withUnit {l : TradeLayout} {w w' u : Text} (h : l.WellFormed) (hw : Run isBlank w)
    (hw' : Run isBlank w') (hu : Run Char.isAlpha u)
    (hunit : l.parts.side.unitFor u = l.parts.side.unitFor l.parts.unit) :
    parse (w ++ (l.withUnit u).text ++ w') = parse (w ++ l.text ++ w') := by
  have hl' := TradeLayout.wellFormed_withUnit h hu
  apply parse_eq_of_sameMeaning (TradeLayout.ofLine?_text hl' hw hw')
    (TradeLayout.ofLine?_text h hw hw')
  exact ⟨rfl, rfl, rfl, rfl, hunit⟩

/-- **Lines that mean the same.** Blanks at the ends of a line change neither the command nor the
rejection. A line that has a form means the same without all its blanks. The lines that trade are
the well-formed layouts between blanks; such a line means the same with its unit in any other letter
case, and where it has none, with `bnb` written out for `+` and `token` for `-`. -/
theorem parse_surface_variants :
    (∀ line w w' : Text, Run isBlank w → Run isBlank w' → parse (w ++ line ++ w') = parse line) ∧
    (∀ line, Form.ofLine? line ≠ none → parse (withoutBlanks line) = parse line) ∧
    (∀ line parts, Form.ofLine? line = some (.trade parts) ↔
      ∃ (l : TradeLayout) (w w' : Text), l.WellFormed ∧ l.parts = parts ∧ Run isBlank w ∧
        Run isBlank w' ∧ line = w ++ l.text ++ w') ∧
    ∀ (l : TradeLayout) (w w' : Text), l.WellFormed → Run isBlank w → Run isBlank w' →
      (∀ u, lower u = lower l.parts.unit →
        parse (w ++ (l.withUnit u).text ++ w') = parse (w ++ l.text ++ w')) ∧
      (l.parts.unit = [] →
        let unit := if l.parts.side.operator = '+' then "bnb".toList else "token".toList
        parse (w ++ (l.withUnit unit).text ++ w') = parse (w ++ l.text ++ w')) := by
  refine ⟨?_, fun _ => parse_withoutBlanks, fun _ _ => TradeLayout.ofLine?_eq_trade_iff, ?_⟩
  · intro line w w' hw hw'
    exact parse_eq_of_trim_eq (trim_append_blanks hw hw')
  · intro l w w' hl hw hw'
    constructor
    · intro u hu
      have hletters : Run Char.isAlpha u := by
        rw [← run_isAlpha_lower, hu, run_isAlpha_lower]
        exact hl.unit
      exact parse_withUnit hl hw hw' hletters (l.parts.side.unitFor_congr hu)
    · intro hnil unit
      have hunit : unit = l.parts.side.defaultUnit := by
        unfold unit
        cases l.parts.side <;> rfl
      have hletters : Run Char.isAlpha l.parts.side.defaultUnit := by
        cases l.parts.side <;> decide
      rw [hunit]
      apply parse_withUnit hl hw hw' hletters
      rw [hnil]
      exact l.parts.side.unitFor_defaultUnit

/-- Wide spaces, a line feed, a line separator and a tab between the parts of a trade do not
count. -/
theorem parse_surface_variants_spread :
    let spread := "\u3000 0x098054c0c6ba84d95E2011946Db9a15BfFDB4444\n+\u2028 1.5%\tEtH ".toList
    Form.ofLine? spread ≠ none ∧
      parse "0x098054c0c6ba84d95E2011946Db9a15BfFDB4444+1.5%EtH".toList = parse spread := by
  intro spread
  have hform : Form.ofLine? spread ≠ none := by decide
  have hclosed : withoutBlanks spread =
      "0x098054c0c6ba84d95E2011946Db9a15BfFDB4444+1.5%EtH".toList := by decide
  refine ⟨hform, ?_⟩
  rw [← hclosed]
  exact parse_surface_variants.2.1 spread hform

end TradeLine
