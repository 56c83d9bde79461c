import TradeLine.Proofs.NumberWriting
import TradeLine.Proofs.ParseOutcome

/-!
# A command's own line

`Command.line` writes a command with no blanks, every number plainly and every unit in full. Read
again, the line gives the command back, unless its number is negative zero: that is an amount, but
no line can write its sign.

* `Address.isLooseAddress` — what the strict check accepts, the grammar of lines accepts too;
* `TradeForm.Spells.unique` — the parts of a trade spell one amount at most;
* `ofLine?_line_of_unsigned`, `ofLine?_line_of_signed` — the form of a command's own line.

**Main statement** (`line_round_trip`).
-/

namespace TradeLine

open Text

/-! ## Parts of a command in the grammar -/

/-- A strictly checked address has the looks that a line asks for. -/
theorem Address.isLooseAddress (a : Address) : IsLooseAddress a.text := by
  have h := a.classified
  unfold Family.classify at h
  split_ifs at h with hevm hbase
  · exact .of_isEvmShape hevm
  · simp only [Family.isBase58Shape, Bool.and_eq_true, decide_eq_true_eq, List.all_eq_true] at hbase
    refine ⟨hbase.1.1, hbase.1.2, fun c hc => ?_⟩
    have hchar := hbase.2 c hc
    simp only [Family.isBase58Char, Bool.and_eq_true] at hchar
    exact hchar.1.1.1.1

/-- A unit's name is letters. -/
theorem UnitName.run_text (u : UnitName) : Run Char.isAlpha u.text := by
  intro c hc
  have hlower := List.all_eq_true.mp u.all_lower c hc
  rw [isAlpha_iff]
  exact .inr (isLower_iff.mp hlower)

/-- A unit's name is its own lower case. -/
theorem UnitName.lower_text (u : UnitName) : Text.lower u.text = u.text := by
  have hself : ∀ c ∈ u.text, c.toLower = id c := by
    intro c hc
    have := isLower_iff.mp (List.all_eq_true.mp u.all_lower c hc)
    exact toLower_eq_self (by omega)
  rw [Text.lower, List.map_congr_left hself, List.map_id]

attribute [ext] Binary64 UnitName Amount

/-- The parts of a trade spell one amount at most. -/
theorem TradeForm.Spells.unique {parts : TradeForm} {a b : Amount} (ha : parts.Spells a)
    (hb : parts.Spells b) : a = b := by
  have hvalue : a.value = b.value :=
    Binary64.ext (ha.sign.trans hb.sign.symm) (ha.nearest.unique hb.nearest)
  have hunit : a.unit = b.unit := UnitName.ext (ha.unit.trans hb.unit.symm)
  exact Amount.ext hvalue (ha.percent.trans hb.percent.symm) hunit

/-! ## No blanks -/

/-- A number is written without blanks. -/
theorem IsLiteral.not_isBlank {v : Text} (h : IsLiteral v) : ∀ c ∈ v, isBlank c = false := by
  cases h with
  | whole h => exact fun c hc => not_isBlank_of_isDigit (h.digits c hc)
  | @point s t hs ht =>
    intro c hc
    rcases List.mem_append.mp hc with hc | hc
    · exact not_isBlank_of_isDigit (hs.digits c hc)
    · rcases List.mem_cons.mp hc with rfl | hc
      · decide
      · exact not_isBlank_of_isDigit (ht.digits c hc)

/-- A finite number is written without blanks, its sign included. -/
theorem Binary64.not_isBlank_display {x : Binary64} (h : x.isFinite = true) :
    ∀ c ∈ x.display, isBlank c = false := by
  obtain ⟨v, hdisplay, hliteral, -⟩ := display_eq h
  intro c hc
  rw [hdisplay, List.mem_append] at hc
  rcases hc with hc | hc
  · split_ifs at hc
    · rw [List.mem_singleton.mp hc]
      decide
    · cases hc
  · exact hliteral.not_isBlank c hc

/-- A command's line has no blanks in it. -/
theorem Command.not_isBlank_line (c : Command) : ∀ ch ∈ c.line, isBlank ch = false := by
  have haddress : ∀ ch ∈ c.target.text, isBlank ch = false := fun ch hch =>
    not_isBlank_of_isAlphanum (c.target.isLooseAddress.alphanumeric ch hch)
  cases c with
  | query target => exact haddress
  | trade side target amount =>
    intro ch hch
    simp only [Command.line, Amount.text, List.mem_append, List.mem_cons] at hch
    rcases hch with hch | rfl | (hch | hch) | hch
    · exact haddress ch hch
    · exact side.operator_class.1
    · exact Binary64.not_isBlank_display amount.isFinite_value ch hch
    · split_ifs at hch
      · rw [List.mem_singleton.mp hch]
        decide
      · cases hch
    · exact not_isBlank_of_isAlpha (amount.unit.run_text ch hch)

theorem Command.trim_line (c : Command) : trim c.line = c.line :=
  trim_eq_self c.not_isBlank_line

/-! ## The form of a command's line -/

/-- The line of a trade whose number has no sign has a form, and its parts spell the amount. -/
theorem ofLine?_line_of_unsigned (side : Side) (target : Address) {amount : Amount}
    (h : amount.value.negative = false) :
    ∃ parts : TradeForm,
      Form.ofLine? (Command.trade side target amount).line = some (.trade parts) ∧
      parts.address = target.text ∧ parts.side = side ∧ parts.Spells amount := by
  obtain ⟨v, hdisplay, hliteral, hnearest⟩ := Binary64.display_eq amount.isFinite_value
  let parts : TradeForm := ⟨target.text, side, v, amount.percent, amount.unit.text⟩
  let l : TradeLayout := ⟨parts, [], [], []⟩
  have hl : l.WellFormed :=
    ⟨target.isLooseAddress, hliteral, amount.unit.run_text, run_nil, run_nil, run_nil⟩
  have htext : (Command.trade side target amount).line = l.text := by
    simp [Command.line, Amount.text, hdisplay, h, TradeLayout.text, TradeLayout.amountText,
      TradeLayout.unitText, percentMark, l, parts]
  refine ⟨parts, ?_, rfl, rfl, h, hnearest, rfl, ?_⟩
  · rw [Form.ofLine?, Command.trim_line, htext]
    exact TradeLayout.ofTrimmed?_text hl
  · rw [Side.unitFor, if_neg amount.unit.ne_nil, amount.unit.lower_text]

/-- A sign right after the sign of the trade gives no form. -/
theorem ofTrimmed?_double_sign {address : Text} (h : IsLooseAddress address) (side : Side)
    (rest : Text) : Form.ofTrimmed? (address ++ side.operator :: '-' :: rest) = none := by
  obtain ⟨hblank, halnum⟩ := side.operator_class
  have hstop : Stops Char.isAlphanum (side.operator :: '-' :: rest) := stops_cons.mpr halnum
  have hsign : trimStart (side.operator :: '-' :: rest) = side.operator :: '-' :: rest :=
    trimStart_blanks run_nil (stops_cons.mpr hblank)
  have hminus : trimStart ('-' :: rest) = '-' :: rest :=
    trimStart_blanks run_nil (stops_cons.mpr (by decide))
  have hvalue : Form.valuePart? ('-' :: rest) = none := by
    simp [Form.valuePart?]
  have hside : Side.ofOperator? side.operator = some side :=
    Side.ofOperator?_eq_some_iff.mpr rfl
  have htrade : Form.tradePart? address (side.operator :: '-' :: rest) = none := by
    simp only [Form.tradePart?, hsign, hside, hminus, hvalue]
  simp only [Form.ofTrimmed?, takeWhile_run h.alphanumeric hstop,
    dropWhile_run h.alphanumeric hstop, htrade, Option.map_none, ite_self]

/-- The line of a trade whose number has a sign has no form. -/
theorem ofLine?_line_of_signed (side : Side) (target : Address) {amount : Amount}
    (h : amount.value.negative = true) :
    Form.ofLine? (Command.trade side target amount).line = none := by
  obtain ⟨v, hdisplay, -, -⟩ := Binary64.display_eq amount.isFinite_value
  have htext : (Command.trade side target amount).line = target.text ++ side.operator ::
      '-' :: (v ++ (if amount.percent then ['%'] else []) ++ amount.unit.text) := by
    simp [Command.line, Amount.text, hdisplay, h]
  rw [Form.ofLine?, Command.trim_line, htext]
  exact ofTrimmed?_double_sign target.isLooseAddress side _

/-! ## The round trip -/

/-- The command has no amount, or the sign of its number is clear. -/
def Command.IsUnsigned (c : Command) : Prop :=
  ∀ a, c.amount? = some a → a.value.negative = false

/-- Zero with a sign, which is not below zero. -/
def Binary64.negativeZero : Binary64 :=
  ⟨true, 0, by decide⟩

/-- An amount whose number has a sign is one of negative zero. -/
theorem Amount.negative_iff (a : Amount) :
    a.value.negative = true ↔ a.value = Binary64.negativeZero := by
  constructor
  · intro h
    have hfinite := a.isFinite_value
    have hzero := a.isBelowZero_value
    simp only [Binary64.isFinite, Binary64.isBelowZero, h, decide_eq_true_eq, Bool.true_and,
      Bool.and_eq_false_iff, decide_eq_false_iff_not] at hfinite hzero
    exact Binary64.ext h (show a.value.magnitude = 0 by omega)
  · intro h
    rw [h]
    rfl

theorem Command.parse_line_of_isUnsigned {c : Command} (h : c.IsUnsigned) :
    parse c.line = .ok c := by
  cases c with
  | query target =>
    have hform : Form.ofLine? (Command.query target).line = some (.query target.text) := by
      rw [Form.ofLine?, Command.trim_line]
      exact Form.ofTrimmed?_eq_query_iff.mpr ⟨target.isLooseAddress, rfl⟩
    exact parse_query hform target.ofText_text
  | trade side target amount =>
    obtain ⟨parts, hform, haddress, rfl, hspells⟩ :=
      ofLine?_line_of_unsigned side target (h amount rfl)
    obtain ⟨hvalue, hunit⟩ := Form.parts_of_ofLine? hform
    rw [parse_trade hform (haddress ▸ target.ofText_text)]
    rcases TradeForm.command_of_literal hvalue hunit _ target with
      ⟨hinfinity, -, -⟩ | ⟨a, ha, hcommand⟩
    · -- the number is finite, so it is not the infinite one that is nearest
      have hmagnitude := hspells.nearest.unique hinfinity
      have hfinite := amount.isFinite_value
      rw [Binary64.isFinite, hmagnitude, decide_eq_true_eq] at hfinite
      exact absurd hfinite (Nat.lt_irrefl _)
    · rw [hcommand, ha.unique hspells]

theorem Command.parse_line_of_not_isUnsigned {c : Command} (h : ¬ c.IsUnsigned) :
    parse c.line = .error (.format c.line) := by
  cases c with
  | query target => exact absurd (fun a ha => by cases ha) h
  | trade side target amount =>
    have hsign : amount.value.negative = true := by
      by_contra hclear
      refine h fun a ha => ?_
      cases ha
      exact Bool.eq_false_iff.mpr hclear
    simp only [parse, ofLine?_line_of_signed side target hsign, Command.trim_line]

/-- A command that was read from a line has no sign. -/
theorem isUnsigned_of_parse {line : Text} {c : Command} (h : parse line = .ok c) :
    c.IsUnsigned := by
  obtain ⟨form, -, hmeans⟩ := exists_form_of_parse h
  intro a ha
  cases form with
  | query address =>
    obtain ⟨-, -, -, hnone⟩ := hmeans
    rw [hnone] at ha
    cases ha
  | trade parts =>
    obtain ⟨-, -, -, b, hb, hspells⟩ := hmeans
    obtain rfl : a = b := Option.some.inj (ha.symm.trans hb)
    exact hspells.sign

/-- **The round trip of a command's line.** Reading it gives the command back exactly when the
command has no amount or the sign of its number is clear, that is, when the number is not negative
zero; otherwise the line is rejected for its form. Every command that comes from a line has a clear
sign, so writing and reading it changes nothing. -/
theorem line_round_trip :
    (∀ c : Command, (parse c.line = .ok c ↔ c.IsUnsigned) ∧
      (parse c.line = .error (.format c.line) ↔ ¬ c.IsUnsigned) ∧
      (c.IsUnsigned ↔ ∀ a, c.amount? = some a → a.value ≠ Binary64.negativeZero)) ∧
    ∀ line c, parse line = .ok c → c.IsUnsigned ∧ parse c.line = .ok c := by
  constructor
  · intro c
    refine ⟨⟨isUnsigned_of_parse, Command.parse_line_of_isUnsigned⟩, ?_, ?_⟩
    · refine ⟨?_, Command.parse_line_of_not_isUnsigned⟩
      intro herror hunsigned
      rw [Command.parse_line_of_isUnsigned hunsigned] at herror
      cases herror
    · apply forall_congr'
      intro a
      apply imp_congr_right
      intro _
      rw [← Bool.not_eq_true, a.negative_iff]
  · intro line c h
    have hunsigned := isUnsigned_of_parse h
    exact ⟨hunsigned, Command.parse_line_of_isUnsigned hunsigned⟩

end TradeLine
