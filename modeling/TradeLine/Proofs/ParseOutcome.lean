import TradeLine.Line.Parse
import TradeLine.Proofs.NumberReading

/-!
# What becomes of a line

A line passes four checks, and the first that fails is the answer. `Rule` names the ways in which
that can end and `Rule.Settles` says what each asks of the line and what the answer then is, in
terms of the form of the line, the family of its address and the number nearest to its literal.

* `readValue_literal` — the number of a form can only be too large;
* `normalize_letters` — the unit of a form always has a name;
* `command_of_literal` — so a trade whose address is good fails on its number or not at all.

**Main statement** (`parse_outcome`): exactly one rule settles a line, and of the exits that are
written out for a trade only the one for an infinite number is ever taken.
-/

namespace TradeLine

open Text

/-! ## The number and the unit of a form -/

/-- A literal is read as a finite number without sign, unless the number nearest to it is
infinite. -/
theorem readValue_literal {v : Text} (h : IsLiteral v) :
    (Binary64.IsNearest (literalValue v) Binary64.infinity ∧
        Amount.readValue v = .error (.notFinite v)) ∨
      ∃ x, Amount.readValue v = .ok x ∧ x.negative = false ∧ x.isFinite = true ∧
        Binary64.IsNearest (literalValue v) x.magnitude := by
  obtain ⟨x, hx, hsign, hnearest⟩ := ofText?_literal h
  by_cases hfinite : x.isFinite = true
  · refine .inr ⟨x, ?_, hsign, hfinite, hnearest⟩
    simp [Amount.readValue, hx, hfinite, Binary64.isBelowZero, hsign]
  · have hinfinity : x.magnitude = Binary64.infinity := by
      rw [Binary64.isFinite, decide_eq_true_eq] at hfinite
      exact Nat.le_antisymm hnearest.le_infinity (Nat.le_of_not_lt hfinite)
    refine .inl ⟨hinfinity ▸ hnearest, ?_⟩
    simp [Amount.readValue, hx, hfinite]

/-- A run of letters is a name, in lower case. -/
theorem UnitName.ofText_letters {s : Text} (hne : s ≠ []) (h : Run Char.isAlpha s) :
    ∃ unit, UnitName.ofText s = .ok unit ∧ unit.text = Text.lower s := by
  have hs : s ≠ [] ∧ s.all Char.isAlpha = true := ⟨hne, all_eq_true_iff_run.mpr h⟩
  exact ⟨_, dif_pos hs, rfl⟩

/-- The unit that letters stand for in a trade: themselves in lower case, and where there are none
the side's own unit. -/
def Side.unitFor (side : Side) (u : Text) : Text :=
  if u = [] then side.defaultUnit else Text.lower u

/-- The letters of a form always name a unit. -/
theorem normalize_letters {u : Text} (side : Side) (h : Run Char.isAlpha u) :
    ∃ unit, UnitName.normalize u (.trade side) = .ok unit ∧ unit.text = side.unitFor u := by
  cases u with
  | nil =>
    obtain ⟨unit, hunit, htext⟩ : ∃ unit, UnitName.ofText side.defaultUnit = .ok unit ∧
        unit.text = Text.lower side.defaultUnit :=
      UnitName.ofText_letters (by cases side <;> simp [Side.defaultUnit])
        (by cases side <;> simp [Side.defaultUnit])
    refine ⟨unit, hunit, htext.trans ?_⟩
    cases side <;> simp [Side.defaultUnit, Text.lower, Side.unitFor]
  | cons c u => exact UnitName.ofText_letters (List.cons_ne_nil c u) h

/-- A finite number without sign may be an amount. -/
theorem Amount.ofValue_of_finite {x : Binary64} (hsign : x.negative = false)
    (hfinite : x.isFinite = true) (percent : Bool) (unit : UnitName) :
    ∃ a, Amount.ofValue x percent unit = .ok a ∧ a.value = x ∧ a.percent = percent ∧
      a.unit = unit := by
  have hzero : x.isBelowZero = false := by
    simp [Binary64.isBelowZero, hsign]
  exact ⟨⟨x, percent, unit, hfinite, hzero⟩, by simp [Amount.ofValue, hfinite, hzero], rfl, rfl,
    rfl⟩

/-! ## What a form means -/

/-- The amount that the parts of a trade spell: the number nearest to the literal, without sign, the
percent flag, and the unit in lower case or the side's own. -/
structure TradeForm.Spells (parts : TradeForm) (a : Amount) : Prop where
  sign : a.value.negative = false
  nearest : Binary64.IsNearest (literalValue parts.value) a.value.magnitude
  percent : a.percent = parts.percent
  unit : a.unit.text = parts.side.unitFor parts.unit

/-- The command that a form stands for: its address letter for letter, the chain that the address
points to, and nothing else for a query, or side and amount for a trade. -/
def Form.Means (form : Form) (c : Command) : Prop :=
  c.target.text = form.address ∧ c.chain = Chain.detect form.address ∧
    match form with
    | .query _ => c.action = .query ∧ c.amount? = none
    | .trade parts => c.action = .trade parts.side ∧ ∃ a, c.amount? = some a ∧ parts.Spells a

/-- The parts of a trade that a line is found to have are those of the grammar. -/
theorem Form.parts_of_ofLine? {line : Text} {parts : TradeForm}
    (h : Form.ofLine? line = some (.trade parts)) :
    IsLiteral parts.value ∧ Run Char.isAlpha parts.unit := by
  obtain ⟨l, hl, rfl, -⟩ := Form.ofTrimmed?_eq_trade_iff.mp h
  exact ⟨hl.value, hl.unit⟩

/-- A trade at a good address fails on an infinite number, and on nothing else. -/
theorem TradeForm.command_of_literal {parts : TradeForm} (hvalue : IsLiteral parts.value)
    (hunit : Run Char.isAlpha parts.unit) (line : Text) (target : Address) :
    (Binary64.IsNearest (literalValue parts.value) Binary64.infinity ∧
        Amount.readValue parts.value = .error (.notFinite parts.value) ∧
        parts.command line target = .error (.value parts.value)) ∨
      ∃ a, parts.Spells a ∧ parts.command line target = .ok (.trade parts.side target a) := by
  rcases readValue_literal hvalue with ⟨hinfinity, hread⟩ | ⟨x, hread, hsign, hfinite, hnearest⟩
  · exact .inl ⟨hinfinity, hread, by simp only [TradeForm.command, hread]⟩
  · obtain ⟨unit, hnormalize, htext⟩ := normalize_letters parts.side hunit
    obtain ⟨a, ha, rfl, hpercent, rfl⟩ := Amount.ofValue_of_finite hsign hfinite parts.percent unit
    refine .inr ⟨a, ⟨hsign, hnearest, hpercent, htext⟩, ?_⟩
    simp only [TradeForm.command, hread, hnormalize, ha, Command.ofAction?_trade]

/-! ## The rules -/

/-- How the reading of a line can end, in the order in which the rules are tried. -/
inductive Rule
  | format
  | address
  | value
  | command
deriving DecidableEq, Repr

/-- What a rule asks of a line, and the answer that it gives. -/
def Rule.Settles (line : Text) : Rule → Prop
  | .format => Form.ofLine? line = none ∧ parse line = .error (.format (trim line))
  | .address => ∃ form, Form.ofLine? line = some form ∧ Family.classify form.address = none ∧
      parse line = .error (.address form.address)
  | .value => ∃ parts, Form.ofLine? line = some (.trade parts) ∧
      (Family.classify parts.address).isSome ∧
      Binary64.IsNearest (literalValue parts.value) Binary64.infinity ∧
      parse line = .error (.value parts.value)
  | .command => ∃ form c, Form.ofLine? line = some form ∧ form.Means c ∧ parse line = .ok c

/-- The rule that an answer points to. -/
def Rule.ofAnswer : Except Rejection Command → Rule
  | .error (.format _) => .format
  | .error (.address _) => .address
  | .error (.value _) => .value
  | .ok _ => .command

theorem Rule.Settles.ofAnswer_parse {rule : Rule} {line : Text} (h : rule.Settles line) :
    Rule.ofAnswer (parse line) = rule := by
  cases rule with
  | format =>
    obtain ⟨-, h⟩ := h
    rw [h]
    rfl
  | address =>
    obtain ⟨form, -, -, h⟩ := h
    rw [h]
    rfl
  | value =>
    obtain ⟨parts, -, -, -, h⟩ := h
    rw [h]
    rfl
  | command =>
    obtain ⟨form, c, -, -, h⟩ := h
    rw [h]
    rfl

/-- A good address alone is a query. -/
theorem parse_query {line address : Text} {target : Address}
    (hform : Form.ofLine? line = some (.query address))
    (htarget : Address.ofText address = .ok target) : parse line = .ok (.query target) := by
  simp only [parse, hform, Form.address, htarget]

/-- At a good address a trade is made of its other parts. -/
theorem parse_trade {line : Text} {parts : TradeForm} {target : Address}
    (hform : Form.ofLine? line = some (.trade parts))
    (htarget : Address.ofText parts.address = .ok target) :
    parse line = parts.command line target := by
  simp only [parse, hform, Form.address, htarget]

/-- Some rule settles a line. -/
theorem exists_settles (line : Text) : ∃ rule : Rule, rule.Settles line := by
  rcases hform : Form.ofLine? line with _ | form
  · exact ⟨.format, hform, by simp only [parse, hform]⟩
  · rcases haddress : Address.ofText form.address with e | target
    · refine ⟨.address, form, hform, (Address.ofText_eq_error_iff.mp haddress).1, ?_⟩
      simp only [parse, hform, haddress]
    · have htext : target.text = form.address := Address.text_of_ofText haddress
      have hchain : target.chain = Chain.detect form.address := htext ▸ target.chain_eq_detect
      cases form with
      | query address =>
        exact ⟨.command, _, .query target, hform, ⟨htext, hchain, rfl, rfl⟩,
          parse_query hform haddress⟩
      | trade parts =>
        have hparse := parse_trade hform haddress
        obtain ⟨hvalue, hunit⟩ := Form.parts_of_ofLine? hform
        rcases TradeForm.command_of_literal hvalue hunit line target with
          ⟨hinfinity, -, hcommand⟩ | ⟨a, ha, hcommand⟩
        · refine ⟨.value, parts, hform, ?_, hinfinity, hparse.trans hcommand⟩
          have hclass := target.classified
          rw [htext] at hclass
          exact Option.isSome_of_eq_some hclass
        · exact ⟨.command, _, .trade parts.side target a, hform,
            ⟨htext, hchain, rfl, a, rfl, ha⟩, hparse.trans hcommand⟩

/-- A command that was read from a line is what the form of the line means. -/
theorem exists_form_of_parse {line : Text} {c : Command} (h : parse line = .ok c) :
    ∃ form, Form.ofLine? line = some form ∧ form.Means c := by
  obtain ⟨rule, hrule⟩ := exists_settles line
  have hcommand := hrule.ofAnswer_parse
  rw [h] at hcommand
  subst hcommand
  obtain ⟨form, c', hform, hmeans, hparse⟩ := hrule
  obtain rfl : c = c' := Except.ok.inj (h.symm.trans hparse)
  exact ⟨form, hform, hmeans⟩

/-- **The outcome of a line.** Exactly one rule settles it. On a form that was found in a line the
unit always has a name, a number that could be read always makes an amount, and a side always makes
a trade: reading the number is the only exit of a trade that is taken, with the literal as the text
at fault. -/
theorem parse_outcome (line : Text) :
    (∃! rule : Rule, rule.Settles line) ∧
    ∀ parts, Form.ofLine? line = some (.trade parts) →
      (∃ unit, UnitName.normalize parts.unit (.trade parts.side) = .ok unit) ∧
      (∀ value unit, Amount.readValue parts.value = .ok value →
        ∃ amount, Amount.ofValue value parts.percent unit = .ok amount) ∧
      (∀ target amount, (Command.ofAction? (.trade parts.side) target amount).isSome) ∧
      ∀ target, (∃ c, parts.command line target = .ok c) ∨
        (∃ e, Amount.readValue parts.value = .error e) ∧
          parts.command line target = .error (.value parts.value) := by
  constructor
  · obtain ⟨rule, hrule⟩ := exists_settles line
    refine ⟨rule, hrule, ?_⟩
    intro rule' hrule'
    exact hrule'.ofAnswer_parse.symm.trans hrule.ofAnswer_parse
  · intro parts hform
    obtain ⟨hvalue, hunit⟩ := Form.parts_of_ofLine? hform
    refine ⟨?_, ?_, fun _ _ => rfl, fun target => ?_⟩
    · obtain ⟨unit, hnormalize, -⟩ := normalize_letters parts.side hunit
      exact ⟨unit, hnormalize⟩
    · intro value unit hread
      rcases readValue_literal hvalue with ⟨-, herror⟩ | ⟨x, hx, hsign, hfinite, -⟩
      · rw [herror] at hread
        cases hread
      · obtain rfl : x = value := Except.ok.inj (hx.symm.trans hread)
        obtain ⟨a, ha, -⟩ := Amount.ofValue_of_finite hsign hfinite parts.percent unit
        exact ⟨a, ha⟩
    · rcases TradeForm.command_of_literal hvalue hunit line target with
        ⟨-, hread, hcommand⟩ | ⟨a, -, hcommand⟩
      · exact .inr ⟨⟨_, hread⟩, hcommand⟩
      · exact .inl ⟨_, hcommand⟩

end TradeLine
