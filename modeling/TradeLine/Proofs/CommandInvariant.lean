import TradeLine.Proofs.CanonicalLine
import TradeLine.Wire.Decode

/-!
# What can be relied on in a command

A command comes from a line, or is put together from an address and an amount, and these come from
texts and numbers or from JSON values. `Command.Obtained` lists all these ways. Whoever gets a
command sees plain data (`CommandView`): texts, a family, a chain, perhaps a number and a unit.
`CommandView.Sound` says how they hang together.

* `isBelowZero_eq_false_iff` — the check on numbers, in terms of the number;
* `Command.sound_view`, `CommandView.Sound.exists_command` — what is checked and what is seen are
  the same;
* `Command.obtained` — no command needs a way that is not listed.

**Main statement** (`command_invariant`): what is seen of a command is sound, its record has the
fields that its action calls for, and sound data is always that of some command, so that nothing
more can be relied on.
-/

namespace TradeLine

open Text

/-! ## Ways to a command -/

/-- The address was made from a text or read from JSON. -/
inductive Address.Obtained : Address → Prop
  | ofText {s : Text} {a : Address} (h : Address.ofText s = .ok a) : a.Obtained
  | ofJson {value : Json} {a : Address} (h : Address.ofJson value = .ok a) : a.Obtained

/-- The unit was made from a text, is what a text stands for in an action, or was read from
JSON. -/
inductive UnitName.Obtained : UnitName → Prop
  | ofText {s : Text} {u : UnitName} (h : UnitName.ofText s = .ok u) : u.Obtained
  | normalize {s : Text} {action : Action} {u : UnitName}
      (h : UnitName.normalize s action = .ok u) : u.Obtained
  | ofJson {value : Json} {u : UnitName} (h : UnitName.ofJson value = .ok u) : u.Obtained

/-- The amount was made of a number, a flag and a unit, or read from JSON. -/
inductive Amount.Obtained : Amount → Prop
  | ofValue {x : Binary64} {percent : Bool} {u : UnitName} {a : Amount} (hu : u.Obtained)
      (h : Amount.ofValue x percent u = .ok a) : a.Obtained
  | ofJson {value : Json} {a : Amount} (h : Amount.ofJson value = .ok a) : a.Obtained

/-- The command was read from a line, or made of an address and perhaps an amount. -/
inductive Command.Obtained : Command → Prop
  | parse {line : Text} {c : Command} (h : parse line = .ok c) : c.Obtained
  | query {target : Address} (h : target.Obtained) : (Command.query target).Obtained
  | trade {action : Action} {target : Address} {amount : Amount} {c : Command}
      (ht : target.Obtained) (ha : amount.Obtained)
      (h : Command.ofAction? action target amount = some c) : c.Obtained

/-! ## What is seen of a command -/

/-- The number that a finite one stands for. -/
def Binary64.number (x : Binary64) : ℚ :=
  if x.negative then -value x.magnitude else value x.magnitude

/-- An amount as plain data. -/
structure AmountView where
  value : Binary64
  percent : Bool
  unit : Text

/-- A command as plain data. -/
structure CommandView where
  action : Action
  target : Text
  family : Family
  chain : Chain
  amount : Option AmountView

/-- What an amount shows. -/
def Amount.view (a : Amount) : AmountView :=
  ⟨a.value, a.percent, a.unit.text⟩

/-- What a command shows. -/
def Command.view (c : Command) : CommandView :=
  ⟨c.action, c.target.text, c.target.family, c.chain, c.amount?.map Amount.view⟩

/-- The number is finite and not below zero, and the unit is one or more letters `a` to `z`. -/
structure AmountView.Sound (a : AmountView) : Prop where
  finite : a.value.isFinite = true
  nonneg : 0 ≤ a.value.number
  unit_ne_nil : a.unit ≠ []
  unit_letters : ∀ c ∈ a.unit, 'a' ≤ c ∧ c ≤ 'z'

/-- There is an amount exactly for buying and selling, and it is sound; the address has its family,
and the chain is the one it points to and that of the family, and a known one. -/
structure CommandView.Sound (v : CommandView) : Prop where
  amount_iff : v.amount.isSome = true ↔ v.action = .trade .buy ∨ v.action = .trade .sell
  classified : Family.classify v.target = some v.family
  detected : v.chain = Chain.detect v.target
  ofFamily : v.chain = v.family.chain
  known : v.chain ≠ .unknown
  amount : ∀ a, v.amount = some a → a.Sound

/-! ## Numbers and letters -/

theorem Binary64.value_zero : value 0 = 0 := by
  rw [value, units_of_lt (by decide), Nat.cast_zero, zero_div]

/-- Of the finite numbers exactly those not below zero pass the check. -/
theorem Binary64.isBelowZero_eq_false_iff {x : Binary64} (h : x.isFinite = true) :
    x.isBelowZero = false ↔ 0 ≤ x.number := by
  have hle : x.magnitude ≤ infinity := Nat.le_of_lt (of_decide_eq_true h)
  have hpos : 0 < x.magnitude → 0 < value x.magnitude := by
    intro hmagnitude
    rw [← value_zero]
    exact value_strictMono hmagnitude
  unfold Binary64.isBelowZero Binary64.number
  by_cases hsign : x.negative = true
  · rw [hsign, if_pos rfl, Left.nonneg_neg_iff]
    rcases Nat.eq_zero_or_pos x.magnitude with hzero | hmagnitude
    · simp [hzero, value_zero]
    · simp [hmagnitude, hle, hpos hmagnitude]
  · rw [if_neg hsign]
    have hnonneg : 0 ≤ value x.magnitude := by
      rw [← value_zero]
      exact value_strictMono.monotone (Nat.zero_le _)
    simp [hsign, hnonneg]

theorem isLower_iff_le {c : Char} : c.isLower = true ↔ 'a' ≤ c ∧ c ≤ 'z' := by
  rw [isLower_iff]
  rfl

/-! ## Sound is what is checked -/

theorem Amount.sound_view (a : Amount) : a.view.Sound where
  finite := a.isFinite_value
  nonneg := (Binary64.isBelowZero_eq_false_iff a.isFinite_value).mp a.isBelowZero_value
  unit_ne_nil := a.unit.ne_nil
  unit_letters c hc := isLower_iff_le.mp (List.all_eq_true.mp a.unit.all_lower c hc)

/-- Sound data about an amount is what some amount shows. -/
theorem AmountView.Sound.exists_amount {v : AmountView} (h : v.Sound) :
    ∃ a : Amount, a.view = v := by
  have hletters : v.unit.all Char.isLower = true := by
    rw [List.all_eq_true]
    intro c hc
    exact isLower_iff_le.mpr (h.unit_letters c hc)
  have hnonneg := (Binary64.isBelowZero_eq_false_iff h.finite).mpr h.nonneg
  exact ⟨⟨v.value, v.percent, ⟨v.unit, h.unit_ne_nil, hletters⟩, h.finite, hnonneg⟩, rfl⟩

theorem Action.isTrade_iff {action : Action} :
    action.isTrade = true ↔ action = .trade .buy ∨ action = .trade .sell := by
  rcases action with ⟨_ | _⟩ | _ <;> simp [Action.isTrade]

theorem Command.sound_view (c : Command) : c.view.Sound where
  amount_iff := by
    show (c.amount?.map Amount.view).isSome = true ↔ _
    rw [Option.isSome_map, c.isSome_amount?]
    exact Action.isTrade_iff
  classified := c.target.classified
  detected := c.target.chain_eq_detect
  ofFamily := rfl
  known := by
    show c.target.family.chain ≠ .unknown
    cases c.target.family <;> simp [Family.chain]
  amount v hv := by
    obtain ⟨a, -, rfl⟩ := Option.map_eq_some_iff.mp hv
    exact a.sound_view

/-- Sound data about a command is what some command shows. -/
theorem CommandView.Sound.exists_command {v : CommandView} (h : v.Sound) :
    ∃ c : Command, c.view = v := by
  obtain ⟨action, target, family, chain, amount⟩ := v
  obtain rfl : chain = family.chain := h.ofFamily
  let address : Address := ⟨target, family, h.classified⟩
  cases action with
  | query =>
    have hnone : amount = none := by
      have := h.amount_iff
      simpa using this
    exact ⟨.query address, by rw [hnone]; rfl⟩
  | trade side =>
    have hsome : amount.isSome = true := h.amount_iff.mpr (by cases side <;> simp)
    obtain ⟨v, rfl⟩ := Option.isSome_iff_exists.mp hsome
    obtain ⟨a, rfl⟩ := (h.amount v rfl).exists_amount
    exact ⟨.trade side address a, rfl⟩

/-! ## Every command is obtained -/

theorem UnitName.ofText_text (u : UnitName) : UnitName.ofText u.text = .ok u := by
  obtain ⟨unit, hunit, htext⟩ := UnitName.ofText_letters u.ne_nil u.run_text
  rw [hunit, UnitName.ext (htext.trans u.lower_text)]

theorem Amount.obtained (a : Amount) : a.Obtained :=
  .ofValue (.ofText a.unit.ofText_text) a.ofValue_value

/-- Every command can be made of an address that was made from its text, and an amount that was made
from its number and unit. -/
theorem Command.obtained (c : Command) : c.Obtained := by
  cases c with
  | query target => exact .query (.ofText target.ofText_text)
  | trade side target amount =>
    have h : Command.ofAction? (.trade side) target amount = some (.trade side target amount) := rfl
    exact .trade (.ofText target.ofText_text) amount.obtained h

/-! ## The record of a command -/

/-- The keys of a command's record, in order. -/
theorem Command.keys_fields (c : Command) : c.fields.map Prod.fst =
    (["mode", "action", "target", "chain"] ++
      if c.action.isTrade then ["value", "isPercent", "unit"] else []).map String.toList := by
  cases c <;> rfl

/-- **What can be relied on in a command.** Whatever way a command was obtained, what is seen of it
is sound, and its record has the keys `mode`, `action`, `target` and `chain`, with `value`,
`isPercent` and `unit` behind them exactly for buying and selling. All sound data is that of a
command that can be obtained. -/
theorem command_invariant :
    (∀ c : Command, c.Obtained → c.view.Sound ∧
      ∃ members, c.toJson = .obj members ∧ members.map Prod.fst =
        (["mode", "action", "target", "chain"] ++
          if c.action = .trade .buy ∨ c.action = .trade .sell then ["value", "isPercent", "unit"]
          else []).map String.toList) ∧
    ∀ v : CommandView, v.Sound → ∃ c : Command, c.Obtained ∧ c.view = v := by
  constructor
  · intro c _
    refine ⟨c.sound_view, c.fields, rfl, ?_⟩
    rw [c.keys_fields]
    simp only [Action.isTrade_iff]
  · intro v hv
    obtain ⟨c, hc⟩ := hv.exists_command
    exact ⟨c, c.obtained, hc⟩

/-- A negative zero is not below zero, and may be sold. -/
theorem command_invariant_negative_zero :
    ∃ c : Command, c.Obtained ∧ c.view.Sound ∧ c.action = .trade .sell ∧
      ∃ a, c.amount? = some a ∧ a.value = ⟨true, 0, by decide⟩ := by
  obtain ⟨target, htarget⟩ : ∃ target,
      Address.ofText "0x00000000000000000000000000000000000000Aa".toList = .ok target := ⟨_, rfl⟩
  obtain ⟨unit, hunit⟩ : ∃ unit, UnitName.ofText "Eth".toList = .ok unit := ⟨_, rfl⟩
  let amount : Amount := ⟨⟨true, 0, by decide⟩, false, unit, rfl, rfl⟩
  have hsell : Command.ofAction? (.trade .sell) target amount = some (.trade .sell target amount) :=
    rfl
  have h : (Command.trade .sell target amount).Obtained :=
    .trade (.ofText htarget) (.ofValue (.ofText hunit) amount.ofValue_value) hsell
  exact ⟨_, h, (command_invariant.1 _ h).1, rfl, amount, rfl, rfl⟩

end TradeLine
