import TradeLine.Proofs.ExactLiteral

/-!
# Values that are read back

Addresses, units and amounts are written as JSON values and read from them, with the checks of
their own constructors on the way. What is read as an amount need not have been written as one: the
number may be whole, the letters of the unit of any case, the members in any order and among
others, or the three parts may stand in an array.

* `lookup_ordered` — in key order, members are found under their keys as before;
* `Json.IsNumber v q x` — `v` is a number, namely `q`, and `x` is that number in the format;
* `Json.HasParts`, `Json.SaysAmount` — what a value must look like to be read as an amount;
* `Amount.ofJson_eq_ok_iff` — and that it is read exactly then, as the amount of these parts.

**Main statement** (`ofJson_inverts_toJson`): what is written is read back as it was, also an amount
out of the record of its trade; the values read as amounts are those that say one; and what was read
once is written and read again without change.
-/

namespace TradeLine

open Text Binary64

/-! ## Members in key order -/

namespace Json

variable {key : Text} {members : List (Text × Json)}

/-- A member that is put in is found under its key, and all else as before. -/
theorem lookup_insertMember (k : Text) (v : Json) (members : List (Text × Json)) :
    lookup key (insertMember k v members) = if k = key then some v else lookup key members := by
  induction members with
  | nil => rfl
  | cons m rest ih =>
    obtain ⟨k', v'⟩ := m
    unfold insertMember
    split_ifs with hlt hkey heq hkey hkey
    · rw [lookup, if_pos hkey]
    · rw [lookup, if_neg hkey]
    · rw [lookup, if_pos hkey]
    · rw [lookup, lookup, if_neg hkey, if_neg (heq ▸ hkey)]
    · rw [lookup, ih, if_pos hkey, if_neg (fun h => heq (hkey.trans h.symm))]
    · rw [lookup, lookup, ih, if_neg hkey]

theorem lookup_eq_none (h : key ∉ members.map Prod.fst) : lookup key members = none := by
  induction members with
  | nil => rfl
  | cons m rest ih =>
    rw [List.map_cons, List.mem_cons, not_or] at h
    rw [lookup, if_neg (Ne.symm h.1)]
    exact ih h.2

/-- Where each key stands once, every member is found under its own. -/
theorem lookup_of_mem (h : (members.map Prod.fst).Nodup) {m : Text × Json} (hm : m ∈ members) :
    lookup m.1 members = some m.2 := by
  induction members with
  | nil => cases hm
  | cons m' rest ih =>
    obtain ⟨hnew, hrest⟩ := List.nodup_cons.mp h
    rcases List.mem_cons.mp hm with rfl | hm
    · rw [lookup, if_pos rfl]
    · have hne : m'.1 ≠ m.1 := fun heq => hnew (heq ▸ List.mem_map_of_mem hm)
      rw [lookup, if_neg hne]
      exact ih hrest hm

/-- Members that are put in one after the other are found before those that were there. -/
theorem lookup_foldl_insertMember (h : (members.map Prod.fst).Nodup) (sofar : List (Text × Json)) :
    lookup key (members.foldl (fun sofar m => insertMember m.1 m.2 sofar) sofar) =
      (lookup key members).or (lookup key sofar) := by
  induction members generalizing sofar with
  | nil => rfl
  | cons m rest ih =>
    obtain ⟨hnew, hrest⟩ := List.nodup_cons.mp h
    rw [List.foldl_cons, ih hrest, lookup_insertMember, lookup]
    by_cases hkey : m.1 = key
    · -- the rest has no second member with this key
      rw [if_pos hkey, if_pos hkey, lookup_eq_none (hkey ▸ hnew)]
      rfl
    · rw [if_neg hkey, if_neg hkey]

/-- Where each key stands once, putting the members in order changes nothing about them. -/
theorem lookup_ordered (h : (members.map Prod.fst).Nodup) :
    lookup key (ordered members) = lookup key members := by
  rw [ordered, lookup_foldl_insertMember h]
  exact Option.or_none

end Json

/-- An amount is read from members in key order as from members in any other. -/
theorem Amount.ofJson_object {members : List (Text × Json)} (h : (members.map Prod.fst).Nodup) :
    Amount.ofJson (.object members) = Amount.ofJson (.obj members) := by
  unfold Json.object Amount.ofJson Amount.ofMembers decodeField
  simp only [Json.lookup_ordered h]

/-! ## Numbers -/

namespace Binary64

/-- A number is the nearest one to itself. -/
theorem isNearestNumber_number {x : Binary64} (h : x.isFinite = true) :
    IsNearestNumber x.number x where
  finite := h
  nearest := by
    intro y _
    rw [sub_self, abs_zero]
    exact abs_nonneg _
  even_of_tie := by
    intro y _ hne htie
    rw [sub_self, abs_zero, eq_comm, abs_eq_zero, sub_eq_zero] at htie
    exact absurd htie.symm hne

theorem isNearest_ofInt (n : ℤ) : IsNearest n.natAbs (ofInt n).magnitude := by
  have h := (nearest_eq_iff Nat.one_pos).mp (rfl : nearest n.natAbs 1 = (ofInt n).magnitude)
  rwa [Nat.cast_one, div_one] at h

/-- A whole number keeps its sign, however it is rounded. -/
theorem isBelowZero_ofInt {n : ℤ} : (ofInt n).isBelowZero = false ↔ 0 ≤ n := by
  rw [← not_lt, ← Bool.not_eq_true, not_iff_not]
  constructor
  · intro h
    simp only [isBelowZero, Bool.and_eq_true] at h
    exact of_decide_eq_true h.1.1
  · intro hneg
    have hmagnitude : (ofInt n).magnitude ≠ 0 := by
      intro hzero
      have hle := isNearest_ofInt n
      rw [hzero, isNearest_zero_iff] at hle
      have hone : (1 : ℚ) ≤ n.natAbs := Nat.one_le_cast.mpr (by omega)
      have hsmall : 1 / 2 ^ 1075 < (1 : ℚ) :=
        (div_lt_one (by positivity)).mpr (one_lt_pow₀ one_lt_two (by decide))
      exact absurd (hone.trans hle) (not_le.mpr hsmall)
    simp only [isBelowZero, Bool.and_eq_true, decide_eq_true_eq]
    exact ⟨⟨decide_eq_true hneg, Nat.pos_of_ne_zero hmagnitude⟩, nearest_le_infinity _ _⟩

/-- A whole number of 64 bits is far from the end of the format. -/
theorem isFinite_ofInt {n : ℤ} (hlow : -2 ^ 63 ≤ n) (hhigh : n < 2 ^ 64) :
    (ofInt n).isFinite = true := by
  have hle : (ofInt n).magnitude ≤ infinity := nearest_le_infinity _ _
  refine decide_eq_true (Nat.lt_of_le_of_ne hle ?_)
  intro hinfinity
  have hlarge := isNearest_ofInt n
  rw [hinfinity, isNearest_infinity_iff] at hlarge
  have hsmall : (n.natAbs : ℚ) ≤ 2 ^ 64 := by
    have : n.natAbs ≤ 2 ^ 64 := by omega
    exact_mod_cast this
  have hgap : (2 : ℚ) ^ 64 + 2 ^ 970 < 2 ^ 1024 := by
    calc (2 : ℚ) ^ 64 + 2 ^ 970 < 2 ^ 970 + 2 ^ 970 := by
          gcongr
          · exact one_lt_two
          · decide
      _ = 2 ^ 971 := by rw [← two_mul, ← pow_succ']
      _ ≤ 2 ^ 1024 := pow_le_pow_right₀ one_le_two (by decide)
  exact absurd (hlarge.trans hsmall) (not_le.mpr (lt_sub_iff_add_lt.mpr hgap))

end Binary64

namespace Json

/-- The value is the number `q`, whole or not, and `x` is that number in the format. -/
inductive IsNumber : Json → ℚ → Binary64 → Prop
  | int {n : ℤ} (h : (Binary64.ofInt n).isFinite = true) : IsNumber (.int n) n (Binary64.ofInt n)
  | float {x : Binary64} (h : x.isFinite = true) : IsNumber (.float x) x.number x

variable {v : Json} {q : ℚ} {x : Binary64}

theorem exists_isNumber_iff :
    (∃ q, v.IsNumber q x) ↔ v.number? = some x ∧ x.isFinite = true := by
  constructor
  · rintro ⟨q, ⟨h⟩ | ⟨h⟩⟩
    · exact ⟨rfl, h⟩
    · exact ⟨rfl, h⟩
  · rintro ⟨hnumber, hfinite⟩
    cases v with
    | int n =>
      obtain rfl : Binary64.ofInt n = x := Option.some.inj hnumber
      exact ⟨_, .int hfinite⟩
    | float y =>
      obtain rfl : y = x := Option.some.inj hnumber
      exact ⟨_, .float hfinite⟩
    | _ => cases hnumber

theorem IsNumber.isFinite (h : v.IsNumber q x) : x.isFinite = true :=
  (exists_isNumber_iff.mp ⟨q, h⟩).2

/-- The check on the number in the format is one on the number itself. -/
theorem IsNumber.isBelowZero_eq_false_iff (h : v.IsNumber q x) :
    x.isBelowZero = false ↔ 0 ≤ q := by
  cases h with
  | int _ => rw [isBelowZero_ofInt, Int.cast_nonneg_iff]
  | float hfinite => exact Binary64.isBelowZero_eq_false_iff hfinite

theorem IsNumber.isNearestNumber (h : v.IsNumber q x) (hq : 0 ≤ q) : IsNearestNumber q x := by
  cases h with
  | @int n hfinite =>
    have hn : 0 ≤ n := Int.cast_nonneg_iff.mp hq
    have hcast : (n : ℚ) = n.natAbs := by
      rw [← Int.cast_natCast, Int.natAbs_of_nonneg hn]
    rw [hcast] at hq ⊢
    exact (isNearest_ofInt n).isNearestNumber hq (decide_eq_false (not_lt.mpr hn)) hfinite
  | float hfinite => exact isNearestNumber_number hfinite

end Json

/-! ## Reading each part -/

section parts

variable {ε ε' α β : Type} {a : α} {b : β}

theorem bind_eq_ok_iff {m : Except ε α} {f : α → Except ε β} :
    m >>= f = .ok b ↔ ∃ a, m = .ok a ∧ f a = .ok b := by
  cases m with
  | error e => simp [bind, Except.bind]
  | ok a => simp [bind, Except.bind]

theorem mapError_eq_ok_iff {m : Except ε α} {f : ε → ε'} : m.mapError f = .ok a ↔ m = .ok a := by
  cases m <;> simp [Except.mapError]

theorem decodeText_eq_ok_iff {make : Text → Except Invalid α} {v : Json} :
    decodeText make v = .ok a ↔ ∃ s, v = .str s ∧ make s = .ok a := by
  cases v <;> simp [decodeText, mapError_eq_ok_iff]

theorem decodeNumber_eq_ok_iff {v : Json} {x : Binary64} :
    decodeNumber v = .ok x ↔ v.number? = some x := by
  unfold decodeNumber
  cases v.number? <;> simp

theorem decodeFlag_eq_ok_iff {v : Json} {percent : Bool} :
    decodeFlag v = .ok percent ↔ v = .bool percent := by
  cases v <;> simp [decodeFlag]

theorem decodeField_eq_ok_some_iff {decode : Json → Except DecodeError α} {key : String}
    {members : List (Text × Json)} :
    decodeField decode key members = .ok (some a) ↔
      ∃ v, Json.lookup key.toList members = some v ∧ decode v = .ok a := by
  unfold decodeField
  cases Json.lookup key.toList members with
  | none => simp
  | some v => cases h : decode v <;> simp [Except.map, h]

theorem requireField_eq_ok_iff {key : String} {o : Option α} :
    requireField key o = .ok a ↔ o = some a := by
  cases o <;> simp [requireField]

end parts

/-- Only one or more letters make a unit. -/
theorem UnitName.letters_of_ofText {s : Text} {u : UnitName} (h : UnitName.ofText s = .ok u) :
    s ≠ [] ∧ Run Char.isAlpha s := by
  by_cases hs : s ≠ [] ∧ s.all Char.isAlpha = true
  · exact ⟨hs.1, all_eq_true_iff_run.mp hs.2⟩
  · rw [UnitName.ofText, dif_neg hs] at h
    cases h

namespace Amount

variable {a : Amount}

/-- What is made of a number, a flag and a unit has these three. -/
theorem ofValue_eq_ok_iff {x : Binary64} {percent : Bool} {u : UnitName} :
    ofValue x percent u = .ok a ↔ a.value = x ∧ a.percent = percent ∧ a.unit = u := by
  constructor
  · intro h
    unfold ofValue at h
    split_ifs at h
    obtain rfl := Except.ok.inj h
    exact ⟨rfl, rfl, rfl⟩
  · rintro ⟨rfl, rfl, rfl⟩
    exact a.ofValue_value

theorem ofParts_eq_ok_iff {x : Binary64} {percent : Bool} {u : UnitName} :
    ofParts x percent u = .ok a ↔ ofValue x percent u = .ok a :=
  mapError_eq_ok_iff

end Amount

/-! ## What is read as an amount -/

namespace Json

/-- The value has three parts: under the keys `value`, `isPercent` and `unit` of an object, whatever
else is in it, or as the items of an array that has no others. -/
inductive HasParts : Json → Json → Json → Json → Prop
  | members {members : List (Text × Json)} {value percent unit : Json}
      (hvalue : lookup "value".toList members = some value)
      (hpercent : lookup "isPercent".toList members = some percent)
      (hunit : lookup "unit".toList members = some unit) :
      HasParts (.obj members) value percent unit
  | items (value percent unit : Json) : HasParts (.arr [value, percent, unit]) value percent unit

/-- The value says how much: its parts are the number `q`, not below zero and `x` in the format,
then a truth value, and then a string of one or more letters. -/
structure SaysAmount (j : Json) (q : ℚ) (x : Binary64) (percent : Bool) (s : Text) : Prop where
  parts : ∃ v, j.HasParts v (.bool percent) (.str s) ∧ v.IsNumber q x
  nonneg : 0 ≤ q
  unit_ne_nil : s ≠ []
  unit_letters : Run Char.isAlpha s

end Json

namespace Amount

variable {a : Amount}

/-- The three parts of an amount are read one by one, and put together. -/
structure ReadFrom (value percent unit : Json) (a : Amount) : Prop where
  value : value.number? = some a.value
  percent : percent = .bool a.percent
  unit : UnitName.ofJson unit = .ok a.unit

theorem readFrom_iff {v p u : Json} :
    ReadFrom v p u a ↔
      ∃ x percent unit, decodeNumber v = .ok x ∧ decodeFlag p = .ok percent ∧
        UnitName.ofJson u = .ok unit ∧ ofParts x percent unit = .ok a := by
  simp only [decodeNumber_eq_ok_iff, decodeFlag_eq_ok_iff, ofParts_eq_ok_iff, ofValue_eq_ok_iff]
  constructor
  · intro h
    exact ⟨_, _, _, h.value, h.percent, h.unit, rfl, rfl, rfl⟩
  · rintro ⟨_, _, _, hvalue, hpercent, hunit, rfl, rfl, rfl⟩
    exact ⟨hvalue, hpercent, hunit⟩

/-- From an object the parts are read in key order, and all three have to be there. -/
theorem ofMembers_eq_ok_iff {members : List (Text × Json)} :
    ofMembers members = .ok a ↔
      ∃ v p u, Json.HasParts (.obj members) v p u ∧ ReadFrom v p u a := by
  simp only [ofMembers, bind_eq_ok_iff, requireField_eq_ok_iff, readFrom_iff]
  constructor
  · rintro ⟨_, hp, _, hu, _, hv, x, rfl, percent, rfl, unit, rfl, ha⟩
    obtain ⟨v, hlookup, hx⟩ := decodeField_eq_ok_some_iff.mp hv
    obtain ⟨p, hlookup', hpercent⟩ := decodeField_eq_ok_some_iff.mp hp
    obtain ⟨u, hlookup'', hunit⟩ := decodeField_eq_ok_some_iff.mp hu
    exact ⟨v, p, u, .members hlookup hlookup' hlookup'', x, percent, unit, hx, hpercent, hunit, ha⟩
  · rintro ⟨v, p, u, ⟨hlookup, hlookup', hlookup''⟩, x, percent, unit, hx, hpercent, hunit, ha⟩
    exact ⟨_, decodeField_eq_ok_some_iff.mpr ⟨p, hlookup', hpercent⟩,
      _, decodeField_eq_ok_some_iff.mpr ⟨u, hlookup'', hunit⟩,
      _, decodeField_eq_ok_some_iff.mpr ⟨v, hlookup, hx⟩,
      x, rfl, percent, rfl, unit, rfl, ha⟩

/-- From an array the parts are read one after the other, and there must be three. -/
theorem ofItems_eq_ok_iff {items : List Json} :
    ofItems items = .ok a ↔ ∃ v p u, Json.HasParts (.arr items) v p u ∧ ReadFrom v p u a := by
  constructor
  · intro h
    match items with
    | [v, p, u] =>
      simp only [ofItems, bind_eq_ok_iff] at h
      obtain ⟨x, hx, percent, hpercent, unit, hunit, ha⟩ := h
      exact ⟨v, p, u, .items v p u, readFrom_iff.mpr ⟨x, percent, unit, hx, hpercent, hunit, ha⟩⟩
    | [] => cases h
    | [v] => simp [ofItems, bind_eq_ok_iff] at h
    | [v, p] => simp [ofItems, bind_eq_ok_iff] at h
    | v :: p :: u :: w :: rest => simp [ofItems, bind_eq_ok_iff] at h
  · rintro ⟨v, p, u, ⟨⟩, h⟩
    obtain ⟨x, percent, unit, hx, hpercent, hunit, ha⟩ := readFrom_iff.mp h
    simp only [ofItems, bind_eq_ok_iff]
    exact ⟨x, hx, percent, hpercent, unit, hunit, ha⟩

theorem ofJson_eq_ok_iff_readFrom {j : Json} :
    ofJson j = .ok a ↔ ∃ v p u, j.HasParts v p u ∧ ReadFrom v p u a := by
  cases j with
  | obj members => exact ofMembers_eq_ok_iff
  | arr items => exact ofItems_eq_ok_iff
  | _ =>
    constructor
    · intro h
      cases h
    · rintro ⟨v, p, u, ⟨⟩, -⟩

/-- A value is read as an amount exactly when it says one, and then as that one. -/
theorem ofJson_eq_ok_iff {j : Json} :
    ofJson j = .ok a ↔
      ∃ q x percent s unit, j.SaysAmount q x percent s ∧ UnitName.ofText s = .ok unit ∧
        ofValue x percent unit = .ok a := by
  rw [ofJson_eq_ok_iff_readFrom]
  constructor
  · rintro ⟨v, p, u, hparts, ⟨hvalue, rfl, hunit⟩⟩
    obtain ⟨s, rfl, hs⟩ := decodeText_eq_ok_iff.mp hunit
    obtain ⟨hne, hletters⟩ := UnitName.letters_of_ofText hs
    obtain ⟨q, hq⟩ := Json.exists_isNumber_iff.mpr ⟨hvalue, a.isFinite_value⟩
    have hnonneg : 0 ≤ q := hq.isBelowZero_eq_false_iff.mp a.isBelowZero_value
    exact ⟨q, _, _, s, _, ⟨⟨v, hparts, hq⟩, hnonneg, hne, hletters⟩, hs, a.ofValue_value⟩
  · rintro ⟨q, x, percent, s, unit, ⟨⟨v, hparts, hq⟩, -, -, -⟩, hs, ha⟩
    obtain ⟨rfl, rfl, rfl⟩ := ofValue_eq_ok_iff.mp ha
    have hvalue := (Json.exists_isNumber_iff.mp ⟨q, hq⟩).1
    exact ⟨v, _, _, hparts, hvalue, rfl, decodeText_eq_ok_iff.mpr ⟨s, rfl, hs⟩⟩

/-- What says an amount passes the checks of the constructor. -/
theorem exists_ofValue_of_saysAmount {j : Json} {q : ℚ} {x : Binary64} {percent : Bool} {s : Text}
    (h : j.SaysAmount q x percent s) :
    ∃ unit a, unit.text = lower s ∧ ofValue x percent unit = .ok a ∧ ofJson j = .ok a := by
  obtain ⟨unit, hunit, htext⟩ := UnitName.ofText_letters h.unit_ne_nil h.unit_letters
  obtain ⟨v, -, hnumber⟩ := h.parts
  have hnonneg := hnumber.isBelowZero_eq_false_iff.mpr h.nonneg
  have ha := ofValue_value ⟨x, percent, unit, hnumber.isFinite, hnonneg⟩
  exact ⟨unit, _, htext, ha, ofJson_eq_ok_iff.mpr ⟨q, x, percent, s, unit, h, hunit, ha⟩⟩

end Amount

/-! ## What is written is read back -/

theorem Address.ofJson_toJson (t : Address) : Address.ofJson t.toJson = .ok t :=
  decodeText_eq_ok_iff.mpr ⟨t.text, rfl, t.ofText_text⟩

theorem UnitName.ofJson_toJson (u : UnitName) : UnitName.ofJson u.toJson = .ok u :=
  decodeText_eq_ok_iff.mpr ⟨u.text, rfl, u.ofText_text⟩

/-- An amount is read from any record that has its fields, whatever else it has, in the order of
the record and in key order. -/
theorem Amount.ofJson_of_fields (a : Amount) {members : List (Text × Json)}
    (hdistinct : (members.map Prod.fst).Nodup) (h : a.fields ⊆ members) :
    Amount.ofJson (.obj members) = .ok a ∧ Amount.ofJson (.object members) = .ok a := by
  have hparts : Json.HasParts (.obj members) (.float a.value) (.bool a.percent) a.unit.toJson :=
    .members (Json.lookup_of_mem hdistinct (h (.head _)))
      (Json.lookup_of_mem hdistinct (h (.tail _ (.head _))))
      (Json.lookup_of_mem hdistinct (h (.tail _ (.tail _ (.head _)))))
  have hread := Amount.ofJson_eq_ok_iff_readFrom.mpr
    ⟨_, _, _, hparts, rfl, rfl, a.unit.ofJson_toJson⟩
  exact ⟨hread, (Amount.ofJson_object hdistinct).trans hread⟩

theorem Amount.ofJson_toJson (a : Amount) :
    Amount.ofJson a.toJson = .ok a ∧ Amount.ofJson (.object a.fields) = .ok a := by
  have hkeys : a.fields.map Prod.fst = ["value", "isPercent", "unit"].map String.toList := rfl
  refine a.ofJson_of_fields ?_ (List.Subset.refl _)
  rw [hkeys]
  decide

theorem Command.nodup_keys_fields (c : Command) : (c.fields.map Prod.fst).Nodup := by
  rw [c.keys_fields]
  cases c.action.isTrade <;> decide

/-- The record of a trade has the fields of its amount, which no other field hides. -/
theorem Amount.ofJson_trade (side : Side) (target : Address) (a : Amount) :
    Amount.ofJson (Command.trade side target a).toJson = .ok a ∧
      Amount.ofJson (.object (Command.trade side target a).fields) = .ok a :=
  a.ofJson_of_fields (Command.nodup_keys_fields _) (List.subset_append_right _ _)

/-! ## The main statement -/

/-- **Values that are read back.** An address, a unit and an amount are read from what they are
written as, be it in the order of the fields or in key order, and so is the amount of a trade from
the record of the trade. A value is read as an amount exactly when it says one: it is an object with
a number, a truth value and a string under `value`, `isPercent` and `unit`, or an array of these
three and no more, the number is not below zero and the string is one or more letters. It is then
read as the amount that the constructor makes of the number in the format, which is the nearest one,
the truth value and the letters in lower case, and reading what that amount is written as changes
nothing any more. Every whole number of 64 bits counts as a number here. -/
theorem ofJson_inverts_toJson :
    (∀ t : Address, Address.ofJson t.toJson = .ok t) ∧
    (∀ u : UnitName, UnitName.ofJson u.toJson = .ok u) ∧
    (∀ a : Amount, Amount.ofJson a.toJson = .ok a ∧ Amount.ofJson (.object a.fields) = .ok a) ∧
    (∀ side target a, Amount.ofJson (Command.trade side target a).toJson = .ok a ∧
      Amount.ofJson (.object (Command.trade side target a).fields) = .ok a) ∧
    (∀ j : Json, (∃ a, Amount.ofJson j = .ok a) ↔ ∃ q x percent s, j.SaysAmount q x percent s) ∧
    (∀ (j : Json) q x percent s, j.SaysAmount q x percent s → IsNearestNumber q x ∧
      ∃ (unit : UnitName) (a : Amount), unit.text = lower s ∧
        Amount.ofValue x percent unit = .ok a ∧ Amount.ofJson j = .ok a) ∧
    (∀ j a, Amount.ofJson j = .ok a →
      Amount.ofJson a.toJson = .ok a ∧ Amount.ofJson (.object a.fields) = .ok a) ∧
    (∀ n : ℤ, -2 ^ 63 ≤ n → n < 2 ^ 64 → (Json.int n).IsNumber n (Binary64.ofInt n)) := by
  refine ⟨Address.ofJson_toJson, UnitName.ofJson_toJson, Amount.ofJson_toJson,
    Amount.ofJson_trade, ?_, ?_, ?_, ?_⟩
  · intro j
    constructor
    · rintro ⟨a, ha⟩
      obtain ⟨q, x, percent, s, -, hsays, -⟩ := Amount.ofJson_eq_ok_iff.mp ha
      exact ⟨q, x, percent, s, hsays⟩
    · rintro ⟨q, x, percent, s, hsays⟩
      obtain ⟨-, a, -, -, ha⟩ := Amount.exists_ofValue_of_saysAmount hsays
      exact ⟨a, ha⟩
  · intro j q x percent s hsays
    obtain ⟨v, -, hnumber⟩ := hsays.parts
    exact ⟨hnumber.isNearestNumber hsays.nonneg, Amount.exists_ofValue_of_saysAmount hsays⟩
  · intro j a _
    exact a.ofJson_toJson
  · intro n hlow hhigh
    exact .int (isFinite_ofInt hlow hhigh)

/-- An object with a whole number, capital letters and a key of its own says an amount. -/
theorem ofJson_inverts_toJson_spread :
    let j := Json.obj [field "unit" (.str "ETH".toList), field "note" .null,
      field "value" (.int 9007199254740993), field "isPercent" (.bool true)]
    ∃ x, j.SaysAmount 9007199254740993 x true "ETH".toList ∧
      ∃ a, Amount.ofJson j = .ok a ∧ a.unit.text = "eth".toList ∧
        Amount.ofJson a.toJson = .ok a := by
  obtain ⟨-, -, -, -, -, hsays, hagain, hwhole⟩ := ofJson_inverts_toJson
  intro j
  have hnumber := hwhole 9007199254740993 (by decide) (by decide)
  have hj : j.SaysAmount 9007199254740993 _ true "ETH".toList :=
    ⟨⟨_, .members rfl rfl rfl, hnumber⟩, by norm_num, by decide, all_eq_true_iff_run.mp rfl⟩
  obtain ⟨-, unit, a, htext, hvalue, hread⟩ := hsays _ _ _ _ _ hj
  obtain ⟨-, -, rfl⟩ := Amount.ofValue_eq_ok_iff.mp hvalue
  exact ⟨_, hj, a, hread, htext.trans rfl, (hagain j a hread).1⟩

end TradeLine
