import Mathlib.Data.Char
import Mathlib.Data.List.Lex
import TradeLine.Output.Format
import TradeLine.Proofs.BatchLines
import TradeLine.Proofs.EnvelopeAccount
import TradeLine.Proofs.TwoRenderings

/-!
# One value a line

An envelope with an array as its data goes out in lines, one for each item and a summary last. The
lines can be told apart because no written value holds a line feed, whatever is in its strings and
keys, and they carry what the one JSON value of the envelope does.

* `isTokenChar` — numbers, truth values and `null` are written as letters, digits, signs and points;
* `isShown`, `run_compact` — a written value has no control character, at any depth;
* `compactItems_eq_intercalate` — the items of an array are written as on their own, with commas;
* `Json.general`, `Json.SameValue` — values that differ in the order of members alone are the same
  one, so it does not matter for an object whether it is a record or in key order
  (`sameValue_object`);
* `IsFramed` — a text is made of lines that are not empty and have no control character.

**Main statement** (`ndjson_carries_json`): the lines of an envelope are framed, those of the items
with commas are the data in the plain format, and the summary has the same heading and issues. Without
an array the two formats are the same.
-/

namespace TradeLine

open Text

/-! ## Tokens -/

/-- The characters of numbers and of the three names: letters, digits, signs and the point. -/
def isTokenChar (c : Char) : Bool :=
  c.isAlphanum || c = '+' || c = '-' || c = '.'

theorem isTokenChar_of_isDigit {c : Char} (h : c.isDigit = true) : isTokenChar c = true := by
  simp [isTokenChar, Char.isAlphanum, h]

theorem run_isTokenChar_of_digits {s : Text} (h : Run Char.isDigit s) : Run isTokenChar s :=
  fun c hc => isTokenChar_of_isDigit (h c hc)

theorem run_isTokenChar_ofNat (n : Nat) : Run isTokenChar (Text.ofNat n) :=
  run_isTokenChar_of_digits (Decimal.run_ofCoefficient n 0)

theorem IsLiteral.run_isTokenChar {v : Text} (h : IsLiteral v) : Run isTokenChar v := by
  cases h with
  | whole hs => exact run_isTokenChar_of_digits hs.digits
  | point hs ht =>
    rw [run_append, run_cons]
    exact ⟨run_isTokenChar_of_digits hs.digits, rfl, run_isTokenChar_of_digits ht.digits⟩

/-- A decimal is a token in every style. -/
theorem NumberStyle.run_isTokenChar_decimal (style : NumberStyle) {d : Decimal}
    (h : IsDigits d.digits) : Run isTokenChar (style.decimal d) := by
  unfold decimal
  split_ifs with hplain hpoint
  · exact (literal_point_zero h hpoint.2).1.run_isTokenChar
  · rw [List.append_nil]
    exact (Decimal.plain_literal h).1.run_isTokenChar
  · have hmantissa := run_isTokenChar_of_digits h.digits
    have hexponent := run_isTokenChar_ofNat d.leading.natAbs
    unfold Decimal.power
    rw [run_append, run_cons]
    refine ⟨?_, rfl, ?_⟩
    · split
      · next heq =>
        rw [heq, run_cons] at hmantissa
        exact run_cons.mpr ⟨hmantissa.1, run_cons.mpr ⟨rfl, hmantissa.2⟩⟩
      · exact hmantissa
    · split_ifs
      · exact run_cons.mpr ⟨rfl, hexponent⟩
      · exact run_cons.mpr ⟨rfl, hexponent⟩

theorem Binary64.run_isTokenChar_json (x : Binary64) : Run isTokenChar x.json := by
  unfold json
  split_ifs with h
  · obtain ⟨hdigits, -⟩ := shortest_spec NumberStyle.json.tie (of_decide_eq_true h)
    unfold NumberStyle.finite
    rw [run_append]
    refine ⟨?_, NumberStyle.json.run_isTokenChar_decimal hdigits⟩
    split_ifs <;> simp [isTokenChar]
  · exact all_eq_true_iff_run.mp rfl

theorem run_isTokenChar_ofInt (n : ℤ) : Run isTokenChar (Text.ofInt n) := by
  unfold Text.ofInt
  split_ifs
  · exact run_cons.mpr ⟨rfl, run_isTokenChar_ofNat _⟩
  · exact run_isTokenChar_ofNat _

theorem Json.run_isTokenChar_boolean (b : Bool) : Run isTokenChar (boolean b) := by
  cases b <;> exact all_eq_true_iff_run.mp rfl

/-! ## Characters that are shown -/

/-- The character is no control character below the space. -/
def isShown (c : Char) : Bool :=
  0x20 ≤ c.toNat

theorem isShown_of_isTokenChar {c : Char} (h : isTokenChar c = true) : isShown c = true := by
  simp only [isTokenChar, Bool.or_eq_true, decide_eq_true_eq] at h
  rcases h with ((h | rfl) | rfl) | rfl
  · rw [isAlphanum_iff, isAlpha_iff, isDigit_iff] at h
    exact decide_eq_true (by omega)
  all_goals rfl

/-- Tokens show. -/
theorem run_isShown_of_token {s : Text} (h : Run isTokenChar s) : Run isShown s :=
  fun c hc => isShown_of_isTokenChar (h c hc)

namespace Json

/-- The digits of a code in a string. -/
theorem isTokenChar_digitChar : ∀ n < 16, isTokenChar n.digitChar = true := by
  decide

/-- Control characters are written with others. -/
theorem run_isShown_escapedChar (c : Char) : Run isShown (escapedChar c) := by
  unfold escapedChar
  split_ifs with _ _ _ _ _ _ _ hcontrol
  any_goals exact all_eq_true_iff_run.mp rfl
  · have hhigh := isTokenChar_digitChar (c.toNat / 16) (by omega)
    have hlow := isTokenChar_digitChar (c.toNat % 16) (by omega)
    simp only [run_cons, run_nil, and_true]
    exact ⟨rfl, rfl, rfl, rfl, isShown_of_isTokenChar hhigh, isShown_of_isTokenChar hlow⟩
  · simpa [isShown] using hcontrol

theorem run_isShown_string (s : Text) : Run isShown (string s) := by
  have hescaped : Run isShown (s.flatMap escapedChar) := by
    intro c hc
    obtain ⟨c', -, hc'⟩ := List.mem_flatMap.mp hc
    exact run_isShown_escapedChar c' c hc'
  simp [string, hescaped, isShown]

/-! ## Written values -/

mutual

/-- A written value has no control character, whatever strings and keys are in it. -/
theorem run_compact : ∀ v : Json, Run isShown v.compact
  | .null => all_eq_true_iff_run.mp rfl
  | .bool b => run_isShown_of_token (run_isTokenChar_boolean b)
  | .int n => run_isShown_of_token (run_isTokenChar_ofInt n)
  | .float x => run_isShown_of_token x.run_isTokenChar_json
  | .str s => run_isShown_string s
  | .arr items => by
    have hitems := run_compactItems [] run_nil items
    simp [compact, hitems, isShown]
  | .obj members => by
    have hmembers := run_compactMembers [] run_nil members
    simp [compact, hmembers, isShown]

theorem run_compactItems (before : Text) (h : Run isShown before) :
    ∀ items, Run isShown (compactItems before items)
  | [] => run_nil
  | item :: items => by
    have hitem := run_compact item
    have hitems := run_compactItems [','] (by simp [isShown]) items
    simp [compactItems, h, hitem, hitems]

theorem run_compactMembers (before : Text) (h : Run isShown before) :
    ∀ members, Run isShown (compactMembers before members)
  | [] => run_nil
  | (key, value) :: members => by
    have hkey := run_isShown_string key
    have hvalue := run_compact value
    have hmembers := run_compactMembers [','] (by simp [isShown]) members
    simp [compactMembers, h, hkey, hvalue, hmembers, isShown]

end

/-- No value is written as nothing. -/
theorem compact_ne_nil (v : Json) : v.compact ≠ [] := by
  cases v with
  | null => exact List.cons_ne_nil _ _
  | bool b => cases b <;> exact List.cons_ne_nil _ _
  | int n =>
    rw [compact, Text.ofInt]
    split_ifs
    · exact List.cons_ne_nil _ _
    · exact Nat.toDigits_ne_nil
  | float x =>
    rw [compact, Binary64.json]
    split_ifs with h
    · obtain ⟨hdigits, -⟩ := Binary64.shortest_spec NumberStyle.json.tie (of_decide_eq_true h)
      obtain ⟨v, t, e, hdecimal, hliteral, -⟩ := NumberStyle.json.decimal_literal hdigits
      obtain ⟨c, s, rfl, -⟩ := hliteral.exists_cons
      rw [NumberStyle.finite, hdecimal]
      simp
    · exact List.cons_ne_nil _ _
  | str s => exact List.cons_ne_nil _ _
  | arr items => exact List.cons_ne_nil _ _
  | obj members => exact List.cons_ne_nil _ _

/-- The items of an array are written as on their own, with commas between them. -/
theorem compactItems_eq_intercalate (items : List Json) :
    compactItems [] items = [','].intercalate (items.map compact) := by
  induction items with
  | nil => rfl
  | cons item items ih =>
    cases items with
    | nil => simp [compactItems]
    | cons item' items =>
      have hcomma : compactItems [','] (item' :: items) = ',' :: compactItems [] (item' :: items) :=
        rfl
      rw [compactItems, hcomma, ih, List.map_cons, List.map_cons, List.map_cons,
        List.intercalate_cons_cons]
      simp

/-! ## The same value -/

mutual

/-- The value with the members of every object in key order. -/
def general : Json → Json
  | .null => .null
  | .bool b => .bool b
  | .int n => .int n
  | .float x => .float x
  | .str s => .str s
  | .arr items => .arr (generalItems items)
  | .obj members => .object (generalMembers members)

/-- The items of an array, each as a general value. -/
def generalItems : List Json → List Json
  | [] => []
  | item :: items => general item :: generalItems items

/-- The members of an object in their own order, each with a general value. -/
def generalMembers : List (Text × Json) → List (Text × Json)
  | [] => []
  | (key, value) :: members => (key, general value) :: generalMembers members

end

/-- The values differ at most in the order of members, at any depth. Of members with the same key
the last one counts. -/
def SameValue (v w : Json) : Prop :=
  v.general = w.general

theorem generalItems_eq_map (items : List Json) : generalItems items = items.map general := by
  induction items with
  | nil => rfl
  | cons item items ih => rw [generalItems, ih, List.map_cons]

section order

variable {members sofar : List (Text × Json)}

/-- The keys go up, so each stands once. -/
def InKeyOrder (members : List (Text × Json)) : Prop :=
  (members.map Prod.fst).Pairwise (· < ·)

theorem mem_keys_insertMember {key k : Text} {v : Json}
    (h : key ∈ (insertMember k v members).map Prod.fst) : key = k ∨ key ∈ members.map Prod.fst := by
  induction members with
  | nil => simpa [insertMember] using h
  | cons m rest ih =>
    obtain ⟨k', v'⟩ := m
    unfold insertMember at h
    split_ifs at h with hlt heq
    · simpa using h
    · rw [List.map_cons, List.mem_cons] at h
      exact h.imp_right (List.mem_cons_of_mem _)
    · rw [List.map_cons, List.mem_cons] at h
      rcases h with rfl | h
      · exact .inr List.mem_cons_self
      · exact (ih h).imp_right (List.mem_cons_of_mem _)

/-- A member that is put in keeps the keys in order. -/
theorem InKeyOrder.insertMember (h : InKeyOrder members) (k : Text) (v : Json) :
    InKeyOrder (insertMember k v members) := by
  induction members with
  | nil => exact List.pairwise_singleton _ _
  | cons m rest ih =>
    obtain ⟨k', v'⟩ := m
    obtain ⟨hfirst, hrest⟩ := List.pairwise_cons.mp h
    unfold Json.insertMember
    split_ifs with hlt heq
    · refine List.pairwise_cons.mpr ⟨?_, h⟩
      intro key hkey
      rcases List.mem_cons.mp hkey with rfl | hkey
      · exact hlt
      · exact hlt.trans (hfirst key hkey)
    · exact List.pairwise_cons.mpr ⟨fun key hkey => heq ▸ hfirst key hkey, hrest⟩
    · refine List.pairwise_cons.mpr ⟨?_, ih hrest⟩
      intro key hkey
      rcases mem_keys_insertMember hkey with rfl | hkey
      · exact lt_of_le_of_ne (not_lt.mp hlt) (Ne.symm heq)
      · exact hfirst key hkey

theorem inKeyOrder_ordered (members : List (Text × Json)) : InKeyOrder (ordered members) := by
  have hfold : ∀ sofar, InKeyOrder sofar →
      InKeyOrder (members.foldl (fun sofar m => insertMember m.1 m.2 sofar) sofar) := by
    induction members with
    | nil => exact fun _ h => h
    | cons m rest ih => exact fun sofar h => ih _ (h.insertMember m.1 m.2)
  exact hfold [] List.Pairwise.nil

/-- A member with a greater key than all others goes last. -/
theorem insertMember_of_lt {k : Text} (v : Json) (h : ∀ key ∈ sofar.map Prod.fst, key < k) :
    insertMember k v sofar = sofar ++ [(k, v)] := by
  induction sofar with
  | nil => rfl
  | cons m rest ih =>
    obtain ⟨k', v'⟩ := m
    have hlt : k' < k := h k' List.mem_cons_self
    rw [insertMember, if_neg hlt.asymm, if_neg hlt.ne', ih]
    · rfl
    · exact fun key hkey => h key (List.mem_cons_of_mem _ hkey)

/-- Members whose keys go on going up are put in one behind the other. -/
theorem foldl_insertMember_eq_append (h : InKeyOrder (sofar ++ members)) :
    members.foldl (fun sofar m => insertMember m.1 m.2 sofar) sofar = sofar ++ members := by
  induction members generalizing sofar with
  | nil => rw [List.foldl_nil, List.append_nil]
  | cons m rest ih =>
    have hlast : ∀ key ∈ sofar.map Prod.fst, key < m.1 := by
      rw [InKeyOrder, List.map_append, List.pairwise_append] at h
      exact fun key hkey => h.2.2 key hkey m.1 List.mem_cons_self
    have happend : sofar ++ m :: rest = sofar ++ [m] ++ rest := by
      rw [List.append_assoc, List.singleton_append]
    rw [List.foldl_cons, insertMember_of_lt _ hlast, happend]
    exact ih (happend ▸ h)

/-- Members in key order stay as they are. -/
theorem InKeyOrder.ordered_eq (h : InKeyOrder members) : ordered members = members :=
  foldl_insertMember_eq_append h

/-- Putting a member in its place asks for keys alone. -/
theorem generalMembers_insertMember (k : Text) (v : Json) :
    generalMembers (insertMember k v members) = insertMember k v.general (generalMembers members) := by
  induction members with
  | nil => rfl
  | cons m rest ih =>
    obtain ⟨k', v'⟩ := m
    simp only [insertMember, generalMembers]
    split_ifs
    · rfl
    · rfl
    · rw [generalMembers, ih]

theorem generalMembers_ordered (members : List (Text × Json)) :
    generalMembers (ordered members) = ordered (generalMembers members) := by
  have hfold : ∀ sofar,
      generalMembers (members.foldl (fun sofar m => insertMember m.1 m.2 sofar) sofar) =
        (generalMembers members).foldl (fun sofar m => insertMember m.1 m.2 sofar)
          (generalMembers sofar) := by
    induction members with
    | nil => exact fun _ => rfl
    | cons m rest ih =>
      intro sofar
      rw [List.foldl_cons, ih, generalMembers_insertMember]
      rfl
  exact hfold []

end order

/-- An object is the same value as the record of its members. -/
theorem sameValue_object (members : List (Text × Json)) :
    (Json.object members).SameValue (.obj members) := by
  rw [SameValue, object, general, general, generalMembers_ordered, object,
    (inKeyOrder_ordered _).ordered_eq, object]

end Json

/-! ## Lines -/

/-- The text is made of these lines, each with a line feed behind it, and no line is empty or has a
control character in it. -/
structure IsFramed (output : Text) (lines : List Text) : Prop where
  output_eq : output = lines.flatMap (· ++ ['\n'])
  ne_nil : ∀ line ∈ lines, line ≠ []
  shown : ∀ line ∈ lines, Run isShown line

/-- The lines can be told from the text. -/
theorem IsFramed.lines_eq {output : Text} {lines : List Text} (h : IsFramed output lines) :
    Text.lines output = lines := by
  rw [h.output_eq]
  refine lines_flatMap_lineFeed fun line hline hfeed => ?_
  have := h.shown line hline _ hfeed
  cases this

/-- Values that are written with a line feed behind each are framed. -/
theorem isFramed_compact (values : List Json) :
    IsFramed (values.flatMap fun v => v.compact ++ ['\n']) (values.map Json.compact) where
  output_eq := by
    rw [List.flatMap_map]
  ne_nil := by
    intro line hline
    obtain ⟨v, -, rfl⟩ := List.mem_map.mp hline
    exact v.compact_ne_nil
  shown := by
    intro line hline
    obtain ⟨v, -, rfl⟩ := List.mem_map.mp hline
    exact v.run_compact

namespace Envelope

variable (e : Envelope)

/-- The members of the summary are in key order. -/
theorem summary_eq :
    e.summary = .obj [field "errors" (.arr (e.issues.map fun i => .object i.fields)),
      field "meta" (.object e.heading.fields)] :=
  rfl

/-- The issues of the envelope as a record; without any, there is no such member. -/
def errors : Json :=
  if e.toJson.hasKey "errors" then e.toJson.member "errors".toList else .arr []

theorem hasKey_errors : e.toJson.hasKey "errors" = !e.issues.isEmpty := by
  unfold toJson
  cases e.issues with
  | nil => rfl
  | cons i issues => rfl

theorem errors_eq : e.errors = .arr (e.issues.map Issue.toJson) := by
  unfold errors
  rw [hasKey_errors]
  unfold toJson
  cases e.issues with
  | nil => rfl
  | cons i issues => rfl

/-- The summary has the same issues. -/
theorem sameValue_errors : (e.summary.member "errors".toList).SameValue e.errors := by
  have hissues : ∀ i ∈ e.issues, (Json.object i.fields).general = i.toJson.general :=
    fun i _ => Json.sameValue_object i.fields
  rw [errors_eq, summary_eq, field, Json.member_obj_cons_self, Json.SameValue, Json.general,
    Json.general, Json.generalItems_eq_map, Json.generalItems_eq_map, List.map_map, List.map_map]
  exact congrArg Json.arr (List.map_congr_left hissues)

/-- The summary has the same heading. -/
theorem sameValue_meta :
    (e.summary.member "meta".toList).SameValue (e.toJson.member "meta".toList) :=
  Json.sameValue_object e.heading.fields

/-- The envelope on one line, member by member. -/
theorem compact_toJson :
    e.toJson.compact = "\x7b\"meta\":".toList ++ (e.toJson.member "meta".toList).compact ++
      ",\"data\":".toList ++ e.data.compact ++
      (if e.toJson.hasKey "errors" then ",\"errors\":".toList ++ e.errors.compact else []) ++
      ['\x7d'] := by
  have hissues : Json.compactMembers [','] (if e.issues.isEmpty then []
      else [field "errors" (.arr (e.issues.map Issue.toJson))]) =
      if e.toJson.hasKey "errors" then ",\"errors\":".toList ++ e.errors.compact else [] := by
    rw [hasKey_errors, errors_eq]
    cases e.issues with
    | nil => rfl
    | cons i issues => exact List.append_nil _
  have hfront : ∀ m d : Json, Json.compactMembers [] [field "meta" m, field "data" d] =
      "\"meta\":".toList ++ m.compact ++ ",\"data\":".toList ++ d.compact := by
    intro m d
    simp only [field, Json.compactMembers, List.append_nil, List.append_assoc]
    rfl
  have hmeta : e.toJson.member "meta".toList = .obj e.heading.fields := rfl
  rw [hmeta, ← hissues, toJson, Json.compact, Json.compactMembers_append, hfront]
  rfl

end Envelope

/-! ## The main statement -/

/-- **One value a line.** Where the data of an envelope is an array, it goes out as one line for each
item and one for the summary; no line is empty or has a control character in it, so the lines are
found again in the output. Those of the items, with commas between them and brackets around, are the
data in the plain format. The summary has the members `errors` and `meta` alone, and these are the
same values as in the plain format, which leaves out `errors` where there are none. Other data goes
out as in the plain format, and nothing here is ever pretty. -/
theorem ndjson_carries_json (e : Envelope) (pretty : Bool) :
    (∀ items, e.data = .arr items →
      let lines := items.map Json.compact
      lines.length = items.length ∧
      IsFramed (e.render .ndjson pretty) (lines ++ [e.summary.compact]) ∧
      Text.lines (e.render .ndjson pretty) = lines ++ [e.summary.compact] ∧
      e.render .json false =
        "\x7b\"meta\":".toList ++ (e.toJson.member "meta".toList).compact ++
        ",\"data\":".toList ++ ('[' :: [','].intercalate lines ++ [']']) ++
        (if e.toJson.hasKey "errors" then ",\"errors\":".toList ++ e.errors.compact else []) ++
        ['\x7d', '\n'] ∧
      e.summary.keys = ["errors".toList, "meta".toList] ∧
      (e.summary.member "errors".toList).SameValue e.errors ∧
      (e.summary.member "meta".toList).SameValue (e.toJson.member "meta".toList)) ∧
    ((∀ items, e.data ≠ .arr items) → e.render .ndjson pretty = e.render .json false) := by
  constructor
  · intro items hdata lines
    have houtput : e.render .ndjson pretty =
        (items ++ [e.summary]).flatMap fun v => v.compact ++ ['\n'] := by
      rw [Envelope.render, Envelope.ndjson, hdata]
    have hframed : IsFramed (e.render .ndjson pretty) (lines ++ [e.summary.compact]) := by
      have hvalues := isFramed_compact (items ++ [e.summary])
      rwa [← houtput, List.map_append, List.map_singleton] at hvalues
    have hcompact : e.data.compact = '[' :: [','].intercalate lines ++ [']'] := by
      rw [hdata, Json.compact, Json.compactItems_eq_intercalate]
    refine ⟨List.length_map _, hframed, hframed.lines_eq, ?_, rfl, e.sameValue_errors,
      e.sameValue_meta⟩
    rw [Envelope.render, if_neg Bool.false_ne_true, e.compact_toJson, hcompact, List.append_assoc]
    rfl
  · intro hdata
    rw [Envelope.render, Envelope.render, if_neg Bool.false_ne_true, Envelope.ndjson]
    split
    · next items heq => exact absurd heq (hdata items)
    · rfl

/-- A line feed in a string stays inside its line. -/
theorem ndjson_carries_json_line_feed :
    let e : Envelope := ⟨⟨"r".toList, 1, 0, []⟩, .arr [.str "a\nb".toList, .null], []⟩
    Text.lines (e.render .ndjson true) =
      ["\"a\\nb\"".toList, "null".toList, e.summary.compact] := by
  intro e
  obtain ⟨harray, -⟩ := ndjson_carries_json e true
  obtain ⟨-, -, hlines, -⟩ := harray _ rfl
  exact hlines

end TradeLine
