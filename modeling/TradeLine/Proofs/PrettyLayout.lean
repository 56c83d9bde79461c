import TradeLine.Proofs.OneValueALine

/-!
# Pretty output

An envelope in the plain format goes out on one line or, pretty, on many. The spaces and line feeds
that make the difference are **layout**: they stand outside of strings. Inside of a string a space
belongs to the data, and a line feed never stands there as itself.

* `Place`, `marked` — a text is read character by character, and a string ends at the first quote
  that no backslash escapes;
* `withoutLayout`, `inStrings` — the text without its layout, and what stands inside of its strings;
* `StaysInside` — whatever a string holds, its escaped characters do not end it;
* `IsLayoutOf` — a text that ends outside of strings, has no line feed in any and is another text but
  for layout. Such texts can be put one behind the other (`IsLayoutOf.append`), so a value on many
  lines is laid out from the one on one line, at any depth (`isLayoutOf_prettyAt`).

**Main statement** (`pretty_changes_layout`): the pretty output of an envelope without its layout is
the output on one line, and no line feed stands inside of a string.
-/

namespace TradeLine

open Text

namespace Json

/-! ## Places in a text -/

/-- Where a reader stands in a text: outside of strings, inside of one, or inside of one right behind
a backslash that escapes the next character. -/
inductive Place
  | outside
  | inside
  | escaped
deriving DecidableEq, Repr

/-- The place behind a character. A string ends at the first quote that no backslash escapes. -/
def Place.next : Place → Char → Place
  | outside, c => if c = '"' then inside else outside
  | inside, c => if c = '"' then outside else if c = '\\' then escaped else inside
  | escaped, _ => inside

/-- The place behind a text. -/
def Place.after (p : Place) (s : Text) : Place :=
  s.foldl next p

/-- The characters of a text, each with the place in front of it. -/
def marked (p : Place) : Text → List (Place × Char)
  | [] => []
  | c :: s => (p, c) :: marked (p.next c) s

/-- Layout is a space or a line feed outside of strings. -/
def isLayout : Place × Char → Bool
  | (.outside, c) => c = ' ' || c = '\n'
  | _ => false

/-- The text without its layout. -/
def withoutLayout (s : Text) : Text :=
  ((marked .outside s).filter fun m => !isLayout m).map Prod.snd

/-- The characters inside of strings, closing quotes with them. -/
def inStrings (s : Text) : Text :=
  ((marked .outside s).filter fun m => m.1 ≠ .outside).map Prod.snd

section places

variable {s : Text}

theorem after_append (p : Place) (s t : Text) : p.after (s ++ t) = (p.after s).after t :=
  List.foldl_append

theorem marked_append (p : Place) (s t : Text) :
    marked p (s ++ t) = marked p s ++ marked (p.after s) t := by
  induction s generalizing p with
  | nil => rfl
  | cons c s ih =>
    rw [List.cons_append, marked, ih]
    rfl

theorem map_snd_marked (p : Place) (s : Text) : (marked p s).map Prod.snd = s := by
  induction s generalizing p with
  | nil => rfl
  | cons c s ih => rw [marked, List.map_cons, ih]

theorem mem_of_mem_inStrings {c : Char} (h : c ∈ inStrings s) : c ∈ s := by
  rw [← map_snd_marked .outside s]
  exact (List.filter_sublist.map _).subset h

theorem isLayout_of_ne_outside {m : Place × Char} (h : m.1 ≠ .outside) : isLayout m = false := by
  obtain ⟨p, c⟩ := m
  cases p with
  | outside => exact absurd rfl h
  | inside => rfl
  | escaped => rfl

/-- A text without layout stays as it is. -/
theorem withoutLayout_eq_self (h : ∀ m ∈ marked .outside s, isLayout m = false) :
    withoutLayout s = s := by
  have hall : ∀ m ∈ marked .outside s, (!isLayout m) = true := by
    intro m hm
    rw [h m hm, Bool.not_false]
  rw [withoutLayout, List.filter_eq_self.mpr hall, map_snd_marked]

end places

/-! ## Inside of a string -/

/-- From inside of a string the text is read without leaving it. -/
structure StaysInside (s : Text) : Prop where
  after : Place.inside.after s = .inside
  ne_outside : ∀ m ∈ marked .inside s, m.1 ≠ .outside

namespace StaysInside

variable {s t : Text}

theorem append (h : StaysInside s) (h' : StaysInside t) : StaysInside (s ++ t) where
  after := by
    rw [after_append, h.after, h'.after]
  ne_outside := by
    rw [marked_append, h.after]
    intro m hm
    rcases List.mem_append.mp hm with hm | hm
    · exact h.ne_outside m hm
    · exact h'.ne_outside m hm

/-- Between quotes the text is one string, which the second quote ends. -/
theorem after_quoted (h : StaysInside s) : Place.outside.after ('"' :: s ++ ['"']) = .outside := by
  have hbody : Place.outside.after ('"' :: s) = .inside := h.after
  rw [after_append, hbody]
  rfl

/-- Between quotes nothing is layout. -/
theorem isLayout_of_mem_quoted (h : StaysInside s) :
    ∀ m ∈ marked .outside ('"' :: s ++ ['"']), isLayout m = false := by
  have hbody : marked .inside (s ++ ['"']) = marked .inside s ++ [(.inside, '"')] := by
    rw [marked_append, h.after]
    rfl
  intro m hm
  rcases List.mem_cons.mp hm with rfl | hm
  · rfl
  · apply isLayout_of_ne_outside
    rcases List.mem_append.mp (hbody ▸ hm) with hm | hm
    · exact h.ne_outside m hm
    · rw [List.mem_singleton.mp hm]
      decide

end StaysInside

theorem staysInside_char {c : Char} (hquote : c ≠ '"') (hbackslash : c ≠ '\\') :
    StaysInside [c] where
  after := by
    simp [Place.after, Place.next, hquote, hbackslash]
  ne_outside := by
    simp [marked]

theorem ne_of_isTokenChar {c c' : Char} (h : isTokenChar c = true) (h' : isTokenChar c' = false) :
    c ≠ c' :=
  ne_of_beq_false (beq_eq_false_of_class h' h)

theorem staysInside_tokenChar {c : Char} (h : isTokenChar c = true) : StaysInside [c] :=
  staysInside_char (ne_of_isTokenChar h rfl) (ne_of_isTokenChar h rfl)

/-- A character that could end the string, or escape its end, is itself escaped. -/
theorem staysInside_escapedChar (c : Char) : StaysInside (escapedChar c) := by
  unfold escapedChar
  split_ifs with hquote hbackslash _ _ _ _ _ hcontrol
  any_goals exact ⟨rfl, by decide⟩
  · have hfront : StaysInside ['\\', 'u', '0', '0'] := ⟨rfl, by decide⟩
    have hhigh := staysInside_tokenChar (isTokenChar_digitChar (c.toNat / 16) (by omega))
    have hlow := staysInside_tokenChar (isTokenChar_digitChar (c.toNat % 16) (by omega))
    exact (hfront.append hhigh).append hlow
  · exact staysInside_char hquote hbackslash

theorem staysInside_escaped (s : Text) : StaysInside (s.flatMap escapedChar) := by
  induction s with
  | nil => exact ⟨rfl, by simp [marked]⟩
  | cons c s ih =>
    rw [List.flatMap_cons]
    exact (staysInside_escapedChar c).append ih

/-! ## One text laid out from another -/

/-- Outside of strings the character is no layout and begins no string. -/
def isSolid (c : Char) : Bool :=
  c ≠ '"' && !isLayout (.outside, c)

theorem isSolid_of_isTokenChar {c : Char} (h : isTokenChar c = true) : isSolid c = true := by
  have hquote : c ≠ '"' := ne_of_isTokenChar h rfl
  have hspace : c ≠ ' ' := ne_of_isTokenChar h rfl
  have hfeed : c ≠ '\n' := ne_of_isTokenChar h rfl
  simp [isSolid, isLayout, hquote, hspace, hfeed]

/-- The first text is the second one with layout put in: it ends outside of strings, and no line feed
stands inside of one. -/
structure IsLayoutOf (s t : Text) : Prop where
  after : Place.outside.after s = .outside
  withoutLayout_eq : withoutLayout s = t
  lineFeed_not_mem : '\n' ∉ inStrings s

namespace IsLayoutOf

variable {s s' t t' w : Text} {c : Char}

/-- The second text is read from outside of strings again, as on its own. -/
theorem append (h : IsLayoutOf s t) (h' : IsLayoutOf s' t') : IsLayoutOf (s ++ s') (t ++ t') where
  after := by
    rw [after_append, h.after, h'.after]
  withoutLayout_eq := by
    rw [← h.withoutLayout_eq, ← h'.withoutLayout_eq, withoutLayout, marked_append, h.after,
      List.filter_append, List.map_append]
    rfl
  lineFeed_not_mem := by
    rw [inStrings, marked_append, h.after, List.filter_append, List.map_append, List.mem_append]
    exact not_or.mpr ⟨h.lineFeed_not_mem, h'.lineFeed_not_mem⟩

/-- Layout behind a text does not count. -/
theorem append_layout (h : IsLayoutOf s t) (hw : IsLayoutOf w []) : IsLayoutOf (s ++ w) t := by
  have happend := h.append hw
  rwa [List.append_nil] at happend

/-- A solid character stays. -/
theorem cons (hc : isSolid c = true) (h : IsLayoutOf s t) : IsLayoutOf (c :: s) (c :: t) := by
  obtain ⟨hquote, hlayout⟩ := Bool.and_eq_true_iff.mp hc
  have hchar : IsLayoutOf [c] [c] := by
    refine ⟨if_neg (of_decide_eq_true hquote), withoutLayout_eq_self ?_, ?_⟩
    · simpa [marked] using hlayout
    · simp [inStrings, marked]
  exact hchar.append h

end IsLayoutOf

theorem isLayoutOf_solid {s : Text} (h : s.all isSolid = true) : IsLayoutOf s s := by
  induction s with
  | nil => exact ⟨rfl, rfl, List.not_mem_nil⟩
  | cons c s ih =>
    rw [List.all_cons, Bool.and_eq_true] at h
    exact (ih h.2).cons h.1

theorem isLayoutOf_token {s : Text} (h : Run isTokenChar s) : IsLayoutOf s s :=
  isLayoutOf_solid (all_eq_true_iff_run.mpr fun c hc => isSolid_of_isTokenChar (h c hc))

/-- What stands in brackets is laid out between them. -/
theorem IsLayoutOf.enclosed {s t : Text} {first last : Char} (h : IsLayoutOf s t)
    (hfirst : isSolid first = true) (hlast : isSolid last = true) :
    IsLayoutOf (first :: s ++ [last]) (first :: t ++ [last]) := by
  have hend : IsLayoutOf [last] [last] := (isLayoutOf_solid (s := []) rfl).cons hlast
  exact (h.cons hfirst).append hend

theorem isLayoutOf_space : IsLayoutOf [' '] [] :=
  ⟨rfl, rfl, by decide⟩

theorem isLayoutOf_lineFeed : IsLayoutOf ['\n'] [] :=
  ⟨rfl, rfl, by decide⟩

/-- The start of a line is layout. -/
theorem isLayoutOf_newLine (depth : Nat) : IsLayoutOf (newLine depth) [] := by
  have hspaces : ∀ n, IsLayoutOf (List.replicate n ' ') [] := by
    intro n
    induction n with
    | zero => exact isLayoutOf_solid rfl
    | succ n ih => exact isLayoutOf_space.append ih
  exact isLayoutOf_lineFeed.append (hspaces _)

/-- A string is kept as it is, with its spaces. -/
theorem isLayoutOf_string (s : Text) : IsLayoutOf (string s) (string s) := by
  have hinside := staysInside_escaped s
  refine ⟨hinside.after_quoted, withoutLayout_eq_self hinside.isLayout_of_mem_quoted, ?_⟩
  -- a line feed of the text is written as a backslash and a letter
  intro hfeed
  have hshown := run_isShown_string s '\n' (mem_of_mem_inStrings hfeed)
  cases hshown

/-! ## Values on many lines -/

mutual

/-- A value on many lines is the value on one line with layout, whatever strings and keys are in it
and at whatever depth it stands. -/
theorem isLayoutOf_prettyAt : ∀ (v : Json) (depth : Nat), IsLayoutOf (v.prettyAt depth) v.compact
  | .null, _ => isLayoutOf_solid rfl
  | .bool b, _ => isLayoutOf_token (run_isTokenChar_boolean b)
  | .int n, _ => isLayoutOf_token (run_isTokenChar_ofInt n)
  | .float x, _ => isLayoutOf_token x.run_isTokenChar_json
  | .str s, _ => isLayoutOf_string s
  | .arr [], _ => isLayoutOf_solid rfl
  | .arr (item :: items), depth => by
    have hitems := isLayoutOf_prettyItems (item :: items) (depth + 1) [] (isLayoutOf_solid rfl)
    exact (hitems.append_layout (isLayoutOf_newLine depth)).enclosed rfl rfl
  | .obj [], _ => isLayoutOf_solid rfl
  | .obj (m :: members), depth => by
    have hmembers := isLayoutOf_prettyMembers (m :: members) (depth + 1) [] (isLayoutOf_solid rfl)
    exact (hmembers.append_layout (isLayoutOf_newLine depth)).enclosed rfl rfl

theorem isLayoutOf_prettyItems : ∀ (items : List Json) (depth : Nat) (before : Text),
    IsLayoutOf before before →
      IsLayoutOf (prettyItems depth before items) (compactItems before items)
  | [], _, _, _ => isLayoutOf_solid rfl
  | item :: items, depth, before, h => by
    have hitem := isLayoutOf_prettyAt item depth
    have hitems := isLayoutOf_prettyItems items depth [','] (isLayoutOf_solid rfl)
    exact ((h.append_layout (isLayoutOf_newLine depth)).append hitem).append hitems

theorem isLayoutOf_prettyMembers : ∀ (members : List (Text × Json)) (depth : Nat) (before : Text),
    IsLayoutOf before before →
      IsLayoutOf (prettyMembers depth before members) (compactMembers before members)
  | [], _, _, _ => isLayoutOf_solid rfl
  | (key, value) :: members, depth, before, h => by
    have hkey := (h.append_layout (isLayoutOf_newLine depth)).append (isLayoutOf_string key)
    have hvalue := (isLayoutOf_space.append (isLayoutOf_prettyAt value depth)).cons
      (show isSolid ':' = true from rfl)
    have hmembers := isLayoutOf_prettyMembers members depth [','] (isLayoutOf_solid rfl)
    exact (hkey.append hvalue).append hmembers

end

-- Behind an escaped quote the string goes on, so its spaces stay.
example :
    withoutLayout (Json.obj [("k".toList, .arr [.str "a \" b".toList, .null])]).pretty =
      "\x7b\"k\":[\"a \\\" b\",null]\x7d".toList := by
  decide

end Json

/-! ## The main statement -/

/-- **Pretty output changes layout alone.** Whatever an envelope holds, its pretty output without the
spaces and line feeds outside of strings is the output on one line without its final line feed. All
strings in it are closed, so the places are told right to the end, and none of its line feeds stands
inside of a string. -/
theorem pretty_changes_layout (e : Envelope) :
    Json.withoutLayout (e.render .json true) ++ ['\n'] = e.render .json false ∧
    '\n' ∉ Json.inStrings (e.render .json true) ∧
    Json.Place.outside.after (e.render .json true) = .outside := by
  have hpretty : Json.IsLayoutOf (e.render .json true) e.toJson.compact :=
    (e.toJson.isLayoutOf_prettyAt 0).append_layout Json.isLayoutOf_lineFeed
  refine ⟨?_, hpretty.lineFeed_not_mem, hpretty.after⟩
  rw [hpretty.withoutLayout_eq]
  rfl

end TradeLine
