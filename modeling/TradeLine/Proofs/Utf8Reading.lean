import Mathlib.Data.List.Basic
import TradeLine.Text.Utf8

/-!
# What bytes spell

`Reads bytes text` says what text the bytes spell without naming a reader: where the bytes begin
with the spelling of a character, that character; where they do not, one replacement for the
maximal subpart there (`IsMaximalSubpart`), the longest stretch that begins the spelling of some
character, or else the one byte. `reads_iff` says that the byte by byte reader finds that text and
that there is no other.

* `Spelling` — the bytes of a character by their ranges, as many shapes as there are lengths.
* `run` — what the reader writes over some bytes, and where it stands then.
* `Inside` — the reader stands inside a character, and each way on that its window allows is the
  spelling of one. One step keeps it, and so `Reads` follows the reader through all the bytes.
-/

namespace TradeLine.Utf8

variable {p : Progress} {w : Window} {more code n : Nat} {b x : UInt8}
variable {bs pre bad rest bytes : List UInt8} {text : Text}

/-! ## The bytes of a character -/

/-- A byte that goes on with a character. -/
def IsTail (x : UInt8) : Prop :=
  0x80 ≤ x.toNat ∧ x.toNat ≤ 0xBF

/-- The bytes spell the code: no over-long spelling, no surrogate and no code past the last
character. -/
inductive Spelling : List UInt8 → Nat → Prop
  | one (b : UInt8) (hb : b.toNat < 0x80) : Spelling [b] b.toNat
  | two (b x : UInt8) (hb : 0xC2 ≤ b.toNat ∧ b.toNat < 0xE0) (hx : IsTail x) :
      Spelling [b, x] ((b.toNat - 0xC0) * 64 + (x.toNat - 0x80))
  | three (b x y : UInt8) (hb : 0xE0 ≤ b.toNat ∧ b.toNat < 0xF0) (hx : IsTail x) (hy : IsTail y)
      (hlow : b.toNat = 0xE0 → 0xA0 ≤ x.toNat) (hhigh : b.toNat = 0xED → x.toNat ≤ 0x9F) :
      Spelling [b, x, y]
        (((b.toNat - 0xE0) * 64 + (x.toNat - 0x80)) * 64 + (y.toNat - 0x80))
  | four (b x y z : UInt8) (hb : 0xF0 ≤ b.toNat ∧ b.toNat ≤ 0xF4) (hx : IsTail x) (hy : IsTail y)
      (hz : IsTail z) (hlow : b.toNat = 0xF0 → 0x90 ≤ x.toNat)
      (hhigh : b.toNat = 0xF4 → x.toNat ≤ 0x8F) :
      Spelling [b, x, y, z]
        ((((b.toNat - 0xF0) * 64 + (x.toNat - 0x80)) * 64 + (y.toNat - 0x80)) * 64
          + (z.toNat - 0x80))

/-- What is spelled is a character. -/
theorem Spelling.isValidChar (h : Spelling bs n) : n.isValidChar := by
  unfold Nat.isValidChar
  cases h with
  | one b hb => omega
  | two b x hb hx =>
    unfold IsTail at hx
    omega
  | three b x y hb hx hy hlow hhigh =>
    unfold IsTail at hx hy
    omega
  | four b x y z hb hx hy hz hlow hhigh =>
    unfold IsTail at hx hy hz
    omega

theorem ofNat_eq_of_toNat (b : UInt8) (h : b.toNat = n) : UInt8.ofNat n = b := by
  rw [← h, UInt8.ofNat_toNat]

/-- The core library spells the same. -/
theorem Spelling.encodeChar_eq (h : Spelling bs n) :
    String.utf8EncodeChar (Char.ofNat n) = bs := by
  have hval : (Char.ofNat n).val.toNat = n := by
    rw [Char.ofNat, dif_pos h.isValidChar]
    rfl
  unfold String.utf8EncodeChar
  simp only [hval]
  cases h with
  | one b hb => rw [if_pos (by omega), ofNat_eq_of_toNat b rfl]
  | two b x hb hx =>
    unfold IsTail at hx
    rw [if_neg (by omega), if_pos (by omega), ofNat_eq_of_toNat b (by omega),
      ofNat_eq_of_toNat x (by omega)]
  | three b x y hb hx hy hlow hhigh =>
    unfold IsTail at hx hy
    rw [if_neg (by omega), if_neg (by omega), if_pos (by omega), ofNat_eq_of_toNat b (by omega),
      ofNat_eq_of_toNat x (by omega), ofNat_eq_of_toNat y (by omega)]
  | four b x y z hb hx hy hz hlow hhigh =>
    unfold IsTail at hx hy hz
    rw [if_neg (by omega), if_neg (by omega), if_neg (by omega), ofNat_eq_of_toNat b (by omega),
      ofNat_eq_of_toNat x (by omega), ofNat_eq_of_toNat y (by omega),
      ofNat_eq_of_toNat z (by omega)]

/-- The spelling of the core library has one of the shapes. -/
theorem spelling_encodeChar (c : Char) : Spelling (String.utf8EncodeChar c) c.toNat := by
  have hvalid : c.toNat < 0xD800 ∨ 0xDFFF < c.toNat ∧ c.toNat < 0x110000 := c.valid
  have hval : c.val.toNat = c.toNat := rfl
  have hbyte (k : Nat) (hk : k < 256) : (UInt8.ofNat k).toNat = k := by
    simp [Nat.mod_eq_of_lt hk]
  unfold String.utf8EncodeChar
  simp only [hval]
  generalize c.toNat = n at hvalid
  have h0 := hbyte (n % 64 + 0x80) (by omega)
  have h1 := hbyte (n / 64 % 64 + 0x80) (by omega)
  have h2 := hbyte (n / 4096 % 64 + 0x80) (by omega)
  split_ifs
  · have hb := hbyte n (by omega)
    convert Spelling.one (UInt8.ofNat n) (by omega) using 1
    exact hb.symm
  · have hb := hbyte (n / 64 % 32 + 0xC0) (by omega)
    convert Spelling.two _ _ ?_ ?_ using 1
    all_goals
      simp only [IsTail, hb, h0]
      omega
  · have hb := hbyte (n / 4096 % 16 + 0xE0) (by omega)
    convert Spelling.three _ _ _ ?_ ?_ ?_ ?_ ?_ using 1
    all_goals
      simp only [IsTail, hb, h0, h1]
      omega
  · have hb := hbyte (n / 262144 % 8 + 0xF0) (by omega)
    convert Spelling.four _ _ _ _ ?_ ?_ ?_ ?_ ?_ ?_ using 1
    all_goals
      simp only [IsTail, hb, h0, h1, h2]
      omega

/-- A first byte that spells a character or begins to. -/
theorem Spelling.first_byte (h : Spelling (b :: bs) n) :
    b.toNat < 0x80 ∨ 0xC2 ≤ b.toNat ∧ b.toNat ≤ 0xF4 := by
  cases h with
  | one b hb => exact .inl hb
  | two b x hb => omega
  | three b x y hb => omega
  | four b x y z hb => omega

/-! ## The first byte -/

theorem Window.holds_iff : w.holds x = true ↔
    w.low.toNat ≤ x.toNat ∧ x.toNat ≤ w.high.toNat := by
  simp [Window.holds, UInt8.le_iff_toNat_le]

theorem Window.any_holds_iff : Window.any.holds x = true ↔ IsTail x :=
  Window.holds_iff

/-- `first` by the number of the byte. -/
theorem first_eq : first b =
    if b.toNat < 0x80 then ([Char.ofNat b.toNat], .start)
    else if b.toNat < 0xC2 then ([replacement], .start)
    else if b.toNat < 0xE0 then ([], .inside .any 0 (b.toNat - 0xC0))
    else if b.toNat = 0xE0 then ([], .inside .fromA0 1 0)
    else if b.toNat = 0xED then ([], .inside .upTo9F 1 0xD)
    else if b.toNat < 0xF0 then ([], .inside .any 1 (b.toNat - 0xE0))
    else if b.toNat = 0xF0 then ([], .inside .from90 2 0)
    else if b.toNat < 0xF4 then ([], .inside .any 2 (b.toNat - 0xF0))
    else if b.toNat = 0xF4 then ([], .inside .upTo8F 2 4)
    else ([replacement], .start) := by
  simp [first, UInt8.lt_iff_toNat_lt, ← UInt8.toNat_inj]

theorem first_one (h : b.toNat < 0x80) : first b = ([Char.ofNat b.toNat], .start) := by
  rw [first_eq, if_pos h]

theorem first_two (h : 0xC2 ≤ b.toNat ∧ b.toNat < 0xE0) :
    first b = ([], .inside .any 0 (b.toNat - 0xC0)) := by
  grind [first_eq]

/-- The window after the first of three bytes leaves out over-long spellings and surrogates. -/
theorem first_three (h : 0xE0 ≤ b.toNat ∧ b.toNat < 0xF0) :
    ∃ w, first b = ([], .inside w 1 (b.toNat - 0xE0)) ∧ ∀ x, w.holds x = true ↔
      IsTail x ∧ (b.toNat = 0xE0 → 0xA0 ≤ x.toNat) ∧ (b.toNat = 0xED → x.toNat ≤ 0x9F) := by
  by_cases hlow : b.toNat = 0xE0
  · refine ⟨.fromA0, by grind [first_eq], ?_⟩
    intro x
    rw [Window.holds_iff, IsTail]
    change 0xA0 ≤ x.toNat ∧ x.toNat ≤ 0xBF ↔ _
    omega
  by_cases hhigh : b.toNat = 0xED
  · refine ⟨.upTo9F, by grind [first_eq], ?_⟩
    intro x
    rw [Window.holds_iff, IsTail]
    change 0x80 ≤ x.toNat ∧ x.toNat ≤ 0x9F ↔ _
    omega
  · refine ⟨.any, by grind [first_eq], ?_⟩
    intro x
    simp [Window.any_holds_iff, hlow, hhigh]

/-- The window after the first of four bytes leaves out over-long spellings and codes past the
last character. -/
theorem first_four (h : 0xF0 ≤ b.toNat ∧ b.toNat ≤ 0xF4) :
    ∃ w, first b = ([], .inside w 2 (b.toNat - 0xF0)) ∧ ∀ x, w.holds x = true ↔
      IsTail x ∧ (b.toNat = 0xF0 → 0x90 ≤ x.toNat) ∧ (b.toNat = 0xF4 → x.toNat ≤ 0x8F) := by
  by_cases hlow : b.toNat = 0xF0
  · refine ⟨.from90, by grind [first_eq], ?_⟩
    intro x
    rw [Window.holds_iff, IsTail]
    change 0x90 ≤ x.toNat ∧ x.toNat ≤ 0xBF ↔ _
    omega
  by_cases hhigh : b.toNat = 0xF4
  · refine ⟨.upTo8F, by grind [first_eq], ?_⟩
    intro x
    rw [Window.holds_iff, IsTail]
    change 0x80 ≤ x.toNat ∧ x.toNat ≤ 0x8F ↔ _
    omega
  · refine ⟨.any, by grind [first_eq], ?_⟩
    intro x
    simp [Window.any_holds_iff, hlow, hhigh]

/-- A byte that begins no character is replaced. -/
theorem first_none (h : 0x80 ≤ b.toNat ∧ b.toNat < 0xC2 ∨ 0xF4 < b.toNat) :
    first b = ([replacement], .start) := by
  grind [first_eq]

/-! ## Reading on -/

/-- What is written over the bytes, read on from `p`, and where the reader stands then. -/
def run (p : Progress) : List UInt8 → Text × Progress
  | [] => ([], p)
  | b :: bs => ((feed p b).1 ++ (run (feed p b).2 bs).1, (run (feed p b).2 bs).2)

@[simp] theorem run_nil : run p [] = ([], p) := rfl

theorem run_append (p : Progress) (xs ys : List UInt8) : run p (xs ++ ys) =
    ((run p xs).1 ++ (run (run p xs).2 ys).1, (run (run p xs).2 ys).2) := by
  induction xs generalizing p with
  | nil => simp
  | cons b xs ih => simp [run, ih]

/-- Reading goes on from where the first bytes leave the reader. -/
theorem decodeFrom_append (p : Progress) (xs ys : List UInt8) :
    decodeFrom p (xs ++ ys) = (run p xs).1 ++ decodeFrom (run p xs).2 ys := by
  induction xs generalizing p with
  | nil => simp
  | cons b xs ih => simp [run, decodeFrom, ih]

theorem decodeFrom_eq_run (p : Progress) (xs : List UInt8) :
    decodeFrom p xs = (run p xs).1 ++ finish (run p xs).2 := by
  simpa [decodeFrom] using decodeFrom_append p xs []

/-- A byte that ends a character writes one. -/
theorem feed_ne_nil (h : (feed p b).2 = .start) : (feed p b).1 ≠ [] := by
  cases p with
  | start =>
    simp only [feed, first_eq] at h ⊢
    grind
  | inside w more code =>
    cases more <;> grind [feed]

/-- To come back to the start of a character, the reader has to write. -/
theorem eq_nil_of_run (hstart : (run p bs).2 = .start) (hnil : (run p bs).1 = []) :
    bs = [] ∧ p = .start := by
  induction bs generalizing p with
  | nil => exact ⟨rfl, hstart⟩
  | cons b bs ih =>
    obtain ⟨hfeed, hrest⟩ := List.append_eq_nil_iff.mp hnil
    obtain ⟨-, hend⟩ := ih hstart hrest
    exact absurd hfeed (feed_ne_nil hend)

/-- The bytes of a character are read as that character. -/
theorem Spelling.run_eq (h : Spelling bs n) : run .start bs = ([Char.ofNat n], .start) := by
  cases h with
  | one b hb => simp [run, feed, first_one hb]
  | two b x hb hx =>
    simp [run, feed, first_two hb, Window.any_holds_iff.mpr hx]
  | three b x y hb hx hy hlow hhigh =>
    obtain ⟨w, hfirst, hw⟩ := first_three hb
    simp [run, feed, hfirst, (hw x).mpr ⟨hx, hlow, hhigh⟩, Window.any_holds_iff.mpr hy]
  | four b x y z hb hx hy hz hlow hhigh =>
    obtain ⟨w, hfirst, hw⟩ := first_four hb
    simp [run, feed, hfirst, (hw x).mpr ⟨hx, hlow, hhigh⟩, Window.any_holds_iff.mpr hy,
      Window.any_holds_iff.mpr hz]

theorem run_encodeChar (c : Char) : run .start (String.utf8EncodeChar c) = ([c], .start) := by
  rw [(spelling_encodeChar c).run_eq, Char.ofNat_toNat]

/-! ## Inside a character -/

/-- The code after more bytes of a character. -/
def codeAfter (code : Nat) (bs : List UInt8) : Nat :=
  bs.foldl (fun code x => code * 64 + (x.toNat - 0x80)) code

/-- The reader has read `pre` without writing anything, and each byte of its window, with as many
behind it as are wanted, completes the spelling of a character. -/
structure Inside (pre : List UInt8) (w : Window) (more code : Nat) : Prop where
  run_eq : run .start pre = ([], .inside w more code)
  spelling : ∀ x tail, w.holds x = true → tail.length = more → (∀ y ∈ tail, IsTail y) →
    Spelling (pre ++ x :: tail) (codeAfter code (x :: tail))

/-- A first byte that writes nothing leaves the reader inside a character. -/
theorem inside_first (h : 0xC2 ≤ b.toNat ∧ b.toNat ≤ 0xF4) :
    ∃ w more code, first b = ([], .inside w more code) ∧ Inside [b] w more code := by
  rcases Nat.lt_or_ge b.toNat 0xE0 with h2 | h2
  · have hfirst := first_two ⟨h.1, h2⟩
    refine ⟨_, _, _, hfirst, by simp [run, feed, hfirst], ?_⟩
    intro x tail hx hlen _
    obtain rfl := List.length_eq_zero_iff.mp hlen
    exact .two b x ⟨h.1, h2⟩ (Window.any_holds_iff.mp hx)
  rcases Nat.lt_or_ge b.toNat 0xF0 with h3 | h3
  · obtain ⟨w, hfirst, hw⟩ := first_three ⟨h2, h3⟩
    refine ⟨_, _, _, hfirst, by simp [run, feed, hfirst], ?_⟩
    intro x tail hx hlen htail
    obtain ⟨y, rfl⟩ := List.length_eq_one_iff.mp hlen
    obtain ⟨hx, hlow, hhigh⟩ := (hw x).mp hx
    exact .three b x y ⟨h2, h3⟩ hx (htail y (by simp)) hlow hhigh
  · obtain ⟨w, hfirst, hw⟩ := first_four ⟨h3, h.2⟩
    refine ⟨_, _, _, hfirst, by simp [run, feed, hfirst], ?_⟩
    intro x tail hx hlen htail
    obtain ⟨y, z, rfl⟩ := List.length_eq_two.mp hlen
    obtain ⟨hx, hlow, hhigh⟩ := (hw x).mp hx
    exact .four b x y z ⟨h3, h.2⟩ hx (htail y (by simp)) (htail z (by simp)) hlow hhigh

namespace Inside

/-- A byte of the window keeps the reader inside while more are wanted. -/
theorem step (h : Inside pre w (more + 1) code) (hx : w.holds x = true) :
    Inside (pre ++ [x]) .any more (code * 64 + (x.toNat - 0x80)) where
  run_eq := by simp [run_append, h.run_eq, run, feed, hx]
  spelling y tail hy hlen htail := by
    have := h.spelling x (y :: tail) hx (by simp [hlen])
      (List.forall_mem_cons.mpr ⟨Window.any_holds_iff.mp hy, htail⟩)
    simpa [codeAfter] using this

/-- The last byte completes a spelling. -/
theorem last (h : Inside pre w 0 code) (hx : w.holds x = true) :
    Spelling (pre ++ [x]) (code * 64 + (x.toNat - 0x80)) :=
  h.spelling x [] hx rfl (by simp)

theorem ne_nil (h : Inside pre w more code) : pre ≠ [] := by
  rintro rfl
  simpa using h.run_eq

/-- What has been read begins the spelling of some character. -/
theorem begins (h : Inside pre w more code) : ∃ c, pre <+: String.utf8EncodeChar c := by
  have hlow : w.holds w.low = true := by cases w <;> decide
  have htail : ∀ y ∈ List.replicate more (0x80 : UInt8), IsTail y := by
    intro y hy
    rw [List.eq_of_mem_replicate hy]
    exact ⟨by decide, by decide⟩
  have hs := h.spelling w.low (List.replicate more 0x80) hlow (by simp) htail
  exact ⟨_, _, hs.encodeChar_eq.symm⟩

/-- No character is spelled within what has been read. -/
theorem spells_none (h : Inside pre w more code) (c : Char) :
    ¬ String.utf8EncodeChar c <+: pre := by
  rintro ⟨rest, rfl⟩
  have := h.run_eq
  simp [run_append, run_encodeChar] at this

/-- No spelling goes on with a byte outside the window. -/
theorem encodeChar_ne (h : Inside pre w more code) (hb : w.holds b = false) (c : Char)
    (rest : List UInt8) : String.utf8EncodeChar c ≠ pre ++ b :: rest := by
  intro heq
  have hrun := run_encodeChar c
  -- The reader writes a replacement and starts again, so it has to write once more to come back.
  have hagain : run (.inside w more code) (b :: rest) =
      (replacement :: (run .start (b :: rest)).1, (run .start (b :: rest)).2) := by
    simp [run, feed, hb]
  rw [heq, run_append, h.run_eq, hagain] at hrun
  simp only [List.nil_append, Prod.mk.injEq, List.cons.injEq] at hrun
  obtain ⟨⟨-, hnil⟩, hstart⟩ := hrun
  exact absurd (eq_nil_of_run hstart hnil).1 (by simp)

end Inside

/-! ## The text that bytes spell -/

/-- `bad` is the maximal subpart at the front of `bytes`, where no character is spelled: the
longest stretch that begins the spelling of a character, or the first byte if none does. -/
structure IsMaximalSubpart (bad bytes : List UInt8) : Prop where
  isPrefix : bad <+: bytes
  spells_none : ∀ c, ¬ String.utf8EncodeChar c <+: bytes
  begins : (∃ c, bad <+: String.utf8EncodeChar c) ∨ bad.length = 1
  ne_nil : bad ≠ []
  longest : ∀ other c, other <+: bytes → other <+: String.utf8EncodeChar c →
    other.length ≤ bad.length

/-- The bytes spell the text, with one replacement for each maximal subpart that spells
nothing. -/
inductive Reads : List UInt8 → Text → Prop
  | nil : Reads [] []
  | char {bytes rest : List UInt8} {text : Text} (c : Char)
      (hbytes : bytes = String.utf8EncodeChar c ++ rest) (h : Reads rest text) :
      Reads bytes (c :: text)
  | bad {bytes bad rest : List UInt8} {text : Text} (hbytes : bytes = bad ++ rest)
      (hbad : IsMaximalSubpart bad bytes) (h : Reads rest text) :
      Reads bytes (replacement :: text)

/-- A stretch is maximal if it has no spelling at its front and nothing longer begins one. -/
theorem IsMaximalSubpart.of_longest (hne : bad ≠ [])
    (hbegins : (∃ c, bad <+: String.utf8EncodeChar c) ∨ bad.length = 1)
    (hnone : ∀ c, ¬ String.utf8EncodeChar c <+: bad)
    (hlongest : ∀ other c, other <+: bad ++ rest → other <+: String.utf8EncodeChar c →
      other.length ≤ bad.length) : IsMaximalSubpart bad (bad ++ rest) := by
  refine ⟨List.prefix_append .., ?_, hbegins, hne, hlongest⟩
  intro c hc
  have hlen := hlongest _ c hc (List.prefix_refl _)
  exact hnone c (List.prefix_of_prefix_length_le hc (List.prefix_append ..) hlen)

/-- What the reader has of a character when the bytes break off is a maximal subpart. -/
theorem Inside.isMaximalSubpart_nil (h : Inside pre w more code) :
    IsMaximalSubpart pre (pre ++ []) := by
  refine .of_longest h.ne_nil (.inl h.begins) h.spells_none ?_
  intro other c hother _
  simpa using hother.length_le

/-- What the reader has of a character before a byte outside the window is a maximal subpart. -/
theorem Inside.isMaximalSubpart_cons (h : Inside pre w more code) (hb : w.holds b = false)
    (bs : List UInt8) : IsMaximalSubpart pre (pre ++ b :: bs) := by
  refine .of_longest h.ne_nil (.inl h.begins) h.spells_none ?_
  intro other c hother hc
  by_contra hlen
  -- A longer stretch would have the byte that the window leaves out.
  have hpre : pre ++ [b] <+: other :=
    List.prefix_of_prefix_length_le (by simp) hother (by simp; omega)
  obtain ⟨tail, htail⟩ := hpre.trans hc
  exact h.encodeChar_ne hb c tail (by simpa using htail.symm)

/-- A byte that begins no character is a maximal subpart of its own. -/
theorem isMaximalSubpart_singleton (h : 0x80 ≤ b.toNat ∧ b.toNat < 0xC2 ∨ 0xF4 < b.toNat)
    (bs : List UInt8) : IsMaximalSubpart [b] ([b] ++ bs) := by
  have hnone (c : Char) : ¬ [b] <+: String.utf8EncodeChar c := by
    rintro ⟨tail, heq⟩
    have hs := spelling_encodeChar c
    rw [← heq] at hs
    have := hs.first_byte
    omega
  refine .of_longest (by simp) (.inr rfl) ?_ ?_
  · intro c hc
    have hlen := List.length_pos_iff.mpr (String.utf8EncodeChar_ne_nil (c := c))
    exact hnone c (List.prefix_of_prefix_length_le (List.prefix_refl _) hc hlen)
  · intro other c hother hc
    by_contra hlen
    have hb : [b] <+: other :=
      List.prefix_of_prefix_length_le (by simp) hother (by simp at hlen ⊢; omega)
    exact hnone c (hb.trans hc)

/-- At a byte outside the window the reader writes a replacement and starts again. -/
theorem decodeFrom_of_not_holds (hb : w.holds b = false) :
    decodeFrom (.inside w more code) (b :: bs) = replacement :: decode (b :: bs) := by
  simp [decode, decodeFrom, feed, hb]

/-- One byte at the start of a character, given what holds of the bytes behind it. -/
theorem reads_decode_cons (hstart : Reads bs (decode bs))
    (hinside : ∀ pre w more code, Inside pre w more code →
      Reads (pre ++ bs) (decodeFrom (.inside w more code) bs)) :
    Reads (b :: bs) (decode (b :: bs)) := by
  have hdecode : decode (b :: bs) = (first b).1 ++ decodeFrom (first b).2 bs := rfl
  rcases Nat.lt_or_ge b.toNat 0x80 with hone | hone
  · rw [hdecode, first_one hone]
    refine .char (Char.ofNat b.toNat) ?_ hstart
    rw [(Spelling.one b hone).encodeChar_eq, List.singleton_append]
  by_cases hlead : 0xC2 ≤ b.toNat ∧ b.toNat ≤ 0xF4
  · obtain ⟨w, more, code, hfirst, h⟩ := inside_first hlead
    rw [hdecode, hfirst]
    exact hinside [b] w more code h
  · have hnone : 0x80 ≤ b.toNat ∧ b.toNat < 0xC2 ∨ 0xF4 < b.toNat := by omega
    rw [hdecode, first_none hnone]
    exact .bad rfl (isMaximalSubpart_singleton hnone bs) hstart

/-- The reader finds a text that the bytes spell, from the start and from inside a character. -/
theorem reads_decodeFrom (bytes : List UInt8) : Reads bytes (decode bytes) ∧
    ∀ pre w more code, Inside pre w more code →
      Reads (pre ++ bytes) (decodeFrom (.inside w more code) bytes) := by
  induction bytes with
  | nil => exact ⟨.nil, fun pre w more code h => .bad rfl h.isMaximalSubpart_nil .nil⟩
  | cons b bs ih =>
    obtain ⟨ihstart, ihinside⟩ := ih
    have hstart := reads_decode_cons (b := b) ihstart ihinside
    refine ⟨hstart, ?_⟩
    intro pre w more code h
    cases hb : w.holds b with
    | false =>
      rw [decodeFrom_of_not_holds hb]
      exact .bad rfl (h.isMaximalSubpart_cons hb bs) hstart
    | true =>
      cases more with
      | zero =>
        simp only [decodeFrom, feed, hb, if_true, List.singleton_append]
        refine .char (Char.ofNat (code * 64 + (b.toNat - 0x80))) ?_ ihstart
        rw [(h.last hb).encodeChar_eq, List.append_assoc, List.singleton_append]
      | succ more =>
        simp only [decodeFrom, feed, hb, if_true, List.nil_append]
        rw [List.append_cons]
        exact ihinside _ _ _ _ (h.step hb)

/-- Of two spellings at the front of the same bytes neither is longer. -/
theorem encodeChar_append_inj {c c' : Char} {rest rest' : List UInt8}
    (h : String.utf8EncodeChar c ++ rest = String.utf8EncodeChar c' ++ rest') :
    c = c' ∧ rest = rest' := by
  have hpre {c c' : Char} (h : String.utf8EncodeChar c <+: String.utf8EncodeChar c') : c = c' := by
    obtain ⟨tail, htail⟩ := h
    have hrun := run_encodeChar c'
    rw [← htail, run_append, run_encodeChar] at hrun
    simp only [List.singleton_append, Prod.mk.injEq, List.cons.injEq] at hrun
    exact hrun.1.1
  have heq : c = c' := by
    have hpre' := List.prefix_append (String.utf8EncodeChar c') rest'
    rw [← h] at hpre'
    rcases List.prefix_or_prefix_of_prefix (List.prefix_append _ rest) hpre' with hc | hc
    · exact hpre hc
    · exact (hpre hc).symm
  subst heq
  exact ⟨rfl, List.append_cancel_left h⟩

/-- Maximal subparts of the same bytes are equal. -/
theorem IsMaximalSubpart.unique {bad bad' bytes : List UInt8} (h : IsMaximalSubpart bad bytes)
    (h' : IsMaximalSubpart bad' bytes) : bad = bad' := by
  have hle {bad bad' : List UInt8} (h : IsMaximalSubpart bad bytes)
      (h' : IsMaximalSubpart bad' bytes) : bad.length ≤ bad'.length := by
    rcases h.begins with ⟨c, hc⟩ | hone
    · exact h'.longest bad c h.isPrefix hc
    · rw [hone]
      exact List.length_pos_iff.mpr h'.ne_nil
  have hpre := List.prefix_of_prefix_length_le h.isPrefix h'.isPrefix (hle h h')
  exact hpre.eq_of_length_le (hle h' h)

/-- Only no bytes spell the empty text, and they spell no other. -/
theorem Reads.eq_nil_iff (h : Reads bytes text) : bytes = [] ↔ text = [] := by
  cases h with
  | nil => simp
  | char c hbytes => simp [hbytes]
  | bad hbytes hbad => simp [hbytes, hbad.ne_nil]

/-- Bytes spell one text. -/
theorem Reads.unique {text' : Text} (h : Reads bytes text) (h' : Reads bytes text') :
    text = text' := by
  induction h generalizing text' with
  | nil => exact (h'.eq_nil_iff.mp rfl).symm
  | char c hbytes _ ih =>
    cases h' with
    | nil => simp at hbytes
    | char c' hbytes' hrest =>
      obtain ⟨rfl, rfl⟩ := encodeChar_append_inj (hbytes.symm.trans hbytes')
      rw [ih hrest]
    | bad hbytes' hbad => exact absurd ⟨_, hbytes.symm⟩ (hbad.spells_none c)
  | bad hbytes hbad _ ih =>
    cases h' with
    | nil => simp [hbad.ne_nil] at hbytes
    | char c' hbytes' => exact absurd ⟨_, hbytes'.symm⟩ (hbad.spells_none c')
    | bad hbytes' hbad' hrest =>
      obtain rfl := hbad.unique hbad'
      obtain rfl := List.append_cancel_left (hbytes.symm.trans hbytes')
      rw [ih hrest]

/-- The text that the bytes spell is the one that the reader finds. -/
theorem reads_iff : Reads bytes text ↔ text = decode bytes := by
  have hdecode := (reads_decodeFrom bytes).1
  exact ⟨fun h => h.unique hdecode, fun h => h ▸ hdecode⟩

/-! ## Reading what was written -/

/-- The bytes of a text spell that text. -/
theorem decode_encode (s : Text) : decode (encode s) = s := by
  induction s with
  | nil => rfl
  | cons c s ih =>
    rw [encode_cons, decode, decodeFrom_append, run_encodeChar]
    exact congrArg (c :: ·) ih

/-! ## Line feeds -/

/-- A line feed is spelled by its byte only. -/
theorem Reads.lineFeed_mem (h : Reads bytes text) (hmem : '\n' ∈ text) : 0x0A ∈ bytes := by
  induction h with
  | nil => simp at hmem
  | char c hbytes _ ih =>
    rw [hbytes, List.mem_append]
    rcases List.mem_cons.mp hmem with rfl | hmem
    · exact .inl (by decide)
    · exact .inr (ih hmem)
  | bad hbytes _ _ ih =>
    rw [hbytes, List.mem_append]
    rcases List.mem_cons.mp hmem with hbad | hmem
    · exact absurd hbad (by decide)
    · exact .inr (ih hmem)

/-- A line feed ends whatever was begun, so the texts on its two sides are read apart. -/
theorem decode_append_lineFeed (xs ys : List UInt8) :
    decode (xs ++ 0x0A :: ys) = decode xs ++ '\n' :: decode ys := by
  have hfeed : feed (run .start xs).2 0x0A = (finish (run .start xs).2 ++ ['\n'], .start) :=
    feed_of_lt (run .start xs).2 (by decide)
  have hxs : decode xs = (run .start xs).1 ++ finish (run .start xs).2 := decodeFrom_eq_run ..
  calc decode (xs ++ 0x0A :: ys)
    _ = (run .start xs).1 ++ decodeFrom (run .start xs).2 (0x0A :: ys) := decodeFrom_append ..
    _ = ((run .start xs).1 ++ finish (run .start xs).2) ++ '\n' :: decode ys := by
      simp [decodeFrom, hfeed, decode]
    _ = decode xs ++ '\n' :: decode ys := by rw [hxs]

end TradeLine.Utf8
