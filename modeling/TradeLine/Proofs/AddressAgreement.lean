import Mathlib.Data.List.TFAE
import Mathlib.Tactic.TFAE
import TradeLine.Proofs.CanonicalLine
import TradeLine.Proofs.EnvelopeAccount
import TradeLine.Proofs.Utf8Reading

/-!
# One notion of address

Whether a text is an address is asked in two places. The task of one address classifies the trimmed
text and reports what it finds; the reader of lines takes any letters and digits for an address and
classifies them afterwards. Here the two are compared, and so are two ways of classifying: by the
characters of a text, and by its bytes, of which there are more as soon as a character is not ASCII.

* `Family.classifyBytes` — the shapes of the two families in terms of bytes, and
  `classifyBytes_encode`: a text has the family that its bytes have;
* `ofAddress_of_classify`, `ofAddress_of_classify_eq_none` — what the task reports;
* `exists_parse_query_iff` — a line is a query exactly when it is an address between blanks.

**Main statement** (`address_agreement`): everything that the task reports about a text says the
same, and it is what the reader of lines finds.
-/

namespace TradeLine

open Text

/-! ## Bytes of ASCII classes -/

namespace Utf8

variable {p : UInt8 → Bool} {q : Char → Bool} {s : Text} {c : Char}

theorem encodeChar_of_lt (h : c.toNat < 0x80) :
    String.utf8EncodeChar c = [UInt8.ofNat c.toNat] := by
  have hval : c.val.toNat ≤ 127 := Nat.le_of_lt_succ h
  unfold String.utf8EncodeChar
  simp only [hval, if_true]
  rfl

/-- A character that is not ASCII begins with a byte that is not. -/
theorem exists_encodeChar_eq_cons (h : 0x80 ≤ c.toNat) :
    ∃ b rest, String.utf8EncodeChar c = b :: rest ∧ 0x80 ≤ b.toNat := by
  have hspelling := spelling_encodeChar c
  generalize String.utf8EncodeChar c = bytes at hspelling ⊢
  generalize c.toNat = n at h hspelling
  cases hspelling with
  | one b hb => omega
  | two b x hb => exact ⟨b, [x], rfl, by omega⟩
  | three b x y hb => exact ⟨b, [x, y], rfl, by omega⟩
  | four b x y z hb => exact ⟨b, [x, y, z], rfl, by omega⟩

/-- All bytes of a text are of a class of ASCII bytes exactly when all its characters are of the
class of ASCII characters with those bytes. -/
theorem all_encode (hp : ∀ b, p b = true → b.toNat < 0x80)
    (hq : ∀ c, q c = true ↔ c.toNat < 0x80 ∧ p (UInt8.ofNat c.toNat) = true) (s : Text) :
    (encode s).all p = s.all q := by
  induction s with
  | nil => rfl
  | cons c s ih =>
    rw [encode_cons, List.all_append, List.all_cons, ih]
    congr 1
    rw [Bool.eq_iff_iff, hq]
    by_cases hc : c.toNat < 0x80
    · simp [encodeChar_of_lt hc, hc]
    · obtain ⟨b, rest, hbytes, hb⟩ := exists_encodeChar_eq_cons (Nat.le_of_not_lt hc)
      have hpb : ¬ p b = true := fun h => absurd (hp b h) (Nat.not_lt.mpr hb)
      simp [hbytes, hpb, hc]

/-- A text of ASCII characters has as many bytes as characters. -/
theorem length_encode (h : ∀ c ∈ s, c.toNat < 0x80) : (encode s).length = s.length := by
  induction s with
  | nil => rfl
  | cons c s ih =>
    rw [List.forall_mem_cons] at h
    rw [encode_cons, encodeChar_of_lt h.1, List.singleton_append, List.length_cons, ih h.2,
      List.length_cons]

end Utf8

/-! ## Families by bytes -/

namespace Family

/-- The byte of a hexadecimal digit of either case. -/
def isHexByte (b : UInt8) : Bool :=
  (0x30 ≤ b && b ≤ 0x39) || (0x41 ≤ b && b ≤ 0x46) || (0x61 ≤ b && b ≤ 0x66)

/-- The byte of a Base58 character: that of a letter or digit other than `0`, `O`, `I` and `l`. -/
def isBase58Byte (b : UInt8) : Bool :=
  ((0x30 ≤ b && b ≤ 0x39) || (0x41 ≤ b && b ≤ 0x5A) || (0x61 ≤ b && b ≤ 0x7A)) &&
    b != 0x30 && b != 0x4F && b != 0x49 && b != 0x6C

/-- The bytes of `0x`, and forty bytes of hexadecimal digits. -/
def isEvmBytes : List UInt8 → Bool
  | 0x30 :: 0x78 :: digits => digits.length == 40 && digits.all isHexByte
  | _ => false

/-- Thirty-two to forty-four bytes, all of Base58 characters. -/
def isBase58Bytes (bytes : List UInt8) : Bool :=
  32 ≤ bytes.length && bytes.length ≤ 44 && bytes.all isBase58Byte

/-- The family that bytes look like. -/
def classifyBytes (bytes : List UInt8) : Option Family :=
  if isEvmBytes bytes then some .evm else if isBase58Bytes bytes then some .base58 else none

theorem isHexByte_iff {b : UInt8} : isHexByte b = true ↔
    (48 ≤ b.toNat ∧ b.toNat ≤ 57) ∨ (65 ≤ b.toNat ∧ b.toNat ≤ 70) ∨
      (97 ≤ b.toNat ∧ b.toNat ≤ 102) := by
  simp [isHexByte, UInt8.le_iff_toNat_le, or_assoc]

theorem isBase58Byte_iff {b : UInt8} : isBase58Byte b = true ↔
    ((48 ≤ b.toNat ∧ b.toNat ≤ 57) ∨ (65 ≤ b.toNat ∧ b.toNat ≤ 90) ∨
      (97 ≤ b.toNat ∧ b.toNat ≤ 122)) ∧
      b.toNat ≠ 48 ∧ b.toNat ≠ 79 ∧ b.toNat ≠ 73 ∧ b.toNat ≠ 108 := by
  simp [isBase58Byte, UInt8.le_iff_toNat_le, ← UInt8.toNat_inj, or_assoc, and_assoc]

variable {c : Char}

theorem isHexDigit_iff : isHexDigit c = true ↔
    (48 ≤ c.toNat ∧ c.toNat ≤ 57) ∨ (65 ≤ c.toNat ∧ c.toNat ≤ 70) ∨
      (97 ≤ c.toNat ∧ c.toNat ≤ 102) := by
  simp only [isHexDigit, Bool.or_eq_true, Bool.and_eq_true, decide_eq_true_eq, Char.le_def,
    UInt32.le_iff_toNat_le, isDigit_iff, Char.reduceVal, UInt32.reduceToNat, Char.toNat_val]
  omega

theorem isBase58Char_iff : isBase58Char c = true ↔
    ((48 ≤ c.toNat ∧ c.toNat ≤ 57) ∨ (65 ≤ c.toNat ∧ c.toNat ≤ 90) ∨
      (97 ≤ c.toNat ∧ c.toNat ≤ 122)) ∧
      c.toNat ≠ 48 ∧ c.toNat ≠ 79 ∧ c.toNat ≠ 73 ∧ c.toNat ≠ 108 := by
  simp only [isBase58Char, Bool.and_eq_true, bne_iff_ne, isAlphanum_iff, isAlpha_iff, isDigit_iff,
    ne_eq, ← Char.toNat_inj, Char.reduceToNat]
  omega

/-- The bytes of hexadecimal digits, character by character. -/
theorem all_isHexByte_encode (s : Text) : (Utf8.encode s).all isHexByte = s.all isHexDigit := by
  apply Utf8.all_encode
  · intro b hb
    rw [isHexByte_iff] at hb
    omega
  · intro c
    rw [isHexByte_iff, isHexDigit_iff, UInt8.toNat_ofNat']
    omega

/-- The bytes of Base58 characters, character by character. -/
theorem all_isBase58Byte_encode (s : Text) :
    (Utf8.encode s).all isBase58Byte = s.all isBase58Char := by
  apply Utf8.all_encode
  · intro b hb
    rw [isBase58Byte_iff] at hb
    omega
  · intro c
    rw [isBase58Byte_iff, isBase58Char_iff, UInt8.toNat_ofNat']
    omega

/-- Where all characters are of one ASCII class, counting bytes is counting characters. -/
theorem length_encode_and_all {q : Char → Bool} (hq : ∀ c, q c = true → c.toNat < 0x80)
    (test : Nat → Bool) (s : Text) :
    (test (Utf8.encode s).length && s.all q) = (test s.length && s.all q) := by
  by_cases h : s.all q = true
  · have hascii : ∀ c ∈ s, c.toNat < 0x80 := fun c hc => hq c (List.all_eq_true.mp h c hc)
    rw [Utf8.length_encode hascii]
  · rw [Bool.not_eq_true] at h
    rw [h, Bool.and_false, Bool.and_false]

theorem isBase58Bytes_encode (s : Text) : isBase58Bytes (Utf8.encode s) = isBase58Shape s := by
  have hascii : ∀ c, isBase58Char c = true → c.toNat < 0x80 := by
    intro c hc
    rw [isBase58Char_iff] at hc
    omega
  unfold isBase58Bytes
  rw [all_isBase58Byte_encode]
  exact length_encode_and_all hascii (fun n => 32 ≤ n && n ≤ 44) s

/-- Only a text that begins with `0x` has bytes that do. -/
theorem encode_eq_evm_prefix {s : Text} {digits : List UInt8}
    (h : Utf8.encode s = 0x30 :: 0x78 :: digits) :
    ∃ t, s = '0' :: 'x' :: t ∧ Utf8.encode t = digits := by
  have hcons : ∀ {s : Text} {c : Char} {rest : List UInt8},
      Utf8.encode s = String.utf8EncodeChar c ++ rest → ∃ t, s = c :: t ∧ Utf8.encode t = rest := by
    intro s c rest hs
    cases s with
    | nil =>
      have hnil := (List.append_eq_nil_iff.mp hs.symm).1
      exact absurd hnil String.utf8EncodeChar_ne_nil
    | cons d t =>
      obtain ⟨rfl, ht⟩ := Utf8.encodeChar_append_inj hs
      exact ⟨t, rfl, ht⟩
  obtain ⟨t, rfl, ht⟩ := hcons (c := '0') h
  obtain ⟨u, rfl, hu⟩ := hcons (c := 'x') ht
  exact ⟨u, rfl, hu⟩

theorem isEvmBytes_encode (s : Text) : isEvmBytes (Utf8.encode s) = isEvmShape s := by
  have hascii : ∀ c, isHexDigit c = true → c.toNat < 0x80 := by
    intro c hc
    rw [isHexDigit_iff] at hc
    omega
  by_cases hs : ∃ t, s = '0' :: 'x' :: t
  · obtain ⟨t, rfl⟩ := hs
    show ((Utf8.encode t).length == 40 && (Utf8.encode t).all isHexByte) = _
    rw [all_isHexByte_encode]
    exact length_encode_and_all hascii (· == 40) t
  · have hbytes : isEvmBytes (Utf8.encode s) = false := by
      unfold isEvmBytes
      split
      · next h =>
        obtain ⟨t, ht, -⟩ := encode_eq_evm_prefix h
        exact absurd ⟨t, ht⟩ hs
      · rfl
    have hchars : isEvmShape s = false := by
      unfold isEvmShape
      split
      · next t => exact absurd ⟨t, rfl⟩ hs
      · rfl
    rw [hbytes, hchars]

/-- **Families by bytes**: a text has the family that its bytes have. -/
theorem classifyBytes_encode (s : Text) : classifyBytes (Utf8.encode s) = classify s := by
  unfold classifyBytes classify
  rw [isEvmBytes_encode, isBase58Bytes_encode]

end Family

/-! ## What the task of one address reports -/

variable {t : Text}

/-- A text makes an address exactly when it has a family. -/
theorem Address.exists_ofText_iff {s : Text} :
    (∃ a, Address.ofText s = .ok a) ↔ (Family.classify s).isSome = true := by
  constructor
  · rintro ⟨a, ha⟩
    rw [← Address.text_of_ofText ha, a.classified]
    rfl
  · intro h
    obtain ⟨family, hclass⟩ := Option.isSome_iff_exists.mp h
    exact ⟨_, Address.ofText_text ⟨s, family, hclass⟩⟩

/-- The report on an address: its family and chain, and nothing that went wrong. -/
theorem ofAddress_of_classify {family : Family} (h : Family.classify (trim t) = some family) :
    Answer.ofAddress t =
      ⟨.obj [field "address" (.str (trim t)), field "chain" family.chain.toJson,
        field "family" family.toJson, field "valid" (.bool true)], [], [], 1⟩ := by
  have haddress : Address.ofText (trim t) = .ok ⟨trim t, family, h⟩ :=
    Address.ofText_text ⟨trim t, family, h⟩
  unfold Answer.ofAddress Chain.detect
  simp only [haddress, h]
  rfl

/-- The report on any other text: no family, no known chain, and one issue without a line. -/
theorem ofAddress_of_classify_eq_none (h : Family.classify (trim t) = none) :
    Answer.ofAddress t =
      ⟨.obj [field "address" (.str (trim t)), field "chain" Chain.unknown.toJson,
        field "valid" (.bool false)], [],
        [⟨RejectionKind.address.code, (Invalid.address (trim t)).message, none⟩], 0⟩ := by
  have haddress : Address.ofText (trim t) = .error (.address (trim t)) :=
    Address.ofText_eq_error_iff.mpr ⟨h, rfl⟩
  unfold Answer.ofAddress Chain.detect
  simp only [haddress, h]
  rfl

/-- The chain of a family is reported by another name than an unknown one. -/
theorem Family.toJson_chain_ne_unknown (f : Family) : f.chain.toJson ≠ Chain.unknown.toJson := by
  intro h
  have hname : f.chain.name = Chain.unknown.name := Json.str.inj h
  revert hname
  cases f <;> decide

/-- Every part of the report tells whether the text is an address. -/
theorem ofAddress_tells (t : Text) :
    let answer := Answer.ofAddress t
    let valid := (Family.classify (trim t)).isSome = true
    (answer.data.member "valid".toList = .bool true ↔ valid) ∧
      (answer.data.hasKey "family" = true ↔ valid) ∧
      (answer.data.member "chain".toList ≠ Chain.unknown.toJson ↔ valid) ∧
      (answer.issues = [] ↔ valid) ∧
      (answer.parsed = 1 ↔ valid) := by
  intro answer valid
  unfold answer valid
  rcases hclass : Family.classify (trim t) with _ | family
  · rw [ofAddress_of_classify_eq_none hclass]
    have hnone : ¬ (none : Option Family).isSome = true := Bool.false_ne_true
    refine ⟨iff_of_false ?_ hnone, iff_of_false ?_ hnone, iff_of_false (not_not_intro rfl) hnone,
      iff_of_false (List.cons_ne_nil _ _) hnone, iff_of_false Nat.zero_ne_one hnone⟩
    · show ¬ Json.bool false = Json.bool true
      simp
    · exact Bool.false_ne_true
  · rw [ofAddress_of_classify hclass]
    exact ⟨iff_of_true rfl rfl, iff_of_true rfl rfl, iff_of_true family.toJson_chain_ne_unknown rfl,
      iff_of_true rfl rfl, iff_of_true rfl rfl⟩

/-! ## What the reader of lines finds -/

/-- Between blanks an address alone is a line of the grammar. -/
theorem ofLine?_of_classify {family : Family} (h : Family.classify (trim t) = some family) :
    IsLooseAddress (trim t) ∧ Form.ofLine? t = some (.query (trim t)) := by
  have hloose := Address.isLooseAddress ⟨trim t, family, h⟩
  exact ⟨hloose, Form.ofTrimmed?_eq_query_iff.mpr ⟨hloose, rfl⟩⟩

/-- An address between blanks is a query of it. -/
theorem parse_of_classify {family : Family} (h : Family.classify (trim t) = some family) :
    parse t = .ok (.query ⟨trim t, family, h⟩) :=
  parse_query (ofLine?_of_classify h).2 (Address.ofText_text ⟨trim t, family, h⟩)

/-- The target of a query is the line without the blanks at its ends. -/
theorem target_of_parse_query {c : Command} (h : parse t = .ok c) (hquery : c.action = .query) :
    c.target.text = trim t := by
  obtain ⟨form, hform, hmeans⟩ := exists_form_of_parse h
  cases form with
  | query address =>
    obtain ⟨-, haddress⟩ := Form.ofTrimmed?_eq_query_iff.mp hform
    rw [hmeans.1, haddress]
    rfl
  | trade parts =>
    obtain ⟨-, -, haction, -⟩ := hmeans
    rw [hquery] at haction
    cases haction

/-- A line is a query exactly when it is an address between blanks. -/
theorem exists_parse_query_iff :
    (∃ c, parse t = .ok c ∧ c.action = .query) ↔ (Family.classify (trim t)).isSome = true := by
  constructor
  · rintro ⟨c, hparse, hquery⟩
    have hclass := c.target.classified
    rw [target_of_parse_query hparse hquery] at hclass
    exact Option.isSome_of_eq_some hclass
  · intro h
    obtain ⟨family, hclass⟩ := Option.isSome_iff_exists.mp h
    exact ⟨_, parse_of_classify hclass, rfl⟩

/-- **One notion of address.** Let `s` be the text `t` without the blanks at its ends. All of these
are the same: the report says that `s` is valid, it has a family, its chain is known, it has no
issues, it counts one; `s` makes an address, it has a family by its characters, it has one by its
bytes; the reader of lines takes `t` for a query. If so, the query's target is `s` letter for letter
and its chain is the reported one, and `s` is an address of the grammar, so that `t` is never
rejected for its form. If not, the report has one issue, about an address and without a line, and
`t` is no query. -/
theorem address_agreement (t : Text) :
    let s := trim t
    let answer := Answer.ofAddress t
    [answer.data.member "valid".toList = .bool true,
      answer.data.hasKey "family" = true,
      answer.data.member "chain".toList ≠ Chain.unknown.toJson,
      answer.issues = [],
      answer.parsed = 1,
      ∃ a, Address.ofText s = .ok a,
      (Family.classify s).isSome = true,
      (Family.classifyBytes (Utf8.encode s)).isSome = true,
      ∃ c, parse t = .ok c ∧ c.action = .query].TFAE ∧
    (∀ c, parse t = .ok c → c.action = .query →
      c.target.text = s ∧ answer.data.member "chain".toList = c.chain.toJson) ∧
    ((Family.classify s).isSome = true →
      IsLooseAddress s ∧ Form.ofLine? t = some (.query s) ∧
        ∀ input, parse t ≠ .error (.format input)) ∧
    ((Family.classify s).isSome = false →
      (∃ issue, answer.issues = [issue] ∧ issue.code = "INVALID_ADDRESS".toList ∧
        issue.line = none) ∧
      ∀ c, parse t = .ok c → c.action ≠ .query) := by
  intro s answer
  obtain ⟨hvalid, hfamily, hchain, hissues, hparsed⟩ := ofAddress_tells t
  refine ⟨?_, ?_, ?_, ?_⟩
  · tfae_have 1 ↔ 7 := hvalid
    tfae_have 2 ↔ 7 := hfamily
    tfae_have 3 ↔ 7 := hchain
    tfae_have 4 ↔ 7 := hissues
    tfae_have 5 ↔ 7 := hparsed
    tfae_have 6 ↔ 7 := Address.exists_ofText_iff
    tfae_have 8 ↔ 7 := by rw [Family.classifyBytes_encode]
    tfae_have 9 ↔ 7 := exists_parse_query_iff
    tfae_finish
  · intro c hparse hquery
    have htarget := target_of_parse_query hparse hquery
    have hclass := c.target.classified
    rw [htarget] at hclass
    refine ⟨htarget, ?_⟩
    show (Answer.ofAddress t).data.member "chain".toList = c.target.family.chain.toJson
    rw [ofAddress_of_classify hclass]
    rfl
  · intro h
    obtain ⟨family, hclass⟩ := Option.isSome_iff_exists.mp h
    obtain ⟨hloose, hform⟩ := ofLine?_of_classify hclass
    refine ⟨hloose, hform, fun input hformat => ?_⟩
    rw [parse_of_classify hclass] at hformat
    cases hformat
  · intro h
    have hnone : Family.classify (trim t) = none :=
      Option.isNone_iff_eq_none.mp (Option.isSome_eq_false_iff.mp h)
    refine ⟨⟨_, congrArg Answer.issues (ofAddress_of_classify_eq_none hnone), rfl, rfl⟩, ?_⟩
    intro c hparse hquery
    have hsome := exists_parse_query_iff.mp ⟨c, hparse, hquery⟩
    rw [hnone] at hsome
    cases hsome

/-- A wide space, a tab and a line feed around an address leave it one. -/
theorem address_agreement_between_blanks :
    let t := "\u2003\t0x098054c0c6ba84d95E2011946Db9a15BfFDB4444\n".toList
    (Answer.ofAddress t).issues = [] ∧ ∃ c, parse t = .ok c ∧ c.action = .query ∧
      c.target.text = trim t ∧ (Answer.ofAddress t).data.member "chain".toList = c.chain.toJson := by
  intro t
  obtain ⟨hagree, htarget, -, -⟩ := address_agreement t
  have hclass : (Family.classify (trim t)).isSome = true := by decide
  obtain ⟨c, hparse, hquery⟩ := (hagree.out 6 8).mp hclass
  exact ⟨(hagree.out 6 3).mp hclass, c, hparse, hquery, htarget c hparse hquery⟩

end TradeLine
