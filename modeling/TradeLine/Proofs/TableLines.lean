import TradeLine.Proofs.RunEnding
import TradeLine.Proofs.TableRows
import TradeLine.Report.RequestId

/-!
# The lines of the table

The table puts every text that it shows on a line of its own, without a look at what is in it. So it
has as many lines as texts, and more where a text has line feeds. Here they are traced to where they
come from: rows are made of names, numbers, units and addresses and have none, and of the messages
only that of a line without a form repeats what a user wrote, which for a file is one line.

* `Table.headingTexts`, `Table.rowTexts`, `Table.issueTexts` — the texts of a table
  (`Envelope.table_eq`);
* `Text.length_lines_line` — a text is one line, and one more for each of its line feeds;
* `LineReport.lineFeed_not_mem_rowText` — a row has no line feed;
* `count_message_of_parse`, `sum_count_issues` — the line feeds in the messages about lines;
* `Envelope.lines_table` — only the messages can take more than one line.

**Main statement** (`table_lines`).
-/

namespace TradeLine

open Text

/-! ## The texts of a table -/

namespace Table

/-- Texts under a title, where there are some. -/
def titled (title : String) (texts : List Text) : List Text :=
  if texts = [] then [] else title.toList :: texts

/-- The texts of the heading: four, and the warnings. -/
def headingTexts (h : Heading) : List Text :=
  ["request_id  : ".toList ++ h.requestId, "schema      : ".toList ++ schemaVersion,
    "parsed      : ".toList ++ ofNat h.parsed, "failed      : ".toList ++ ofNat h.failed] ++
  titled "warnings:" (h.warnings.map ("  - ".toList ++ ·))

/-- A title and a row for each item. -/
def rowTexts (items : List Json) : List Text :=
  "lines:".toList :: items.map fun item => "  ".toList ++ row item

/-- An issue with its line, if it has one, its code and its message. -/
def issueText (i : Issue) : Text :=
  let place :=
    match i.line with
    | some number => "line ".toList ++ ofNat number ++ ": ".toList
    | none => []
  "  - ".toList ++ place ++ i.code ++ ": ".toList ++ i.message

/-- The texts of the issues. -/
def issueTexts (is : List Issue) : List Text :=
  titled "errors:" (is.map issueText)

theorem length_titled (title : String) (texts : List Text) :
    (titled title texts).length = if texts = [] then 0 else 1 + texts.length := by
  unfold titled
  split_ifs <;> simp [Nat.add_comm]

theorem flatMap_titled {α : Type} (title : String) (f : α → Text) (xs : List α) :
    (titled title (xs.map f)).flatMap line =
      if xs.isEmpty then [] else line title.toList ++ xs.flatMap fun x => line (f x) := by
  simp only [titled, List.map_eq_nil_iff, List.isEmpty_iff]
  split_ifs
  · rfl
  · rw [List.flatMap_cons, List.flatMap_map]

theorem heading_eq (h : Heading) : heading h = (headingTexts h).flatMap line := by
  simp only [headingTexts, List.flatMap_append, flatMap_titled, List.flatMap_cons, List.flatMap_nil,
    List.append_nil, heading, List.append_assoc]

theorem body_eq (items : List Json) : body (.arr items) = (rowTexts items).flatMap line := by
  rw [rowTexts, List.flatMap_cons, List.flatMap_map]
  rfl

theorem issues_eq (is : List Issue) : issues is = (issueTexts is).flatMap line := by
  rw [issueTexts, flatMap_titled]
  rfl

end Table

theorem Envelope.table_eq {e : Envelope} {items : List Json} (h : e.data = .arr items) :
    e.table = (Table.headingTexts e.heading ++ Table.rowTexts items ++
      Table.issueTexts e.issues).flatMap Table.line := by
  rw [Envelope.table, h, Table.heading_eq, Table.body_eq, Table.issues_eq, List.flatMap_append,
    List.flatMap_append]

/-! ## Lines of texts -/

namespace Text

variable {s : Text}

/-- What follows a line feed has no bearing on the lines before it. -/
theorem lines_line_append (s t : Text) :
    (Table.line s ++ t).lines = (Table.line s).lines ++ t.lines := by
  simp only [Table.line, lines_eq_cutAt, List.append_assoc, List.singleton_append]
  apply cutAt_append_mark

/-- Texts with a line feed behind each have each its own lines. -/
theorem lines_flatMap_line (texts : List Text) :
    lines (texts.flatMap Table.line) = texts.flatMap fun s => (Table.line s).lines := by
  induction texts with
  | nil => exact lines_nil
  | cons s texts ih => rw [List.flatMap_cons, List.flatMap_cons, lines_line_append, ih]

/-- A text is one line, and one more for each of its line feeds. -/
theorem length_lines_line (s : Text) : (Table.line s).lines.length = 1 + s.count '\n' := by
  rw [lines_eq_cutAt, Table.line, length_cutAt_append_mark, Nat.add_comm]

/-- Texts without line feeds are the lines. -/
theorem flatMap_lines_line {texts : List Text} (h : ∀ s ∈ texts, '\n' ∉ s) :
    (texts.flatMap fun s => (Table.line s).lines) = texts := by
  rw [← lines_flatMap_line]
  exact lines_flatMap_lineFeed h

/-! ## Texts without line feeds -/

/-- A line feed is blank. -/
theorem lineFeed_not_mem (h : ∀ c ∈ s, isBlank c = false) : '\n' ∉ s := by
  intro hmem
  cases h _ hmem

theorem lineFeed_not_mem_ofNat (n : Nat) : '\n' ∉ ofNat n := by
  apply lineFeed_not_mem
  intro c hc
  exact not_isBlank_of_isDigit (Decimal.run_ofCoefficient n 0 c hc)

theorem lineFeed_not_mem_padLeft (n : Nat) (h : '\n' ∉ s) : '\n' ∉ padLeft n s := by
  simp [padLeft, h]

theorem lineFeed_not_mem_padRight (n : Nat) (h : '\n' ∉ s) : '\n' ∉ padRight n s := by
  simp [padRight, h]

theorem lineFeed_not_mem_trim (h : '\n' ∉ s) : '\n' ∉ trim s := by
  obtain ⟨w, w', -, -, hs⟩ := exists_blanks_trim s
  intro hmem
  apply h
  rw [hs]
  simp [hmem]

end Text

theorem RequestId.lineFeed_not_mem_hex (width n : Nat) : '\n' ∉ hex width n := by
  have hdigit : ∀ m < 16, '\n' ≠ m.digitChar := by decide
  induction width generalizing n with
  | zero => simp [hex]
  | succ width ih =>
    have hlast := hdigit (n % 16) (Nat.mod_lt n (by decide))
    simp [hex, ih, hlast]

theorem RequestId.lineFeed_not_mem_ofRandom (bits : Nat) : '\n' ∉ ofRandom bits := by
  simp [ofRandom, lineFeed_not_mem_hex]

theorem Rejection.lineFeed_not_mem_code (r : Rejection) : '\n' ∉ r.code := by
  unfold Rejection.code
  cases r.kind <;> decide

/-! ## Rows -/

theorem Action.lineFeed_not_mem_name (a : Action) : '\n' ∉ a.name := by
  rcases a with (_ | _) | _ <;> decide

theorem Address.lineFeed_not_mem_text (a : Address) : '\n' ∉ a.text := by
  apply lineFeed_not_mem
  intro c hc
  exact not_isBlank_of_isAlphanum (a.isLooseAddress.alphanumeric c hc)

theorem Command.lineFeed_not_mem_rowText (c : Command) : '\n' ∉ c.rowText := by
  have haction := lineFeed_not_mem_padRight 5 c.action.lineFeed_not_mem_name
  have hchain := lineFeed_not_mem c.target.chain.not_isBlank_name
  have htarget := c.target.lineFeed_not_mem_text
  cases c with
  | query target =>
    rw [rowText_query]
    simp only [List.mem_append, List.mem_cons, not_or]
    exact ⟨haction, by decide, ⟨hchain, by decide⟩, htarget⟩
  | trade side target amount =>
    have hnumber := lineFeed_not_mem amount.not_isBlank_rowText
    have hunit := lineFeed_not_mem amount.unit.not_isBlank_text
    rw [rowText_trade]
    simp only [List.mem_append, List.mem_cons, not_or]
    exact ⟨haction, by decide, hnumber, by decide, hunit, by decide, by decide,
      ⟨hchain, by decide⟩, htarget⟩

/-- A row has no line feed. -/
theorem LineReport.lineFeed_not_mem_rowText (r : LineReport) : '\n' ∉ r.rowText := by
  have hnumber := lineFeed_not_mem_padLeft 4 (lineFeed_not_mem_ofNat r.line)
  simp only [LineReport.rowText, List.mem_append, not_or]
  refine ⟨⟨hnumber, by decide⟩, ?_⟩
  cases r.outcome with
  | ok command => exact command.lineFeed_not_mem_rowText
  | error rejection => exact rejection.lineFeed_not_mem_code

/-! ## Messages -/

/-- The address of a form is letters and digits. -/
theorem Form.isLooseAddress_of_ofLine? {line : Text} {form : Form}
    (h : Form.ofLine? line = some form) : IsLooseAddress form.address := by
  cases form with
  | query address => exact (Form.ofTrimmed?_eq_query_iff.mp h).1
  | trade parts =>
    obtain ⟨l, hl, rfl, -⟩ := Form.ofTrimmed?_eq_trade_iff.mp h
    exact hl.address

/-- The text at fault, which a message repeats. -/
def Rejection.fault : Rejection → Text
  | .format s => s
  | .address s => s
  | .value s => s

/-- All line feeds of a message are those of the text that it repeats. -/
theorem Rejection.count_message (r : Rejection) : r.message.count '\n' = r.fault.count '\n' := by
  have haround : ∀ {front back : Text} (s : Text), '\n' ∉ front → '\n' ∉ back →
      (front ++ s ++ back).count '\n' = s.count '\n' := by
    intro front back s hfront hback
    simp [List.count_eq_zero_of_not_mem hfront, List.count_eq_zero_of_not_mem hback]
  cases r with
  | format s =>
    have hfront : '\n' ∉ "input does not match tradedown syntax: '".toList := by decide
    exact haround s hfront (by decide)
  | address s =>
    have hfront : '\n' ∉ "invalid address: ".toList := by decide
    have h := haround s hfront List.not_mem_nil
    rwa [List.append_nil] at h
  | value s =>
    have hfront : '\n' ∉ "value '".toList := by decide
    have hback : '\n' ∉ "' is not a valid number".toList := by decide
    exact haround s hfront hback

/-- Only the message about a form repeats line feeds of the line. -/
theorem count_message_of_parse {s : Text} {r : Rejection} (h : parse s = .error r) :
    r.message.count '\n' = if r.kind = .format then (trim s).count '\n' else 0 := by
  rw [r.count_message]
  obtain ⟨rule, hrule⟩ := exists_settles s
  cases rule with
  | format =>
    obtain ⟨-, hparse⟩ := hrule
    rw [hparse] at h
    cases h
    rfl
  | address =>
    obtain ⟨form, hform, -, hparse⟩ := hrule
    rw [hparse] at h
    cases h
    apply List.count_eq_zero_of_not_mem
    apply lineFeed_not_mem
    intro c hc
    exact not_isBlank_of_isAlphanum ((Form.isLooseAddress_of_ofLine? hform).alphanumeric c hc)
  | value =>
    obtain ⟨parts, hform, -, -, hparse⟩ := hrule
    rw [hparse] at h
    cases h
    -- the message repeats the number as it is written in the line, a literal
    apply List.count_eq_zero_of_not_mem
    exact lineFeed_not_mem (Form.parts_of_ofLine? hform).1.not_isBlank
  | command =>
    obtain ⟨form, c, -, -, hparse⟩ := hrule
    rw [hparse] at h
    cases h

/-- The code that a line is rejected with. -/
def Text.code? (s : Text) : Option Text :=
  match parse s with
  | .ok _ => none
  | .error r => some r.code

theorem Rejection.code_eq_iff {r : Rejection} :
    r.code = "INVALID_FORMAT".toList ↔ r.kind = .format := by
  unfold Rejection.code
  cases r.kind <;> decide

/-- The messages about lines have the line feeds of the lines without a form. -/
theorem sum_count_issues (numbered : List (Text × Nat)) :
    (((numbered.map fun x => LineReport.ofLine x.2 x.1).filterMap LineReport.issue?).map
      fun i => i.message.count '\n').sum =
    (((numbered.map Prod.fst).filter fun s => code? s = some "INVALID_FORMAT".toList).map
      fun s => (trim s).count '\n').sum := by
  induction numbered with
  | nil => rfl
  | cons x numbered ih =>
    rw [List.map_cons, List.map_cons, List.filter_cons]
    rcases hparse : parse x.1 with r | c
    · have hissue : (LineReport.ofLine x.2 x.1).issue? = some (.ofRejection r x.2) := by
        simp only [LineReport.ofLine, LineReport.issue?, hparse]
      have hcode : code? x.1 = some "INVALID_FORMAT".toList ↔ r.kind = .format := by
        rw [code?, hparse, Option.some_inj, Rejection.code_eq_iff]
      rw [List.filterMap_cons_some hissue, List.map_cons, List.sum_cons, ih]
      show r.message.count '\n' + _ = _
      rw [count_message_of_parse hparse]
      by_cases hkind : r.kind = .format
      · rw [if_pos hkind, if_pos (decide_eq_true (hcode.mpr hkind)), List.map_cons, List.sum_cons]
      · rw [if_neg hkind, if_neg (by rwa [decide_eq_true_iff, hcode]), Nat.zero_add]
    · have hissue : (LineReport.ofLine x.2 x.1).issue? = none := by
        simp only [LineReport.ofLine, LineReport.issue?, hparse]
      have hcode : code? x.1 = none := by
        rw [code?, hparse]
      rw [List.filterMap_cons_none hissue, ih, hcode]
      rfl

/-! ## Counting -/

theorem Text.length_flatMap_lines_line (texts : List Text) :
    (texts.flatMap fun s => (Table.line s).lines).length =
      texts.length + (texts.map fun s => s.count '\n').sum := by
  induction texts with
  | nil => rfl
  | cons s texts ih =>
    rw [List.flatMap_cons, List.length_append, length_lines_line, ih, List.length_cons,
      List.map_cons, List.sum_cons]
    omega

namespace Table

theorem length_headingTexts (h : Heading) :
    (headingTexts h).length = 4 + if h.warnings = [] then 0 else 1 + h.warnings.length := by
  rw [headingTexts, List.length_append, length_titled]
  simp only [List.map_eq_nil_iff, List.length_map]
  rfl

theorem length_rowTexts (items : List Json) : (rowTexts items).length = 1 + items.length := by
  rw [rowTexts, List.length_cons, List.length_map, Nat.add_comm]

theorem length_issueTexts (is : List Issue) :
    (issueTexts is).length = if is = [] then 0 else 1 + is.length := by
  rw [issueTexts, length_titled]
  simp only [List.map_eq_nil_iff, List.length_map]

/-- All line feeds of an issue's text are those of its message. -/
theorem count_issueText {i : Issue} (h : '\n' ∉ i.code) :
    (issueText i).count '\n' = i.message.count '\n' := by
  have hdash : '\n' ∉ "  - ".toList := by decide
  have hline : '\n' ∉ "line ".toList := by decide
  have hcolon : '\n' ∉ ": ".toList := by decide
  have hzero : ∀ {s : Text}, '\n' ∉ s → s.count '\n' = 0 := List.count_eq_zero_of_not_mem
  unfold issueText
  rcases i.line with _ | number
  · simp only [List.count_append, hzero hdash, hzero h, hzero hcolon, List.count_nil, Nat.zero_add]
  · simp only [List.count_append, hzero hdash, hzero hline, hzero (lineFeed_not_mem_ofNat number),
      hzero h, hzero hcolon, Nat.zero_add]

theorem sum_count_issueTexts {is : List Issue} (h : ∀ i ∈ is, '\n' ∉ i.code) :
    ((issueTexts is).map fun s => s.count '\n').sum =
      (is.map fun i => i.message.count '\n').sum := by
  have htexts : (is.map issueText).map (fun s => s.count '\n') =
      is.map fun i => i.message.count '\n' := by
    rw [List.map_map]
    exact List.map_congr_left fun i hi => count_issueText (h i hi)
  have htitle : "errors:".toList.count '\n' = 0 := by decide
  rw [← htexts, issueTexts, titled]
  split_ifs with hnone
  · rw [hnone]
  · rw [List.map_cons, List.sum_cons, htitle, Nat.zero_add]

theorem lineFeed_not_mem_of_mem_headingTexts {h : Heading} (hid : '\n' ∉ h.requestId)
    (hwarnings : ∀ s ∈ h.warnings, '\n' ∉ s) {s : Text} (hs : s ∈ headingTexts h) : '\n' ∉ s := by
  have hfront : ∀ {front t : Text}, '\n' ∉ front → '\n' ∉ t → '\n' ∉ front ++ t := by
    intro front t hfront ht
    simp [hfront, ht]
  rw [headingTexts, List.mem_append] at hs
  rcases hs with hs | hs
  · simp only [List.mem_cons, List.not_mem_nil, or_false] at hs
    rcases hs with rfl | rfl | rfl | rfl
    · exact hfront (by decide) hid
    · decide
    · exact hfront (by decide) (lineFeed_not_mem_ofNat _)
    · exact hfront (by decide) (lineFeed_not_mem_ofNat _)
  · unfold titled at hs
    split_ifs at hs
    · cases hs
    · rcases List.mem_cons.mp hs with rfl | hs
      · decide
      · obtain ⟨t, ht, rfl⟩ := List.mem_map.mp hs
        exact hfront (by decide) (hwarnings t ht)

theorem lineFeed_not_mem_of_mem_rowTexts {items : List Json}
    (hrows : ∀ item ∈ items, '\n' ∉ row item) {s : Text} (hs : s ∈ rowTexts items) : '\n' ∉ s := by
  rcases List.mem_cons.mp hs with rfl | hs
  · decide
  · obtain ⟨item, hitem, rfl⟩ := List.mem_map.mp hs
    rw [List.mem_append, not_or]
    exact ⟨by decide, hrows item hitem⟩

theorem lineFeed_not_mem_of_mem_issueTexts {is : List Issue} (hcode : ∀ i ∈ is, '\n' ∉ i.code)
    (h : (is.map fun i => i.message.count '\n').sum = 0) {s : Text} (hs : s ∈ issueTexts is) :
    '\n' ∉ s := by
  rw [← sum_count_issueTexts hcode, List.sum_eq_zero_iff] at h
  exact List.count_eq_zero.mp (h _ (List.mem_map_of_mem hs))

end Table

/-- A table whose rows, warnings and codes have no line feeds shows each of its texts on one line,
apart from messages, which have as many more as they have line feeds. -/
theorem Envelope.lines_table {e : Envelope} {items : List Json} (hdata : e.data = .arr items)
    (hid : '\n' ∉ e.heading.requestId) (hwarnings : ∀ s ∈ e.heading.warnings, '\n' ∉ s)
    (hrows : ∀ item ∈ items, '\n' ∉ Table.row item) :
    e.table.lines = Table.headingTexts e.heading ++ Table.rowTexts items ++
      (Table.issueTexts e.issues).flatMap fun s => (Table.line s).lines := by
  rw [Envelope.table_eq hdata, lines_flatMap_line, List.flatMap_append]
  congr 1
  apply flatMap_lines_line
  intro s hs
  rcases List.mem_append.mp hs with hs | hs
  · exact Table.lineFeed_not_mem_of_mem_headingTexts hid hwarnings hs
  · exact Table.lineFeed_not_mem_of_mem_rowTexts hrows hs

/-! ## Tables of tasks -/

section Task

variable {w : World} {task : Task} {answer : Answer} {events : List Event}

/-- The lines of a file are cut at line feeds. -/
theorem Task.lineFeed_not_mem_of_mem_lines {file : Option Text} {s : Text}
    (h : s ∈ Task.lines w (.batch file)) : '\n' ∉ s := by
  simp only [Task.lines] at h
  split at h
  · obtain ⟨piece, hpiece, rfl⟩ := List.mem_map.mp h
    have hmem := (List.mem_filter.mp hpiece).1
    rw [lines_eq_cutAt] at hmem
    exact lineFeed_not_mem_trim (not_mem_of_mem_cutAt hmem)
  · cases h

theorem LineReport.lineFeed_not_mem_code {r : LineReport} {i : Issue} (h : r.issue? = some i) :
    '\n' ∉ i.code := by
  unfold LineReport.issue? at h
  split at h
  · cases h
  · cases h
    exact Rejection.lineFeed_not_mem_code _

/-- A task that reads lines answers with the reports on them and their issues. -/
theorem Task.exists_numbered (h : task.perform w = .ok (answer, events))
    (hlines : ∀ text, task ≠ .address text) : ∃ numbered : List (Text × Nat),
    numbered.map Prod.fst = task.lines w ∧
      answer.data = .arr (numbered.map fun x => (LineReport.ofLine x.2 x.1).toJson) ∧
      answer.issues =
        (numbered.map fun x => LineReport.ofLine x.2 x.1).filterMap LineReport.issue? ∧
      ∀ s ∈ answer.warnings, '\n' ∉ s := by
  rcases Task.perform_cases h with ⟨lines, htask, rfl, -⟩ | ⟨file, bytes, rfl, hsource, rfl, -⟩ |
    ⟨text, rfl, -, -⟩
  · have htexts : task.lines w = lines := by
      rcases htask with rfl | ⟨rfl, rfl⟩ <;> rfl
    refine ⟨lines.zipIdx 1, ?_, ?_, rfl, ?_⟩
    · rw [htexts, List.zipIdx_map_fst]
    · simp only [Answer.ofLines, Answer.ofReports, lineReports, List.map_map]
      rfl
    · intro s hs
      cases hs
  · obtain ⟨numbered, hreports, hnumbered⟩ := exists_reports_eq (Utf8.decode bytes)
    refine ⟨numbered, ?_, ?_, ?_, ?_⟩
    · rw [hnumbered, Task.lines, hsource]
    · rw [ofBatch_eq, hreports]
      simp only [Answer.ofReports, List.map_map]
      rfl
    · rw [ofBatch_eq, hreports]
      rfl
    · intro s hs
      rw [ofBatch_eq] at hs
      dsimp only at hs
      split_ifs at hs
      · rw [List.mem_singleton.mp hs]
        decide
      · cases hs
  · exact absurd rfl (hlines text)

/-- **The lines of a table.** Let a task read lines, given ones, built-in ones or those of a file.
Its table has four lines of heading, a title and a line for each warning where there are some, a
title and a row for each line that was read, a title and a line for each issue where there are some,
and one more line for each line feed in a message. A row has no line feed. For a file, whatever its
bytes are, neither has a message, so the lines are the texts one by one; for given lines, the
messages have the line feeds of the trimmed lines that have no form. -/
theorem table_lines (h : task.perform w = .ok (answer, events))
    (hlines : ∀ text, task ≠ .address text) (bits : Nat) (pretty : Bool) :
    let e := Envelope.ofAnswer (RequestId.ofRandom bits) answer
    let output := e.render .table pretty
    let x := (e.issues.map fun i => i.message.count '\n').sum
    ∃ items, e.data = .arr items ∧ items.length = (task.lines w).length ∧
      output.lines.length =
        4 + (if answer.warnings = [] then 0 else 1 + answer.warnings.length) + 1 + items.length +
          (if e.issues = [] then 0 else 1 + e.issues.length) + x ∧
      output.lines = Table.headingTexts e.heading ++ Table.rowTexts items ++
        (Table.issueTexts e.issues).flatMap (fun s => (Table.line s).lines) ∧
      (∀ item ∈ items, '\n' ∉ Table.row item) ∧
      (∀ file, task = .batch file → x = 0 ∧ output.lines =
        Table.headingTexts e.heading ++ Table.rowTexts items ++ Table.issueTexts e.issues) ∧
      ∀ lines, task = .parse lines →
        x = ((lines.filter fun s => code? s = some "INVALID_FORMAT".toList).map
          fun s => (trim s).count '\n').sum := by
  intro e output x
  obtain ⟨numbered, hnumbered, hdata, hissues, hwarnings⟩ := Task.exists_numbered h hlines
  have hx : x = (((task.lines w).filter fun s => code? s = some "INVALID_FORMAT".toList).map
      fun s => (trim s).count '\n').sum := by
    rw [← hnumbered, ← sum_count_issues, ← hissues]
    rfl
  have hcode : ∀ i ∈ e.issues, '\n' ∉ i.code := by
    intro i hi
    rw [show e.issues = _ from hissues] at hi
    obtain ⟨r, -, hr⟩ := List.mem_filterMap.mp hi
    exact LineReport.lineFeed_not_mem_code hr
  -- what a row shows is known from the report, whose parts have no line feed
  have hrows : ∀ item ∈ numbered.map fun x => (LineReport.ofLine x.2 x.1).toJson,
      '\n' ∉ Table.row item := by
    intro item hitem
    obtain ⟨y, -, rfl⟩ := List.mem_map.mp hitem
    rw [LineReport.row_toJson]
    exact LineReport.lineFeed_not_mem_rowText _
  have houtput : output.lines = _ :=
    Envelope.lines_table hdata (RequestId.lineFeed_not_mem_ofRandom bits) hwarnings hrows
  refine ⟨_, hdata, ?_, ?_, houtput, hrows, ?_, ?_⟩
  · rw [← hnumbered, List.length_map, List.length_map]
  · have hheading : e.heading.warnings = answer.warnings := rfl
    rw [houtput, List.length_append, List.length_append, Table.length_headingTexts,
      Table.length_rowTexts, length_flatMap_lines_line, Table.length_issueTexts,
      Table.sum_count_issueTexts hcode, hheading]
    omega
  · rintro file rfl
    -- a message can only repeat a line of the file, and that was cut at line feeds
    have hzero : x = 0 := by
      rw [hx, List.sum_eq_zero_iff]
      intro n hn
      obtain ⟨s, hs, rfl⟩ := List.mem_map.mp hn
      have hfile := Task.lineFeed_not_mem_of_mem_lines (List.mem_filter.mp hs).1
      exact List.count_eq_zero_of_not_mem (lineFeed_not_mem_trim hfile)
    refine ⟨hzero, ?_⟩
    rw [houtput, flatMap_lines_line]
    intro s hs
    exact Table.lineFeed_not_mem_of_mem_issueTexts hcode hzero hs
  · rintro lines rfl
    exact hx

end Task

/-- A line feed inside a line without a form is one more line in its message. -/
theorem table_lines_parse :
    ∃ answer events,
      Task.perform ⟨[], fun _ => none, none, [], Filter.read⟩ (.parse ["x\ny".toList]) =
          .ok (answer, events) ∧
        ((Envelope.ofAnswer (RequestId.ofRandom 7) answer).render .table false).lines.length =
          4 + 0 + 1 + 1 + 2 + 1 := by
  have h : Task.perform ⟨[], fun _ => none, none, [], Filter.read⟩ (.parse ["x\ny".toList]) =
      .ok (_, _) := rfl
  obtain ⟨items, -, hitems, hlength, -, -, -, hx⟩ := table_lines h (by simp) 7 false
  refine ⟨_, _, h, ?_⟩
  rw [hlength, hitems, hx _ rfl]
  rfl

end TradeLine
