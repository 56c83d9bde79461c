import Mathlib.Data.List.Basic
import Mathlib.Data.List.Forall2
import TradeLine.Program

/-!
# The account that an envelope gives

A task that reads lines answers for each of them twice: with an item of the data, and with a count
and perhaps an issue. The three are made apart, from one list of reports, and end up in different
places of the envelope. `Envelope.Accounts` says how they hang together, in terms of the envelope
alone, with the items as plain JSON values.

* `toJson_eq` — the members of a report; from it, what each key of an item says;
* `Numbered` — line numbers that begin at one or later and only go up, which both ways of numbering
  lines keep (`numbered_lineReports`, `numbered_batchReports`);
* `Answer.accounts_ofReports` — the account of any numbered list of reports.

**Main statement** (`perform_accounts`): every task but that of one address gives such an account.
-/

namespace TradeLine

/-! ## What an envelope accounts for -/

/-- The keys of an object, in order. -/
def Json.keys : Json → List Text
  | .obj members => members.map Prod.fst
  | _ => []

/-- Whether an object has a member with the key. -/
def Json.hasKey (key : String) (value : Json) : Bool :=
  value.keys.contains key.toList

/-- An item of the data is about the same rejected line as the issue: it has the same number, and
the same code and message under `error`. -/
structure Issue.TellsOf (i : Issue) (item : Json) : Prop where
  line : ∃ n : Nat, i.line = some n ∧ item.member "line".toList = .int n
  code : (item.member "error".toList).member "code".toList = .str i.code
  message : (item.member "error".toList).member "message".toList = .str i.message

/-- The envelope accounts for every line: its data are the items, whose numbers are those given,
each with its text and with either a command or an error; the counts are those of commands and
errors; and the issues are the errors again, one for one and in order. -/
structure Envelope.Accounts (e : Envelope) (items : List Json) (numbers : List Nat) : Prop where
  data : e.data = .arr items
  line : items.map (Json.member "line".toList) = numbers.map fun n => .int n
  positive : ∀ n ∈ numbers, 1 ≤ n
  increasing : numbers.Pairwise (· < ·)
  input : ∀ item ∈ items, ∃ s, item.member "input".toList = .str s
  outcome : ∀ item ∈ items, item.hasKey "command" = !item.hasKey "error"
  parsed : e.heading.parsed = items.countP (Json.hasKey "command")
  failed : e.heading.failed = items.countP (Json.hasKey "error")
  length_issues : e.issues.length = e.heading.failed
  total : e.heading.parsed + e.heading.failed = items.length
  issues : List.Forall₂ Issue.TellsOf e.issues (items.filter (Json.hasKey "error"))

/-! ## A report as an item -/

namespace LineReport

/-- The members of a report, in key order. -/
theorem toJson_eq (r : LineReport) :
    r.toJson = .obj [r.outcomeField, field "input" (.str r.input), field "line" (.int r.line)] := by
  obtain ⟨line, input, outcome⟩ := r
  cases outcome with
  | ok command => rfl
  | error rejection => rfl

theorem member_line_toJson (r : LineReport) : r.toJson.member "line".toList = .int r.line := by
  rw [toJson_eq]
  cases h : r.outcome <;> simp [outcomeField, h, field, Json.member, Json.lookup]

theorem member_input_toJson (r : LineReport) : r.toJson.member "input".toList = .str r.input := by
  rw [toJson_eq]
  cases h : r.outcome <;> simp [outcomeField, h, field, Json.member, Json.lookup]

/-- A line that was read has a command. -/
theorem hasKey_command_toJson (r : LineReport) : r.toJson.hasKey "command" = r.isRead := by
  rw [toJson_eq]
  cases h : r.outcome <;> simp [isRead, outcomeField, h, field, Json.hasKey, Json.keys]

/-- A line that was not read has an error. -/
theorem hasKey_error_toJson (r : LineReport) : r.toJson.hasKey "error" = !r.isRead := by
  rw [toJson_eq]
  cases h : r.outcome <;> simp [isRead, outcomeField, h, field, Json.hasKey, Json.keys]

/-- Only a line that was not read has an issue. -/
theorem isSome_issue? (r : LineReport) : r.issue?.isSome = !r.isRead := by
  cases h : r.outcome <;> simp [issue?, isRead, h]

/-- The issue of a line and its item say the same. -/
theorem tellsOf_toJson {r : LineReport} {i : Issue} (h : r.issue? = some i) :
    i.TellsOf r.toJson := by
  cases hr : r.outcome with
  | ok command => simp [issue?, hr] at h
  | error rejection =>
    obtain rfl : Issue.ofRejection rejection r.line = i := by
      simpa [issue?, hr] using h
    have herror : r.toJson.member "error".toList = .object rejection.fields := by
      rw [toJson_eq, outcomeField, hr]
      exact Json.member_obj_cons_self _ _ _
    refine ⟨⟨r.line, rfl, r.member_line_toJson⟩, ?_, ?_⟩
    · rw [herror]
      rfl
    · rw [herror]
      rfl

end LineReport

/-! ## Numbers -/

/-- The reports are numbered from one or later, upwards. -/
structure Numbered (reports : List LineReport) : Prop where
  positive : ∀ r ∈ reports, 1 ≤ r.line
  increasing : reports.Pairwise fun r r' => r.line < r'.line

/-- Lines in order have their numbers in order. -/
theorem pairwise_zipIdx {α : Type} (xs : List α) (n : Nat) :
    (xs.zipIdx n).Pairwise fun x y => x.2 < y.2 := by
  have h := List.pairwise_lt_range' (s := n) (n := xs.length) 1
  rwa [← List.zipIdx_map_snd, List.pairwise_map] at h

/-- Reports on some of the pieces of a whole, each under the number of its piece. -/
theorem numbered_filterMap {α : Type} {report? : α × Nat → Option LineReport}
    (hline : ∀ x r, report? x = some r → r.line = x.2) (xs : List α) :
    Numbered ((xs.zipIdx 1).filterMap report?) where
  positive r hr := by
    obtain ⟨x, hx, hxr⟩ := List.mem_filterMap.mp hr
    rw [hline x r hxr]
    exact List.le_snd_of_mem_zipIdx hx
  increasing := by
    refine (pairwise_zipIdx xs 1).filterMap report? ?_
    intro x y hxy r hr r' hr'
    rw [hline x r hr, hline y r' hr']
    exact hxy

theorem numbered_lineReports (lines : List Text) : Numbered (lineReports lines) := by
  unfold lineReports
  rw [← List.filterMap_eq_map]
  apply numbered_filterMap
  rintro x r hr
  cases hr
  rfl

theorem numbered_batchReports (bytes : List UInt8) : Numbered (batchReports bytes) := by
  unfold batchReports
  apply numbered_filterMap
  rintro ⟨piece, number⟩ r hr
  simp only [batchReport?, Option.ite_none_left_eq_some] at hr
  obtain ⟨-, hr⟩ := hr
  cases hr
  rfl

/-! ## Reports as a whole -/

/-- The issues of reports tell of the items with an error, one for one. -/
theorem forall₂_issues (reports : List LineReport) :
    List.Forall₂ Issue.TellsOf (reports.filterMap LineReport.issue?)
      ((reports.map LineReport.toJson).filter (Json.hasKey "error")) := by
  induction reports with
  | nil => exact .nil
  | cons r reports ih =>
    rw [List.filterMap_cons, List.map_cons, List.filter_cons, r.hasKey_error_toJson,
      ← r.isSome_issue?]
    cases h : r.issue? with
    | none => simpa using ih
    | some i => exact .cons (r.tellsOf_toJson h) (by simpa using ih)

/-- There is an issue for each line that was not read. -/
theorem length_filterMap_issue? (reports : List LineReport) :
    (reports.filterMap LineReport.issue?).length = reports.countP fun r => !r.isRead := by
  rw [List.length_filterMap_eq_countP]
  apply List.countP_congr
  intro r _
  rw [r.isSome_issue?]

/-- Every line is read or has an issue. -/
theorem countP_isRead_add_length_issues (reports : List LineReport) :
    reports.countP LineReport.isRead + (reports.filterMap LineReport.issue?).length =
      reports.length := by
  rw [length_filterMap_issue?, List.length_eq_countP_add_countP LineReport.isRead]
  simp

/-- An answer that collects numbered reports accounts for every one of them. -/
theorem Answer.accounts_ofReports (answer : Answer) {reports : List LineReport}
    (h : Numbered reports) (hdata : answer.data = (ofReports reports).data)
    (hissues : answer.issues = (ofReports reports).issues)
    (hparsed : answer.parsed = (ofReports reports).parsed) (requestId : Text) :
    (Envelope.ofAnswer requestId answer).Accounts (reports.map LineReport.toJson)
      (reports.map LineReport.line) := by
  have hfailed : (reports.map LineReport.toJson).countP (Json.hasKey "error") =
      answer.issues.length := by
    rw [List.countP_eq_length_filter, hissues]
    exact (forall₂_issues reports).length_eq.symm
  constructor
  case data => exact hdata
  case line =>
    rw [List.map_map, List.map_map]
    exact List.map_congr_left fun r _ => r.member_line_toJson
  case positive =>
    rw [List.forall_mem_map]
    exact h.positive
  case increasing =>
    rw [List.pairwise_map]
    exact h.increasing
  case input =>
    rw [List.forall_mem_map]
    exact fun r _ => ⟨r.input, r.member_input_toJson⟩
  case outcome =>
    rw [List.forall_mem_map]
    intro r _
    rw [r.hasKey_command_toJson, r.hasKey_error_toJson, Bool.not_not]
  case parsed =>
    show answer.parsed = _
    rw [hparsed, List.countP_map]
    exact List.countP_congr fun r _ => by simp [r.hasKey_command_toJson]
  case failed => exact hfailed.symm
  case length_issues => rfl
  case total =>
    show answer.parsed + answer.issues.length = _
    rw [hparsed, hissues, List.length_map]
    exact countP_isRead_add_length_issues reports
  case issues =>
    show List.Forall₂ _ answer.issues _
    rw [hissues]
    exact forall₂_issues reports

/-! ## What a task can answer -/

/-- A task that succeeds reads given lines, the lines of a file, or one address, and its answer and
its events are those of what it read. -/
theorem Task.perform_cases {w : World} {task : Task} {answer : Answer} {events : List Event}
    (h : task.perform w = .ok (answer, events)) :
    (∃ lines, (task = .parse lines ∨ task = .examples ∧ lines = demoLines) ∧
      answer = .ofLines lines ∧ events = eventsOf (lineReports lines)) ∨
    (∃ file bytes, task = .batch file ∧ w.source file = .ok bytes ∧ answer = .ofBatch bytes ∧
      events = eventsOf (batchReports bytes) ++
        [.batch (batchReports bytes).length answer.parsed answer.issues.length]) ∨
    ∃ text, task = .address text ∧ answer = .ofAddress text ∧
      events = [.classified (Text.trim text) (Family.classify (Text.trim text)).isSome
        (Chain.detect (Text.trim text))] := by
  cases task with
  | parse lines =>
    cases h
    exact .inl ⟨lines, .inl rfl, rfl, rfl⟩
  | examples =>
    cases h
    exact .inl ⟨demoLines, .inr ⟨rfl, rfl⟩, rfl, rfl⟩
  | address text =>
    cases h
    exact .inr (.inr ⟨text, rfl, rfl, rfl⟩)
  | batch file =>
    simp only [Task.perform] at h
    rcases hsource : w.source file with failure | bytes
    · rw [hsource] at h
      cases h
    · rw [hsource] at h
      cases h
      exact .inr (.inl ⟨file, bytes, rfl, hsource, rfl, rfl⟩)

/-- **Nothing is lost or counted twice.** Whatever lines a task reads, given ones, those of a file
or the built-in ones, its envelope accounts for them. -/
theorem perform_accounts {w : World} {task : Task} {answer : Answer} {events : List Event}
    (h : task.perform w = .ok (answer, events)) (hlines : ∀ text, task ≠ .address text)
    (requestId : Text) :
    ∃ items numbers, (Envelope.ofAnswer requestId answer).Accounts items numbers := by
  rcases Task.perform_cases h with ⟨lines, -, rfl, -⟩ | ⟨file, bytes, -, -, rfl, -⟩ |
    ⟨text, rfl, -, -⟩
  · have hnumbered := numbered_lineReports lines
    exact ⟨_, _, Answer.accounts_ofReports (.ofLines lines) hnumbered rfl rfl rfl requestId⟩
  · have hnumbered := numbered_batchReports bytes
    exact ⟨_, _, Answer.accounts_ofReports (.ofBatch bytes) hnumbered rfl rfl rfl requestId⟩
  · exact absurd rfl (hlines text)

/-- A file with a rejected line, an empty one and a byte that spells nothing: two lines are
accounted for, and both failed. -/
theorem perform_accounts_file :
    ∃ answer events,
      Task.perform ⟨[0x78, 0x0A, 0x0A, 0xFF], fun _ => none, none, [], Filter.read⟩ (.batch none) =
          .ok (answer, events) ∧
        answer.issues.length = 2 ∧
        ∃ items numbers, (Envelope.ofAnswer [] answer).Accounts items numbers := by
  have h : Task.perform ⟨[0x78, 0x0A, 0x0A, 0xFF], fun _ => none, none, [], Filter.read⟩
      (.batch none) = .ok (_, _) := rfl
  exact ⟨_, _, h, rfl, perform_accounts h (by simp) []⟩

end TradeLine
