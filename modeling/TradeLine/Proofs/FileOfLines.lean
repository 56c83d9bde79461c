import Mathlib.Data.List.Nodup
import TradeLine.Proofs.BatchLines
import TradeLine.Proofs.EnvelopeAccount
import TradeLine.Proofs.ParseOutcome

/-!
# The same lines as arguments and as a file

Lines can be given one by one or as a file. A file passes over the lines that say nothing and
trims the others before it reads them; lines that are given are all read, as they are. Here the
two are compared on the same lines.

* `parse_trim` — reading a line is blind to the blanks at its ends, also in what it rejects;
* `not_saysNothing_of_parse` — a line that says nothing is never a command;
* `filterMap_issue?_filter` — numbers tell issues apart, so leaving out reports is leaving out
  their issues.

**Main statement** (`ofBatch_bytesOfLines`): the file's reports are those of the given lines without
the ones that say nothing, with their texts trimmed and with nothing else changed; its issues are
theirs too, and as many lines are read.
-/

namespace TradeLine

open Text

/-! ## Lines that say nothing -/

/-- The text is all blanks, or begins with `#` once they are trimmed. -/
def Text.SaysNothing (s : Text) : Prop :=
  Run isBlank s ∨ (trim s).head? = some '#'

instance Text.Run.decidable (p : Char → Bool) (s : Text) : Decidable (Run p s) :=
  List.decidableBAll _ s

instance Text.SaysNothing.decidable (s : Text) : Decidable s.SaysNothing :=
  inferInstanceAs (Decidable (_ ∨ _))

variable {s t : Text} {lines : List Text}

/-- A file passes over the lines that say nothing. -/
theorem saysNothing_iff : s.SaysNothing ↔ trim s = [] ∨ (trim s).head? = some '#' := by
  rw [Text.SaysNothing, trim_eq_nil_iff]

theorem not_saysNothing_iff : ¬ s.SaysNothing ↔ trim s ≠ [] ∧ (trim s).head? ≠ some '#' := by
  rw [saysNothing_iff, not_or]

/-- What does not begin with a letter or digit is no line. -/
theorem ofTrimmed?_of_stops (h : Stops Char.isAlphanum s) : Form.ofTrimmed? s = none := by
  have haddress : s.takeWhile Char.isAlphanum = [] := takeWhile_run run_nil h
  simp [Form.ofTrimmed?, haddress]

/-- A line that says nothing is never a command. -/
theorem not_saysNothing_of_parse {c : Command} (h : parse s = .ok c) : ¬ s.SaysNothing := by
  intro hs
  have hstops : Stops Char.isAlphanum (trim s) := by
    intro ch hch
    rcases saysNothing_iff.mp hs with hnil | hremark
    · rw [hnil] at hch
      cases hch
    · obtain rfl : '#' = ch := Option.some.inj (hremark.symm.trans hch)
      decide
  have hform : Form.ofLine? s = none := ofTrimmed?_of_stops hstops
  rw [parse, hform] at h
  cases h

/-! ## Reading and blanks at the ends -/

/-- Two lines that differ in the blanks at their ends mean the same or are rejected alike. -/
theorem parse_eq_of_trim_eq (h : trim s = trim t) : parse s = parse t := by
  simp only [parse, Form.ofLine?, TradeForm.command, h]

theorem parse_trim (s : Text) : parse (trim s) = parse s :=
  parse_eq_of_trim_eq (trim_trim s)

/-! ## Reports -/

/-- The bytes of a file with the given lines, each ended by a line feed. -/
def bytesOfLines (lines : List Text) : List UInt8 :=
  Utf8.encode (lines.flatMap (· ++ ['\n']))

/-- The report with its text trimmed, and all else as it is. -/
def LineReport.trimmed (r : LineReport) : LineReport :=
  { r with input := trim r.input }

/-- A file reports on those of its lines that say something, as if they had been given trimmed. -/
theorem batchReports_bytesOfLines (h : ∀ s ∈ lines, '\n' ∉ s) :
    batchReports (bytesOfLines lines) =
      ((lineReports lines).filter fun r => ¬ r.input.SaysNothing).map LineReport.trimmed := by
  rw [batchReports_eq_reports, bytesOfLines, Utf8.decode_encode]
  simp only [Text.reports, lines_flatMap_lineFeed h, lineReports, List.filter_map, List.map_map]
  have hkept : (lines.zipIdx 1).filter (fun x => trim x.1 ≠ [] ∧ (trim x.1).head? ≠ some '#') =
      (lines.zipIdx 1).filter fun x => ¬ x.1.SaysNothing := by
    apply List.filter_congr
    intro x _
    rw [decide_eq_decide, not_saysNothing_iff]
  simp only [Function.comp_def, LineReport.ofLine, LineReport.trimmed, parse_trim, hkept]

/-! ## Issues -/

/-- Numbers that go up tell reports apart. -/
theorem Numbered.eq_of_line_eq {reports : List LineReport} (h : Numbered reports)
    {r r' : LineReport} (hr : r ∈ reports) (hr' : r' ∈ reports) (hline : r.line = r'.line) :
    r = r' := by
  have hnodup : (reports.map LineReport.line).Nodup := by
    rw [List.Nodup, List.pairwise_map]
    exact h.increasing.imp Nat.ne_of_lt
  exact List.inj_on_of_nodup_map hnodup hr hr' hline

/-- The issue of a line has its number. -/
theorem LineReport.line_of_issue? {r : LineReport} {i : Issue} (h : r.issue? = some i) :
    i.line = some r.line := by
  obtain ⟨n, hn, hline⟩ := (tellsOf_toJson h).line
  rw [r.member_line_toJson] at hline
  cases hline
  exact hn

/-- The issues of some reports are those of all reports without those of the others. -/
theorem filterMap_issue?_filter {reports : List LineReport} (h : Numbered reports)
    (keep : LineReport → Prop) [DecidablePred keep] :
    (reports.filter keep).filterMap LineReport.issue? =
      (reports.filterMap LineReport.issue?).filter fun i =>
        i ∉ (reports.filter fun r => ¬ keep r).filterMap LineReport.issue? := by
  rw [List.filterMap_filter, List.filter_filterMap]
  apply List.filterMap_congr
  intro r hr
  cases hissue : r.issue? with
  | none => simp
  | some i =>
    have hmem : i ∈ (reports.filter fun r => ¬ keep r).filterMap LineReport.issue? ↔ ¬ keep r := by
      constructor
      · -- a report that was left out with the same issue has the same number
        intro hi
        obtain ⟨r', hr', hissue'⟩ := List.mem_filterMap.mp hi
        obtain ⟨hr', hleft⟩ := List.mem_filter.mp hr'
        have hline : some r.line = some r'.line :=
          (r.line_of_issue? hissue).symm.trans (r'.line_of_issue? hissue')
        obtain rfl := h.eq_of_line_eq hr hr' (Option.some.inj hline)
        exact of_decide_eq_true hleft
      · intro hleft
        exact List.mem_filterMap.mpr ⟨r, List.mem_filter.mpr ⟨hr, decide_eq_true hleft⟩, hissue⟩
    simp only [Option.filter_some, hmem, not_not]

/-! ## Both ways of giving lines -/

/-- Only a line that says something can be read. -/
theorem not_saysNothing_of_isRead {r : LineReport} (hr : r ∈ lineReports lines)
    (hread : r.isRead = true) : ¬ r.input.SaysNothing := by
  obtain ⟨x, -, rfl⟩ := List.mem_map.mp hr
  unfold LineReport.isRead at hread
  split at hread
  · next c hc => exact not_saysNothing_of_parse hc
  · cases hread

/-- **The same lines as arguments and as a file.** Of lines without a line feed the file of them
reports on those that say something, trimmed and otherwise as they are reported when they are given
one by one. Its issues are those of the given lines without those of the lines it passes over, and
it reads as many lines. -/
theorem ofBatch_bytesOfLines (lines : List Text) (h : ∀ s ∈ lines, '\n' ∉ s) :
    let reports := lineReports lines
    let kept := (reports.filter fun r => ¬ r.input.SaysNothing).map LineReport.trimmed
    let removed := reports.filter fun r => r.input.SaysNothing
    (Answer.ofLines lines).data = .arr (reports.map LineReport.toJson) ∧
      batchReports (bytesOfLines lines) = kept ∧
      (Answer.ofBatch (bytesOfLines lines)).data = .arr (kept.map LineReport.toJson) ∧
      (Answer.ofBatch (bytesOfLines lines)).issues = (Answer.ofLines lines).issues.filter
        (fun i => i ∉ removed.filterMap LineReport.issue?) ∧
      (Answer.ofBatch (bytesOfLines lines)).parsed = (Answer.ofLines lines).parsed := by
  have hreports := batchReports_bytesOfLines h
  intro reports kept removed
  refine ⟨rfl, hreports, ?_, ?_, ?_⟩
  · show Json.arr ((batchReports (bytesOfLines lines)).map LineReport.toJson) = _
    rw [hreports]
  · show (batchReports (bytesOfLines lines)).filterMap LineReport.issue? = _
    have hissues := filterMap_issue?_filter (numbered_lineReports lines)
      fun r => ¬ r.input.SaysNothing
    simp only [not_not] at hissues
    rw [hreports, List.filterMap_map]
    exact hissues
  · show (batchReports (bytesOfLines lines)).countP LineReport.isRead = _
    rw [hreports, List.countP_map, List.countP_filter]
    apply List.countP_congr
    intro r hr
    simp only [Bool.and_eq_true, decide_eq_true_eq]
    exact and_iff_left_of_imp (not_saysNothing_of_isRead hr)

/-- Of a remark, a wide space and a text between blanks only the last is reported on, under its own
number. -/
theorem ofBatch_bytesOfLines_remark :
    (∀ s ∈ [" # note".toList, "\u3000".toList, " x ".toList], '\n' ∉ s) ∧
      (batchReports (bytesOfLines [" # note".toList, "\u3000".toList, " x ".toList])).map
        (fun r => (r.line, r.input)) = [(3, "x".toList)] := by
  have h : ∀ s ∈ [" # note".toList, "\u3000".toList, " x ".toList], '\n' ∉ s := by decide
  refine ⟨h, ?_⟩
  rw [(ofBatch_bytesOfLines _ h).2.1]
  rfl

end TradeLine
