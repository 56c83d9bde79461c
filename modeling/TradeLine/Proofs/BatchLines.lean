import Mathlib.Data.List.Basic
import TradeLine.Proofs.Utf8Reading
import TradeLine.Report.Tasks

/-!
# A file of lines, as bytes and as text

A file is cut into lines before its bytes are read, so that each line is read on its own.
`Text.reports` says the same of text: read all the bytes first, split the text at line feeds,
number the lines, trim them, leave out those that say nothing and report on the others. The two
agree on every file (`batchReports_eq_reports`), whatever its bytes are: a line feed ends a
character that was begun, is part of no other character, and is written only for its own byte, so
reading and cutting can trade places (`lines_decode`).
-/

namespace TradeLine

/-! ## Cutting and splitting -/

section Cutting

variable {α : Type} [DecidableEq α] {mark : α} {xs ys : List α}

/-- A list without a mark is one piece. -/
theorem cutAt_of_not_mem (h : mark ∉ xs) (hne : xs ≠ []) : cutAt mark xs = [xs] := by
  induction xs with
  | nil => exact absurd rfl hne
  | cons x xs ih =>
    obtain ⟨hx, hxs⟩ := not_or.mp (List.mem_cons.not.mp h)
    rw [cutAt, if_neg (Ne.symm hx)]
    cases xs with
    | nil => simp
    | cons y xs => rw [ih hxs (by simp)]

/-- The first mark ends the first piece. -/
theorem cutAt_append_of_not_mem (h : mark ∉ xs) :
    cutAt mark (xs ++ mark :: ys) = xs :: cutAt mark ys := by
  induction xs with
  | nil => simp
  | cons x xs ih =>
    obtain ⟨hx, hxs⟩ := not_or.mp (List.mem_cons.not.mp h)
    rw [List.cons_append, cutAt, if_neg (Ne.symm hx), ih hxs]

/-- A list can be taken apart at its marks, one after the other. -/
@[elab_as_elim]
theorem mark_induction (mark : α) {motive : List α → Prop}
    (last : ∀ xs, mark ∉ xs → motive xs)
    (step : ∀ xs ys, mark ∉ xs → motive ys → motive (xs ++ mark :: ys)) (xs : List α) :
    motive xs := by
  induction hlen : xs.length using Nat.strongRecOn generalizing xs with
  | ind n ih =>
    by_cases hmem : mark ∈ xs
    · obtain ⟨front, rest, rfl, hfront⟩ := List.eq_append_cons_of_mem hmem
      have hrest : rest.length < n := by
        rw [← hlen, List.length_append, List.length_cons]
        omega
      exact step front rest hfront (ih _ hrest rest rfl)
    · exact last xs hmem

/-- No piece holds a mark. -/
theorem not_mem_of_mem_cutAt {piece : List α} (h : piece ∈ cutAt mark xs) : mark ∉ piece := by
  induction xs using mark_induction mark with
  | last xs hxs =>
    by_cases hnil : xs = []
    · simp [hnil] at h
    · rw [cutAt_of_not_mem hxs hnil, List.mem_singleton] at h
      rwa [h]
  | step xs ys hxs ih =>
    rw [cutAt_append_of_not_mem hxs, List.mem_cons] at h
    rcases h with rfl | h
    · exact hxs
    · exact ih h

/-- There are as many pieces as marks, where the last piece ends with one. -/
theorem length_cutAt_append_mark (mark : α) (xs : List α) :
    (cutAt mark (xs ++ [mark])).length = xs.count mark + 1 := by
  induction xs using mark_induction mark with
  | last xs hxs => simp [cutAt_append_of_not_mem hxs, List.count_eq_zero_of_not_mem hxs]
  | step xs ys hxs ih =>
    simp [cutAt_append_of_not_mem hxs, ih, List.count_eq_zero_of_not_mem hxs]

end Cutting

/-! ## The lines of a text -/

namespace Text

/-- The lines of a text: what stands between line feeds, where an empty piece after the last line
feed is no line. -/
def lines (text : Text) : List Text :=
  let pieces := text.splitOn '\n'
  if pieces.getLast? = some [] then pieces.dropLast else pieces

/-- The reports that a text calls for: its lines are numbered from one and trimmed, and each that
is not empty and does not begin with `#` is read. -/
def reports (text : Text) : List LineReport :=
  let numbered := (text.lines.zipIdx 1).map fun (piece, number) => (trim piece, number)
  let kept := numbered.filter fun (s, _) => s ≠ [] ∧ s.head? ≠ some '#'
  kept.map fun (s, number) => ⟨number, s, parse s⟩

variable {s t : Text}

theorem lines_nil : lines [] = [] := by
  simp [lines]

/-- A text without a line feed is one line. -/
theorem lines_of_not_mem (h : '\n' ∉ s) (hne : s ≠ []) : lines s = [s] := by
  unfold lines
  simp [List.splitOn_eq_singleton h, hne]

/-- The first line feed ends the first line. -/
theorem lines_append_lineFeed (h : '\n' ∉ s) : lines (s ++ '\n' :: t) = s :: lines t := by
  obtain ⟨piece, pieces, hsplit⟩ := List.exists_cons_of_ne_nil (List.splitOn_ne_nil '\n' t)
  unfold lines
  rw [List.splitOn_append_cons_self_of_not_mem h, hsplit]
  simp only [List.getLast?_cons_cons, List.dropLast_cons_cons]
  split_ifs <;> rfl

/-- Splitting off the empty piece at the end is cutting. -/
theorem lines_eq_cutAt (text : Text) : lines text = cutAt '\n' text := by
  induction text using mark_induction '\n' with
  | last s hs =>
    by_cases hnil : s = []
    · rw [hnil, lines_nil, cutAt_nil]
    · rw [lines_of_not_mem hs hnil, cutAt_of_not_mem hs hnil]
  | step s t hs ih => rw [lines_append_lineFeed hs, cutAt_append_of_not_mem hs, ih]

/-- Lines with a line feed behind each are the lines of the whole. -/
theorem lines_flatMap_lineFeed {lines : List Text} (h : ∀ s ∈ lines, '\n' ∉ s) :
    Text.lines (lines.flatMap (· ++ ['\n'])) = lines := by
  induction lines with
  | nil => exact lines_nil
  | cons s lines ih =>
    obtain ⟨hs, hlines⟩ := List.forall_mem_cons.mp h
    rw [List.flatMap_cons, List.append_assoc, List.singleton_append, lines_append_lineFeed hs,
      ih hlines]

end Text

/-! ## Reading and cutting -/

theorem lineFeed_not_mem_decode {bytes : List UInt8} (h : 0x0A ∉ bytes) :
    '\n' ∉ Utf8.decode bytes := by
  intro hmem
  exact h ((Utf8.reads_iff.mpr rfl).lineFeed_mem hmem)

/-- The lines of the text that the bytes spell are the texts that their pieces spell. -/
theorem lines_decode (bytes : List UInt8) :
    (Utf8.decode bytes).lines = (cutAt 0x0A bytes).map Utf8.decode := by
  induction bytes using mark_induction (0x0A : UInt8) with
  | last bytes hbytes =>
    by_cases hnil : bytes = []
    · rw [hnil, Utf8.decode_nil, Text.lines_nil, cutAt_nil, List.map_nil]
    · have hdecode : Utf8.decode bytes ≠ [] := by
        intro h
        exact hnil ((Utf8.reads_iff.mpr rfl).eq_nil_iff.mpr h)
      rw [Text.lines_of_not_mem (lineFeed_not_mem_decode hbytes) hdecode,
        cutAt_of_not_mem hbytes hnil, List.map_singleton]
  | step xs ys hxs ih =>
    -- Both sides give up their first line and go on with what follows the line feed.
    rw [Utf8.decode_append_lineFeed, cutAt_append_of_not_mem hxs,
      Text.lines_append_lineFeed (lineFeed_not_mem_decode hxs), List.map_cons, ih]

/-! ## Reports -/

theorem isPassedOver_iff {s : Text} : isPassedOver s = true ↔ s = [] ∨ s.head? = some '#' := by
  simp [isPassedOver]

/-- Passing lines over one by one is trimming, leaving out and reading them in turn. -/
theorem filterMap_batchReport? (pieces : List (Text × Nat)) :
    pieces.filterMap (fun (piece, number) => batchReport? number piece) =
      ((pieces.map fun (piece, number) => (Text.trim piece, number)).filter
        fun (s, _) => s ≠ [] ∧ s.head? ≠ some '#').map
          fun (s, number) => ⟨number, s, parse s⟩ := by
  induction pieces with
  | nil => rfl
  | cons entry pieces ih =>
    obtain ⟨piece, number⟩ := entry
    rw [List.filterMap_cons, List.map_cons, List.filter_cons, ih]
    by_cases h : isPassedOver (Text.trim piece) = true
    · have hkeep : ¬ (Text.trim piece ≠ [] ∧ (Text.trim piece).head? ≠ some '#') := by
        intro hkeep
        rcases isPassedOver_iff.mp h with hnil | hremark
        · exact hkeep.1 hnil
        · exact hkeep.2 hremark
      simp [batchReport?, h, hkeep]
    · have hkeep : Text.trim piece ≠ [] ∧ (Text.trim piece).head? ≠ some '#' :=
        not_or.mp (isPassedOver_iff.not.mp h)
      simp [batchReport?, h, hkeep, LineReport.ofLine]

/-- Reports on the lines of a file are those that its text calls for. -/
theorem batchReports_eq_reports (bytes : List UInt8) :
    batchReports bytes = (Utf8.decode bytes).reports := by
  unfold batchReports Text.reports
  rw [lines_decode, List.zipIdx_map, ← filterMap_batchReport?, List.filterMap_map]
  rfl

/-- An answer about a file warns when there is nothing to report, and only then. -/
theorem ofBatch_eq (bytes : List UInt8) :
    Answer.ofBatch bytes = { Answer.ofReports (Utf8.decode bytes).reports with
      warnings := if (Utf8.decode bytes).reports.isEmpty then [emptyWarning] else [] } := by
  unfold Answer.ofBatch
  rw [batchReports_eq_reports]

/-- **A file is read as its text.** Whatever the bytes of a file are, there is exactly one text
that they spell, and the answer about the file is that of the reports which this text calls for:
their data, issues and count, with a warning if there are none and without one otherwise. -/
theorem ofBatch_refines_text (bytes : List UInt8) :
    ∃ text, (∀ text', Utf8.Reads bytes text' ↔ text' = text) ∧
      (Answer.ofBatch bytes).data = (Answer.ofReports text.reports).data ∧
      (Answer.ofBatch bytes).issues = (Answer.ofReports text.reports).issues ∧
      (Answer.ofBatch bytes).parsed = (Answer.ofReports text.reports).parsed ∧
      (text.reports = [] →
        (Answer.ofBatch bytes).warnings = ["no tradedown lines found in input".toList]) ∧
      (text.reports ≠ [] → (Answer.ofBatch bytes).warnings = []) := by
  refine ⟨Utf8.decode bytes, fun text' => Utf8.reads_iff, ?_⟩
  rw [ofBatch_eq]
  refine ⟨rfl, rfl, rfl, ?_, ?_⟩
  · intro h
    rw [h]
    rfl
  · intro h
    exact if_neg (List.isEmpty_iff.not.mpr h)

end TradeLine
