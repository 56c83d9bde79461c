import TradeLine.Proofs.BatchLines
import TradeLine.Proofs.EnvelopeAccount

/-!
# Files put one behind the other

A file is read line by line, and nothing is carried over from one line to the next but the number.
So the reports on two files, one behind the other, are the reports on the first and then those on
the second with their numbers moved up, as long as the first is made of whole lines.

* `WholeLines` — every line is ended by a line feed;
* `cutAt_append_of_wholeLines`, `length_cutAt_of_wholeLines` — whole lines are cut on their own, and
  there are as many of them as line feeds;
* `batchReports_append` — the reports on two files in a row;
* `batchReports_between` — the same for one line between others, whatever ends it.

**Main statement** (`ofBatch_append`): data, counts and issues of the two files add up, the warning
is there when both have it, and a line is reported on as if it were alone: changing what one line
says changes the report on no other.
-/

namespace TradeLine

/-! ## Whole lines -/

/-- The bytes are whole lines: there are none, or the last one is a line feed. -/
def WholeLines (bytes : List UInt8) : Prop :=
  bytes = [] ∨ bytes.getLast? = some 0x0A

variable {X Z L : List UInt8}

theorem wholeLines_append_lineFeed (X : List UInt8) : WholeLines (X ++ [0x0A]) :=
  .inr List.getLast?_concat

/-- Whole lines are cut on their own, whatever follows. -/
theorem cutAt_append_of_wholeLines (h : WholeLines X) (Y : List UInt8) :
    cutAt 0x0A (X ++ Y) = cutAt 0x0A X ++ cutAt 0x0A Y := by
  rcases h with rfl | h
  · rfl
  · obtain ⟨front, rfl⟩ := List.getLast?_eq_some_iff.mp h
    rw [List.append_assoc, List.singleton_append, cutAt_append_mark]

/-- There are as many whole lines as line feeds. -/
theorem length_cutAt_of_wholeLines (h : WholeLines X) :
    (cutAt 0x0A X).length = X.count 0x0A := by
  rcases h with rfl | h
  · rfl
  · obtain ⟨front, rfl⟩ := List.getLast?_eq_some_iff.mp h
    rw [length_cutAt_append_mark, List.count_append, List.count_singleton_self]

/-! ## Reports in a row -/

/-- The report with its number moved up by `n`. -/
def LineReport.movedUp (n : Nat) (r : LineReport) : LineReport :=
  { r with line := r.line + n }

/-- The issue with its number, if it has one, moved up by `n`. -/
def Issue.movedUp (n : Nat) (i : Issue) : Issue :=
  { i with line := i.line.map (· + n) }

theorem LineReport.issue?_movedUp (n : Nat) (r : LineReport) :
    (r.movedUp n).issue? = r.issue?.map (Issue.movedUp n) := by
  obtain ⟨line, input, outcome⟩ := r
  cases outcome with
  | ok command => rfl
  | error rejection => rfl

theorem batchReport?_add (n number : Nat) (piece : Text) :
    batchReport? (number + n) piece = (batchReport? number piece).map (LineReport.movedUp n) := by
  unfold batchReport?
  split_ifs
  · rfl
  · rfl

/-- The reports on two files in a row: those on the second have their numbers moved up by the number
of lines in the first. -/
theorem batchReports_append (h : WholeLines X) (Y : List UInt8) :
    batchReports (X ++ Y) =
      batchReports X ++ (batchReports Y).map (LineReport.movedUp (X.count 0x0A)) := by
  have hnumbers : (cutAt 0x0A Y).zipIdx (1 + (cutAt 0x0A X).length) =
      ((cutAt 0x0A Y).zipIdx 1).map (Prod.map id (· + X.count 0x0A)) := by
    rw [List.map_snd_add_zipIdx_eq_zipIdx, length_cutAt_of_wholeLines h, Nat.add_comm]
  unfold batchReports
  rw [cutAt_append_of_wholeLines h, List.zipIdx_append, List.filterMap_append, hnumbers,
    List.filterMap_map, List.map_filterMap]
  congr 1
  apply List.filterMap_congr
  rintro ⟨piece, number⟩ -
  exact batchReport?_add _ number (Utf8.decode piece)

/-- No report has a number beyond that of the last line. -/
theorem line_le_of_mem_batchReports {r : LineReport} (hr : r ∈ batchReports X) :
    r.line ≤ (cutAt 0x0A X).length := by
  obtain ⟨⟨piece, number⟩, hmem, hreport⟩ := List.mem_filterMap.mp hr
  have hline : r.line = number := by
    simp only [batchReport?, Option.ite_none_left_eq_some] at hreport
    obtain ⟨-, hreport⟩ := hreport
    cases hreport
    rfl
  have hnumber := List.snd_lt_add_of_mem_zipIdx hmem
  omega

/-! ## One line between others -/

/-- A line is reported on alike with and without the line feed that ends it. -/
theorem batchReports_append_lineFeed (h : 0x0A ∉ L) :
    batchReports (L ++ [0x0A]) = batchReports L := by
  unfold batchReports
  rw [cutAt_append_of_not_mem h, cutAt_nil]
  by_cases hL : L = []
  · rw [hL]
    rfl
  · rw [cutAt_of_not_mem h hL]

/-- The report on a single line has the number one. -/
theorem line_eq_one_of_mem_batchReports (h : 0x0A ∉ L) {r : LineReport} (hr : r ∈ batchReports L) :
    r.line = 1 := by
  rw [← batchReports_append_lineFeed h] at hr
  have hle := line_le_of_mem_batchReports hr
  have hpos := (numbered_batchReports _).positive r hr
  rw [cutAt_append_of_not_mem h, cutAt_nil, List.length_singleton] at hle
  omega

/-- A line that stands behind whole lines, and at the end or before a line feed, is reported on as
if it were alone, and what is reported on the lines before and behind it does not depend on it. -/
theorem batchReports_between (hX : WholeLines X) (hL : 0x0A ∉ L)
    (hZ : Z = [] ∨ Z.head? = some 0x0A) :
    batchReports (X ++ L ++ Z) =
      batchReports X ++ (batchReports L).map (LineReport.movedUp (X.count 0x0A)) ++
        (batchReports Z.tail).map (LineReport.movedUp (X.count 0x0A + 1)) := by
  rcases hZ with rfl | hZ
  · rw [List.append_nil, batchReports_append hX]
    exact (List.append_nil _).symm
  · obtain ⟨rest, rfl⟩ := List.head?_eq_some_iff.mp hZ
    have hsplit : X ++ L ++ 0x0A :: rest = X ++ ((L ++ [0x0A]) ++ rest) := by
      simp only [List.append_assoc, List.singleton_append]
    have hcount : (L ++ [0x0A]).count 0x0A = 1 := by
      rw [List.count_append, List.count_eq_zero_of_not_mem hL, List.count_singleton_self]
    have hmoved : LineReport.movedUp (X.count 0x0A) ∘ LineReport.movedUp 1 =
        LineReport.movedUp (X.count 0x0A + 1) := by
      funext r
      simp only [Function.comp_apply, LineReport.movedUp, Nat.add_assoc, Nat.add_comm 1]
    rw [hsplit, batchReports_append hX, batchReports_append (wholeLines_append_lineFeed L),
      batchReports_append_lineFeed hL, hcount, List.map_append, List.map_map, hmoved,
      List.append_assoc]
    rfl

/-- The number of a line tells its report from those on the lines before and behind it. -/
theorem filter_between (hX : WholeLines X) (hL : 0x0A ∉ L) (hZ : Z = [] ∨ Z.head? = some 0x0A) :
    (batchReports (X ++ L ++ Z)).filter (·.line = X.count 0x0A + 1) =
        (batchReports L).map (LineReport.movedUp (X.count 0x0A)) ∧
      (batchReports (X ++ L ++ Z)).filter (·.line ≠ X.count 0x0A + 1) =
        batchReports X ++ (batchReports Z.tail).map (LineReport.movedUp (X.count 0x0A + 1)) := by
  have hbefore : ∀ r ∈ batchReports X, r.line ≠ X.count 0x0A + 1 := by
    intro r hr
    have := line_le_of_mem_batchReports hr
    rw [length_cutAt_of_wholeLines hX] at this
    omega
  have hown : ∀ r ∈ (batchReports L).map (LineReport.movedUp (X.count 0x0A)),
      r.line = X.count 0x0A + 1 := by
    rw [List.forall_mem_map]
    intro r hr
    show r.line + _ = _
    rw [line_eq_one_of_mem_batchReports hL hr, Nat.add_comm]
  have hbehind : ∀ r ∈ (batchReports Z.tail).map (LineReport.movedUp (X.count 0x0A + 1)),
      r.line ≠ X.count 0x0A + 1 := by
    rw [List.forall_mem_map]
    intro r hr
    have := (numbered_batchReports Z.tail).positive r hr
    show r.line + _ ≠ _
    omega
  rw [batchReports_between hX hL hZ]
  simp only [List.filter_append]
  constructor
  · rw [List.filter_eq_nil_iff.mpr fun r hr => by simpa using hbefore r hr,
      List.filter_eq_self.mpr fun r hr => by simpa using hown r hr,
      List.filter_eq_nil_iff.mpr fun r hr => by simpa using hbehind r hr,
      List.nil_append, List.append_nil]
  · rw [List.filter_eq_self.mpr fun r hr => by simpa using hbefore r hr,
      List.filter_eq_nil_iff.mpr fun r hr => by simpa using hown r hr,
      List.filter_eq_self.mpr fun r hr => by simpa using hbehind r hr, List.append_nil]

/-! ## The main statement -/

/-- **Files put one behind the other.** Let the first file be made of whole lines. The reports on
both in a row are those on the first and then those on the second, with numbers moved up by the line
feeds in the first; the data is made of these reports, the lines read add up, the issues follow each
other with the same move, and there is a warning exactly when each file alone has one. A line
between others is reported on as if it were alone, and all other reports stay as they are when the
line is exchanged for another one. -/
theorem ofBatch_append {X : List UInt8} (h : X = [] ∨ X.getLast? = some 0x0A) :
    (∀ Y, batchReports (X ++ Y) =
        batchReports X ++ (batchReports Y).map (LineReport.movedUp (X.count 0x0A)) ∧
      (Answer.ofBatch (X ++ Y)).data = .arr ((batchReports X ++
        (batchReports Y).map (LineReport.movedUp (X.count 0x0A))).map LineReport.toJson) ∧
      (Answer.ofBatch (X ++ Y)).parsed = (Answer.ofBatch X).parsed + (Answer.ofBatch Y).parsed ∧
      (Answer.ofBatch (X ++ Y)).issues = (Answer.ofBatch X).issues ++
        (Answer.ofBatch Y).issues.map (Issue.movedUp (X.count 0x0A)) ∧
      (emptyWarning ∈ (Answer.ofBatch (X ++ Y)).warnings ↔
        emptyWarning ∈ (Answer.ofBatch X).warnings ∧
          emptyWarning ∈ (Answer.ofBatch Y).warnings)) ∧
    ∀ L Z, 0x0A ∉ L → (Z = [] ∨ Z.head? = some 0x0A) →
      (batchReports (X ++ L ++ Z)).filter (·.line = X.count 0x0A + 1) =
          (batchReports L).map (LineReport.movedUp (X.count 0x0A)) ∧
        ∀ L', 0x0A ∉ L' → (batchReports (X ++ L ++ Z)).filter (·.line ≠ X.count 0x0A + 1) =
          (batchReports (X ++ L' ++ Z)).filter (·.line ≠ X.count 0x0A + 1) := by
  constructor
  · intro Y
    have hreports := batchReports_append h Y
    refine ⟨hreports, ?_, ?_, ?_, ?_⟩
    · show Json.arr ((batchReports (X ++ Y)).map LineReport.toJson) = _
      rw [hreports]
    · show (batchReports (X ++ Y)).countP LineReport.isRead = _
      rw [hreports, List.countP_append, List.countP_map]
      rfl
    · show (batchReports (X ++ Y)).filterMap LineReport.issue? = _
      rw [hreports, List.filterMap_append, List.filterMap_map]
      show _ = _ ++ ((batchReports Y).filterMap LineReport.issue?).map _
      rw [List.map_filterMap]
      congr 1
      apply List.filterMap_congr
      intro r _
      exact r.issue?_movedUp _
    · simp [Answer.ofBatch, hreports]
  · intro L Z hL hZ
    obtain ⟨hown, hothers⟩ := filter_between h hL hZ
    refine ⟨hown, ?_⟩
    intro L' hL'
    rw [hothers, (filter_between h hL' hZ).2]

/-- A byte that spells nothing, a remark and a rejected text, and then a rejected text again: the
last one has its number moved up by two. -/
theorem ofBatch_append_remark :
    let X := [0xFF, 0x0A, 0x23, 0x0A]
    (X = [] ∨ X.getLast? = some 0x0A) ∧
      (batchReports (X ++ [0x78])).map (fun r => (r.line, r.input)) =
        [(1, "\uFFFD".toList), (3, "x".toList)] := by
  intro X
  have h : X = [] ∨ X.getLast? = some 0x0A := .inr rfl
  refine ⟨h, ?_⟩
  rw [((ofBatch_append h).1 [0x78]).1]
  rfl

end TradeLine
