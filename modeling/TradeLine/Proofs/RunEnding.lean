import TradeLine.Proofs.FileOfLines

/-!
# How a run ends

A run goes through its stages in a fixed order, and what it leaves behind depends on the first that
fails. `Invocation.Ends` lists the endings with the exit code and the output of each, in terms of
the filters, the file and the lines that the run is given: whether a line is rejected is asked of
the line itself (`Task.Fails`), not of what the envelope says about it, and whether a text is a
filter is asked of the reader of filters that the run is given (`World.IsFilter`), whichever it is.

* `World.filter_cases`, `Task.perform_total` — the two stages that can fail before anything is
  written, and when they do;
* `Task.issues_ne_nil_iff`, `Task.warnings_ne_nil_iff` — what an answer complains about is what is
  wrong with the lines;
* `ends_run`, `ends_iff` — a run ends in one of the listed ways, and in no other.

**Main statement** (`runArguments_ends`), with what follows for two runs: the layout of the output
has no say in the exit code, and neither the strict mode nor the log filter has one in the output.
-/

namespace TradeLine

open Text

/-! ## What can go wrong -/

/-- The text can be read as a log filter. -/
def World.IsFilter (w : World) (s : Text) : Prop :=
  ∃ filter, w.readFilter s = .ok filter

/-- Neither the environment nor the invocation has a log filter that can be read. -/
def World.LacksFilter (w : World) (logLevel : Text) : Prop :=
  (∀ s, w.logFilter = some s → ¬ w.IsFilter s) ∧ ¬ w.IsFilter logLevel

/-- The task reads a file that is not there. -/
def Task.LacksFile (w : World) (task : Task) : Prop :=
  ∃ path, task = .batch (some path) ∧ w.file? path = none

/-- The lines of a text that say something, trimmed. -/
def Text.keptLines (text : Text) : List Text :=
  (text.lines.filter fun s => ¬ s.SaysNothing).map trim

/-- The lines that a task reports on: those given, the built-in ones, or those of a file that say
something. -/
def Task.lines (w : World) : Task → List Text
  | .parse lines => lines
  | .examples => demoLines
  | .address _ => []
  | .batch file =>
    match w.source file with
    | .ok bytes => (Utf8.decode bytes).keptLines
    | .error _ => []

/-- One of the lines is no command, or the given address is none. -/
def Task.Fails (w : World) (task : Task) : Prop :=
  (∃ s ∈ task.lines w, ∃ rejection, TradeLine.parse s = .error rejection) ∨
    ∃ text, task = .address text ∧ Family.classify (trim text) = none

/-- The task reads a file that has no line to report on. -/
def Task.IsIdle (w : World) (task : Task) : Prop :=
  (∃ file, task = .batch file) ∧ task.lines w = []

/-! ## The endings -/

/-- The run gets as far as writing the envelope of its task, and this is the output. -/
def Invocation.Writes (inv : Invocation) (w : World) (output : Text) : Prop :=
  ¬ w.LacksFilter inv.logLevel ∧ ¬ inv.task.LacksFile w ∧
    ∃ answer events, inv.task.perform w = .ok (answer, events) ∧
      output = (Envelope.ofAnswer w.requestId answer).render inv.format inv.pretty

/-- The ways in which a run can end, with its exit code and its output. -/
inductive Invocation.Ends (inv : Invocation) (w : World) : Nat → Text → Prop
  | noFilter (h : w.LacksFilter inv.logLevel) : inv.Ends w 2 []
  | noFile (hfilter : ¬ w.LacksFilter inv.logLevel) (h : inv.task.LacksFile w) : inv.Ends w 10 []
  | strict {output : Text} (hwrites : inv.Writes w output) (hstrict : inv.strict = true)
      (h : inv.task.Fails w ∨ inv.task.IsIdle w) : inv.Ends w 5 output
  | failed {output : Text} (hwrites : inv.Writes w output) (hstrict : inv.strict = false)
      (h : inv.task.Fails w) : inv.Ends w 3 output
  | fine {output : Text} (hwrites : inv.Writes w output)
      (h : ¬ (inv.strict = true ∧ (inv.task.Fails w ∨ inv.task.IsIdle w)))
      (h' : ¬ (inv.strict = false ∧ inv.task.Fails w)) : inv.Ends w 0 output

/-! ## Filter and file -/

/-- The filter is found, or there is none to be found and the run fails for it. -/
theorem World.filter_cases (w : World) (logLevel : Text) :
    (w.LacksFilter logLevel ∧ ∃ reason, w.filter logLevel = .error (.logging reason)) ∨
      ¬ w.LacksFilter logLevel ∧ ∃ filter, w.filter logLevel = .ok filter := by
  by_cases henv : ∃ s, w.logFilter = some s ∧ w.IsFilter s
  · obtain ⟨s, hs, filter, hfilter⟩ := henv
    refine .inr ⟨fun hlacks => hlacks.1 s hs ⟨filter, hfilter⟩, filter, ?_⟩
    simp [World.filter, hs, hfilter]
  · -- the environment's filter is as good as absent
    have hown : w.filter logLevel = (w.readFilter logLevel).mapError .logging := by
      rcases hlog : w.logFilter with _ | s
      · simp [World.filter, hlog]
      · rcases hs : w.readFilter s with e | filter
        · simp [World.filter, hlog, hs]
        · exact absurd ⟨s, hlog, filter, hs⟩ henv
    rcases hlevel : w.readFilter logLevel with e | filter
    · refine .inl ⟨⟨fun s hs hfilter => henv ⟨s, hs, hfilter⟩, ?_⟩, e, ?_⟩
      · rintro ⟨filter, hfilter⟩
        rw [hlevel] at hfilter
        cases hfilter
      · rw [hown, hlevel]
        rfl
    · refine .inr ⟨fun hlacks => hlacks.2 ⟨filter, hlevel⟩, filter, ?_⟩
      rw [hown, hlevel]
      rfl

/-- A task is done unless it reads a file that is not there. -/
theorem Task.perform_total (w : World) (task : Task) :
    (task.LacksFile w ∧ task.perform w = .error .missingFile) ∨
      ¬ task.LacksFile w ∧ ∃ answer events, task.perform w = .ok (answer, events) := by
  have hother : ∀ {answer events}, (∀ path, task ≠ .batch (some path)) →
      task.perform w = .ok (answer, events) →
      ¬ task.LacksFile w ∧ ∃ answer events, task.perform w = .ok (answer, events) := by
    intro answer events hbatch hperform
    refine ⟨?_, answer, events, hperform⟩
    rintro ⟨path, hpath, -⟩
    exact hbatch path hpath
  cases task with
  | parse lines => exact .inr (hother (by simp) rfl)
  | examples => exact .inr (hother (by simp) rfl)
  | address text => exact .inr (hother (by simp) rfl)
  | batch file =>
    cases file with
    | none => exact .inr (hother (by simp) rfl)
    | some path =>
      rcases hfile : w.file? path with _ | bytes
      · refine .inl ⟨⟨path, rfl, hfile⟩, ?_⟩
        simp only [Task.perform, World.source, hfile]
        rfl
      · refine .inr ⟨?_, ?_⟩
        · rintro ⟨path', hpath, hnone⟩
          cases hpath
          rw [hfile] at hnone
          cases hnone
        · simp only [Task.perform, World.source, hfile]
          exact ⟨_, _, rfl⟩

/-! ## What an answer complains about -/

/-- Reports on lines have issues exactly when a line is rejected. -/
theorem issues_map_ofLine_ne_nil_iff (numbered : List (Text × Nat)) :
    (Answer.ofReports (numbered.map fun x => .ofLine x.2 x.1)).issues ≠ [] ↔
      ∃ s ∈ numbered.map Prod.fst, ∃ rejection, parse s = .error rejection := by
  have hissue : ∀ x : Text × Nat, (LineReport.ofLine x.2 x.1).issue? ≠ none ↔
      ∃ rejection, parse x.1 = .error rejection := by
    intro x
    cases hparse : parse x.1 <;> simp [LineReport.issue?, LineReport.ofLine, hparse]
  show (numbered.map fun x => LineReport.ofLine x.2 x.1).filterMap LineReport.issue? ≠ [] ↔ _
  rw [List.filterMap_map, ne_eq, List.filterMap_eq_nil_iff, not_forall]
  simp only [List.mem_map, exists_exists_and_eq_and, Classical.not_imp]
  exact exists_congr fun x => and_congr_right fun _ => hissue x

/-- Given lines have issues exactly when one of them is rejected. -/
theorem issues_ofLines_ne_nil_iff (lines : List Text) :
    (Answer.ofLines lines).issues ≠ [] ↔ ∃ s ∈ lines, ∃ rejection, parse s = .error rejection := by
  have h := issues_map_ofLine_ne_nil_iff (lines.zipIdx 1)
  rwa [List.zipIdx_map_fst] at h

/-- A text's reports are on the lines that are kept, in order. -/
theorem exists_reports_eq (text : Text) : ∃ numbered : List (Text × Nat),
    text.reports = (numbered.map fun x => .ofLine x.2 x.1) ∧
      numbered.map Prod.fst = text.keptLines := by
  refine ⟨_, rfl, ?_⟩
  let keeps : Text → Bool := fun s => s ≠ [] ∧ s.head? ≠ some '#'
  have hkeeps : ∀ s ∈ text.lines, (keeps ∘ trim) s = decide ¬ s.SaysNothing := by
    intro s _
    show decide _ = _
    rw [decide_eq_decide, not_saysNothing_iff]
  have hpieces : ((text.lines.zipIdx 1).map fun x => (trim x.1, x.2)).map Prod.fst =
      text.lines.map trim := by
    rw [List.map_map]
    show (text.lines.zipIdx 1).map (trim ∘ Prod.fst) = _
    rw [← List.map_map, List.zipIdx_map_fst]
  calc
    _ = (((text.lines.zipIdx 1).map fun x => (trim x.1, x.2)).map Prod.fst).filter keeps :=
      List.filter_map.symm
    _ = (text.lines.filter (keeps ∘ trim)).map trim := by rw [hpieces, List.filter_map]
    _ = text.keptLines := by rw [List.filter_congr hkeeps, Text.keptLines]

/-- The answer about an address has an issue exactly when it is none. -/
theorem issues_ofAddress_ne_nil_iff (text : Text) :
    (Answer.ofAddress text).issues ≠ [] ↔ Family.classify (trim text) = none := by
  rcases haddress : Address.ofText (trim text) with e | a
  · have hclass := (Address.ofText_eq_error_iff.mp haddress).1
    simp [Answer.ofAddress, haddress, hclass]
  · have hclass := a.classified
    rw [Address.text_of_ofText haddress] at hclass
    simp [Answer.ofAddress, haddress, hclass]

/-- An answer about a file has issues exactly when one of the lines that say something is
rejected. -/
theorem issues_ofBatch_ne_nil_iff (bytes : List UInt8) :
    (Answer.ofBatch bytes).issues ≠ [] ↔
      ∃ s ∈ (Utf8.decode bytes).keptLines, ∃ rejection, parse s = .error rejection := by
  obtain ⟨numbered, hreports, hlines⟩ := exists_reports_eq (Utf8.decode bytes)
  rw [ofBatch_eq, hreports, ← hlines]
  exact issues_map_ofLine_ne_nil_iff numbered

/-- An answer about a file warns exactly when no line says something. -/
theorem warnings_ofBatch_ne_nil_iff (bytes : List UInt8) :
    (Answer.ofBatch bytes).warnings ≠ [] ↔ (Utf8.decode bytes).keptLines = [] := by
  obtain ⟨numbered, hreports, hlines⟩ := exists_reports_eq (Utf8.decode bytes)
  rw [ofBatch_eq, hreports, ← hlines]
  cases numbered <;> simp

section Task

variable {w : World} {task : Task} {answer : Answer} {events : List Event}

/-- A task's answer has issues exactly when something that the task was given fails. -/
theorem Task.issues_ne_nil_iff (h : task.perform w = .ok (answer, events)) :
    answer.issues ≠ [] ↔ task.Fails w := by
  unfold Task.Fails
  rcases Task.perform_cases h with ⟨lines, htask, rfl, -⟩ | ⟨file, bytes, rfl, hsource, rfl, -⟩ |
    ⟨text, rfl, rfl, -⟩
  · have hlines : task.lines w = lines := by
      rcases htask with rfl | ⟨rfl, rfl⟩
      · rfl
      · rfl
    have haddress : ¬ ∃ text, task = .address text ∧ Family.classify (trim text) = none := by
      rintro ⟨text, hnone, -⟩
      rcases htask with rfl | ⟨rfl, -⟩
      · cases hnone
      · cases hnone
    rw [issues_ofLines_ne_nil_iff, hlines, or_iff_left haddress]
  · have hlines : (Task.batch file).lines w = (Utf8.decode bytes).keptLines := by
      simp only [Task.lines, hsource]
    rw [issues_ofBatch_ne_nil_iff, hlines]
    simp
  · rw [issues_ofAddress_ne_nil_iff]
    simp [Task.lines]

/-- A task's answer has a warning exactly when its file has no line to report on. -/
theorem Task.warnings_ne_nil_iff (h : task.perform w = .ok (answer, events)) :
    answer.warnings ≠ [] ↔ task.IsIdle w := by
  unfold Task.IsIdle
  rcases Task.perform_cases h with ⟨lines, htask, rfl, -⟩ | ⟨file, bytes, rfl, hsource, rfl, -⟩ |
    ⟨text, rfl, rfl, -⟩
  · rcases htask with rfl | ⟨rfl, rfl⟩
    · simp [Answer.ofLines, Answer.ofReports]
    · simp [Answer.ofLines, Answer.ofReports]
  · rw [warnings_ofBatch_ne_nil_iff]
    simp [Task.lines, hsource]
  · rcases haddress : Address.ofText (trim text) with e | a
    · simp [Answer.ofAddress, haddress]
    · simp [Answer.ofAddress, haddress]

end Task

/-! ## The run -/

section Run

variable {inv : Invocation} {w : World} {output : Text} {code : Nat}

/-- A run whose filter is found and whose task is done writes the envelope, and after that its
exit code depends on the warnings and issues. -/
theorem Invocation.run_of_perform {filter : Filter} {answer : Answer} {events : List Event}
    (hfilter : w.filter inv.logLevel = .ok filter)
    (hperform : inv.task.perform w = .ok (answer, events)) :
    (inv.run w).output = (Envelope.ofAnswer w.requestId answer).render inv.format inv.pretty ∧
      (inv.run w).exitCode =
        if inv.strict = true ∧ (answer.warnings ≠ [] ∨ answer.issues ≠ []) then 5
        else if answer.issues ≠ [] then 3 else 0 := by
  have hending : (Envelope.ofAnswer w.requestId answer).ending inv.strict =
      if inv.strict = true ∧ (answer.warnings ≠ [] ∨ answer.issues ≠ []) then
        .error (.strict answer.warnings.length answer.issues.length)
      else .ok (if answer.issues ≠ [] then 3 else 0) := by
    simp only [Envelope.ending, Envelope.ofAnswer, List.length_pos_iff]
  unfold Invocation.run
  simp only [hfilter, hperform, hending]
  split_ifs <;> exact ⟨rfl, rfl⟩

/-- The exit code of a run that writes its envelope, in terms of what the run was given. -/
theorem Invocation.Writes.run_eq (h : inv.Writes w output) :
    (inv.run w).output = output ∧
      (inv.strict = true ∧ (inv.task.Fails w ∨ inv.task.IsIdle w) → (inv.run w).exitCode = 5) ∧
      (inv.strict = false ∧ inv.task.Fails w → (inv.run w).exitCode = 3) ∧
      (¬ (inv.strict = true ∧ (inv.task.Fails w ∨ inv.task.IsIdle w)) →
        ¬ (inv.strict = false ∧ inv.task.Fails w) → (inv.run w).exitCode = 0) := by
  obtain ⟨hhas, -, answer, events, hperform, rfl⟩ := h
  obtain ⟨filter, hfilter⟩ : ∃ filter, w.filter inv.logLevel = .ok filter := by
    rcases w.filter_cases inv.logLevel with ⟨hlacks, -⟩ | ⟨-, hfilter⟩
    · exact absurd hlacks hhas
    · exact hfilter
  obtain ⟨houtput, hcode⟩ := Invocation.run_of_perform hfilter hperform
  have hissues := Task.issues_ne_nil_iff hperform
  have hwarnings := Task.warnings_ne_nil_iff hperform
  have hstrict : inv.strict = true ∧ (answer.warnings ≠ [] ∨ answer.issues ≠ []) ↔
      inv.strict = true ∧ (inv.task.Fails w ∨ inv.task.IsIdle w) := by
    rw [hissues, hwarnings, or_comm]
  refine ⟨houtput, ?_, ?_, ?_⟩
  · intro h
    rw [hcode, if_pos (hstrict.mpr h)]
  · rintro ⟨hloose, hfails⟩
    have hnot : ¬ (inv.strict = true ∧ (answer.warnings ≠ [] ∨ answer.issues ≠ [])) := by
      simp [hloose]
    rw [hcode, if_neg hnot, if_pos (hissues.mpr hfails)]
  · intro hnot hloose
    have hfails : ¬ answer.issues ≠ [] := by
      intro hne
      have hfails := hissues.mp hne
      rcases hs : inv.strict with _ | _
      · exact hloose ⟨hs, hfails⟩
      · exact hnot ⟨hs, .inl hfails⟩
    rw [hcode, if_neg (hstrict.not.mpr hnot), if_neg hfails]

/-- A run without a filter writes nothing. -/
theorem Invocation.run_of_lacksFilter (h : w.LacksFilter inv.logLevel) :
    (inv.run w).exitCode = 2 ∧ (inv.run w).output = [] := by
  rcases w.filter_cases inv.logLevel with ⟨-, reason, hfilter⟩ | ⟨hhas, -⟩
  · unfold Invocation.run
    simp [hfilter, Failure.exitCode]
  · exact absurd h hhas

/-- A run without its file writes nothing. -/
theorem Invocation.run_of_lacksFile (hhas : ¬ w.LacksFilter inv.logLevel)
    (h : inv.task.LacksFile w) : (inv.run w).exitCode = 10 ∧ (inv.run w).output = [] := by
  rcases w.filter_cases inv.logLevel with ⟨hlacks, -⟩ | ⟨-, filter, hfilter⟩
  · exact absurd hlacks hhas
  rcases inv.task.perform_total w with ⟨-, hperform⟩ | ⟨hfile, -⟩
  · unfold Invocation.run
    simp [hfilter, hperform, Failure.exitCode, Failure.missingFile]
  · exact absurd h hfile

/-- A run ends in one of the listed ways. -/
theorem ends_run (inv : Invocation) (w : World) :
    inv.Ends w (inv.run w).exitCode (inv.run w).output := by
  by_cases hfilter : w.LacksFilter inv.logLevel
  · obtain ⟨hcode, houtput⟩ := Invocation.run_of_lacksFilter hfilter
    rw [hcode, houtput]
    exact .noFilter hfilter
  rcases inv.task.perform_total w with ⟨hfile, -⟩ | ⟨hfile, answer, events, hperform⟩
  · obtain ⟨hcode, houtput⟩ := Invocation.run_of_lacksFile hfilter hfile
    rw [hcode, houtput]
    exact .noFile hfilter hfile
  · have hwrites : inv.Writes w _ := ⟨hfilter, hfile, answer, events, hperform, rfl⟩
    obtain ⟨houtput, hstrict, hfailed, hfine⟩ := hwrites.run_eq
    rw [← houtput] at hwrites
    by_cases h : inv.strict = true ∧ (inv.task.Fails w ∨ inv.task.IsIdle w)
    · rw [hstrict h]
      exact .strict hwrites h.1 h.2
    by_cases h' : inv.strict = false ∧ inv.task.Fails w
    · rw [hfailed h']
      exact .failed hwrites h'.1 h'.2
    · rw [hfine h h']
      exact .fine hwrites h h'

/-- The listed ways are exactly how a run ends. -/
theorem ends_iff :
    inv.Ends w code output ↔ code = (inv.run w).exitCode ∧ output = (inv.run w).output := by
  constructor
  · intro h
    cases h with
    | noFilter h =>
      obtain ⟨hcode, houtput⟩ := Invocation.run_of_lacksFilter h
      exact ⟨hcode.symm, houtput.symm⟩
    | noFile hfilter h =>
      obtain ⟨hcode, houtput⟩ := Invocation.run_of_lacksFile hfilter h
      exact ⟨hcode.symm, houtput.symm⟩
    | strict hwrites hstrict h =>
      obtain ⟨houtput, hcode, -, -⟩ := hwrites.run_eq
      exact ⟨(hcode ⟨hstrict, h⟩).symm, houtput.symm⟩
    | failed hwrites hstrict h =>
      obtain ⟨houtput, -, hcode, -⟩ := hwrites.run_eq
      exact ⟨(hcode ⟨hstrict, h⟩).symm, houtput.symm⟩
    | fine hwrites h h' =>
      obtain ⟨houtput, -, -, hcode⟩ := hwrites.run_eq
      exact ⟨(hcode h h').symm, houtput.symm⟩
  · rintro ⟨rfl, rfl⟩
    exact ends_run inv w

end Run

/-! ## Two runs -/

/-- The envelope under another request's name. -/
def Envelope.named (e : Envelope) (requestId : Text) : Envelope :=
  { e with heading := { e.heading with requestId := requestId } }

/-- The two texts are empty, or the same envelope in the same layout, each under the name of its own
run. -/
def SameButName (format : Format) (pretty : Bool) (w w' : World) (output output' : Text) : Prop :=
  (output = [] ∧ output' = []) ∨ ∃ e : Envelope,
    output = (e.named w.requestId).render format pretty ∧
      output' = (e.named w'.requestId).render format pretty

/-- The two runs do the same task from the same input and files, and a filter is found for both or
for neither. -/
structure SameTask (inv inv' : Invocation) (w w' : World) : Prop where
  task : inv'.task = inv.task
  input : w'.input = w.input
  file? : w'.file? = w.file?
  lacksFilter : w'.LacksFilter inv'.logLevel ↔ w.LacksFilter inv.logLevel

namespace SameTask

variable {inv inv' : Invocation} {w w' : World}

theorem source (h : SameTask inv inv' w w') (file : Option Text) :
    w'.source file = w.source file := by
  cases file with
  | none => simp [World.source, h.input]
  | some path => simp [World.source, h.file?]

theorem perform (h : SameTask inv inv' w w') : inv'.task.perform w' = inv.task.perform w := by
  rw [h.task]
  cases inv.task with
  | batch file => simp only [Task.perform, h.source]
  | _ => rfl

theorem lines (h : SameTask inv inv' w w') : inv'.task.lines w' = inv.task.lines w := by
  rw [h.task]
  cases inv.task with
  | batch file => simp only [Task.lines, h.source]
  | _ => rfl

theorem lacksFile (h : SameTask inv inv' w w') :
    inv'.task.LacksFile w' ↔ inv.task.LacksFile w := by
  unfold Task.LacksFile
  rw [h.task, h.file?]

theorem fails (h : SameTask inv inv' w w') : inv'.task.Fails w' ↔ inv.task.Fails w := by
  unfold Task.Fails
  rw [h.lines, h.task]

theorem isIdle (h : SameTask inv inv' w w') : inv'.task.IsIdle w' ↔ inv.task.IsIdle w := by
  unfold Task.IsIdle
  rw [h.lines, h.task]

/-- Where one run writes, so does the other, from the same answer. -/
theorem exists_answer (h : SameTask inv inv' w w') {output : Text} (hwrites : inv.Writes w output) :
    ∃ answer,
      output = (Envelope.ofAnswer w.requestId answer).render inv.format inv.pretty ∧
      inv'.Writes w' ((Envelope.ofAnswer w'.requestId answer).render inv'.format inv'.pretty) := by
  obtain ⟨hfilter, hfile, answer, events, hperform, rfl⟩ := hwrites
  refine ⟨answer, rfl, ?_, ?_, answer, events, ?_, rfl⟩
  · rwa [h.lacksFilter]
  · rwa [h.lacksFile]
  · rw [h.perform, hperform]

/-- Runs that do the same task and are both strict or both not end the same way. -/
theorem ends (h : SameTask inv inv' w w') (hstrict : inv'.strict = inv.strict) {code : Nat}
    {output : Text} (hends : inv.Ends w code output) : ∃ output', inv'.Ends w' code output' := by
  cases hends with
  | noFilter hlacks => exact ⟨_, .noFilter (h.lacksFilter.mpr hlacks)⟩
  | noFile hhas hlacks =>
    exact ⟨_, .noFile (h.lacksFilter.not.mpr hhas) (h.lacksFile.mpr hlacks)⟩
  | strict hwrites hs hcause =>
    obtain ⟨answer, -, hwrites'⟩ := h.exists_answer hwrites
    exact ⟨_, .strict hwrites' (hstrict.trans hs) (by rwa [h.fails, h.isIdle])⟩
  | failed hwrites hs hcause =>
    obtain ⟨answer, -, hwrites'⟩ := h.exists_answer hwrites
    exact ⟨_, .failed hwrites' (hstrict.trans hs) (h.fails.mpr hcause)⟩
  | fine hwrites hs hs' =>
    obtain ⟨answer, -, hwrites'⟩ := h.exists_answer hwrites
    rw [← hstrict, ← h.fails, ← h.isIdle] at hs
    rw [← hstrict, ← h.fails] at hs'
    exact ⟨_, .fine hwrites' hs hs'⟩

theorem exitCode_eq (h : SameTask inv inv' w w') (hstrict : inv'.strict = inv.strict) :
    (inv'.run w').exitCode = (inv.run w).exitCode := by
  obtain ⟨output', hends⟩ := h.ends hstrict (ends_run inv w)
  exact (ends_iff.mp hends).1.symm

/-- Runs that do the same task write the same in the same layout. -/
theorem sameButName (h : SameTask inv inv' w w') (hformat : inv'.format = inv.format)
    (hpretty : inv'.pretty = inv.pretty) {code : Nat} {output : Text}
    (hends : inv.Ends w code output) :
    SameButName inv.format inv.pretty w w' output (inv'.run w').output := by
  have hwritten : inv.Writes w output →
      SameButName inv.format inv.pretty w w' output (inv'.run w').output := by
    intro hwrites
    obtain ⟨answer, rfl, hwrites'⟩ := h.exists_answer hwrites
    refine .inr ⟨Envelope.ofAnswer w.requestId answer, rfl, ?_⟩
    rw [hwrites'.run_eq.1, hformat, hpretty]
    rfl
  cases hends with
  | noFilter hlacks =>
    exact .inl ⟨rfl, (Invocation.run_of_lacksFilter (h.lacksFilter.mpr hlacks)).2⟩
  | noFile hhas hlacks =>
    have hhas' := h.lacksFilter.not.mpr hhas
    exact .inl ⟨rfl, (Invocation.run_of_lacksFile hhas' (h.lacksFile.mpr hlacks)).2⟩
  | strict hwrites => exact hwritten hwrites
  | failed hwrites => exact hwritten hwrites
  | fine hwrites => exact hwritten hwrites

end SameTask

/-! ## A list of arguments -/

theorem runArguments_eq_ok_iff {args : List Text} {inv : Invocation} {w : World} {o : Outcome}
    (h : Invocation.ofArguments args = .ok inv) : runArguments args w = .ok o ↔ o = inv.run w := by
  rw [runArguments, h]
  exact ⟨fun ho => (Except.ok.inj ho).symm, fun ho => ho ▸ rfl⟩

/-- **How a run ends.** Arguments that ask for something always give a run, and its exit code and
output are those of the one ending in the list that applies, whatever texts are read as filters. A
second run that differs

* in the layout of its output only has the same exit code;
* in its strictness only has the same output, and
* in its log filters only, where a filter is found for both, has the same output,

each run's own name in its output aside. -/
theorem runArguments_ends (args : List Text) (inv : Invocation)
    (h : Invocation.ofArguments args = .ok inv) (w : World) :
    ∃ o, runArguments args w = .ok o ∧
      (∀ code output, inv.Ends w code output ↔ code = o.exitCode ∧ output = o.output) ∧
      ∀ args' inv' w' o', Invocation.ofArguments args' = .ok inv' → runArguments args' w' = .ok o' →
        (inv' = { inv with format := inv'.format, pretty := inv'.pretty } →
          w' = { w with requestId := w'.requestId } → o'.exitCode = o.exitCode) ∧
        (inv' = { inv with strict := inv'.strict } → w' = { w with requestId := w'.requestId } →
          SameButName inv.format inv.pretty w w' o.output o'.output) ∧
        (inv' = { inv with logLevel := inv'.logLevel } →
          w' = { w with logFilter := w'.logFilter, requestId := w'.requestId } →
          ¬ w.LacksFilter inv.logLevel → ¬ w'.LacksFilter inv'.logLevel →
          SameButName inv.format inv.pretty w w' o.output o'.output) := by
  refine ⟨inv.run w, (runArguments_eq_ok_iff h).mpr rfl, fun code output => ends_iff, ?_⟩
  intro args' inv' w' o' h' ho'
  obtain rfl := (runArguments_eq_ok_iff h').mp ho'
  refine ⟨?_, ?_, ?_⟩
  · intro hinv hw
    have hsame : SameTask inv inv' w w' :=
      ⟨by rw [hinv], by rw [hw], by rw [hw], by rw [hinv, hw]; rfl⟩
    exact hsame.exitCode_eq (by rw [hinv])
  · intro hinv hw
    have hsame : SameTask inv inv' w w' :=
      ⟨by rw [hinv], by rw [hw], by rw [hw], by rw [hinv, hw]; rfl⟩
    exact hsame.sameButName (by rw [hinv]) (by rw [hinv]) (ends_run inv w)
  · intro hinv hw hfilter hfilter'
    have hsame : SameTask inv inv' w w' :=
      ⟨by rw [hinv], by rw [hw], by rw [hw], iff_of_false hfilter' hfilter⟩
    exact hsame.sameButName (by rw [hinv]) (by rw [hinv]) (ends_run inv w)

/-- A strict run on an empty standard input ends with five. -/
theorem runArguments_ends_idle :
    let w : World := ⟨[], fun _ => none, none, [], Filter.read⟩
    Invocation.ofArguments ["--strict".toList, "batch".toList] =
        .ok ⟨.batch none, .json, false, true, "warn".toList⟩ ∧
      ∃ o, runArguments ["--strict".toList, "batch".toList] w = .ok o ∧ o.exitCode = 5 := by
  intro w
  have h : Invocation.ofArguments ["--strict".toList, "batch".toList] =
      .ok ⟨.batch none, .json, false, true, "warn".toList⟩ := rfl
  refine ⟨h, ?_⟩
  obtain ⟨o, ho, hends, -⟩ := runArguments_ends _ _ h w
  have hfilter : w.IsFilter "warn".toList := ⟨_, rfl⟩
  have hfile : ¬ Task.LacksFile w (.batch none) := by
    rintro ⟨path, hpath, -⟩
    cases hpath
  have hidle : Task.IsIdle w (.batch none) := ⟨⟨none, rfl⟩, rfl⟩
  have hwrites : Invocation.Writes ⟨.batch none, .json, false, true, "warn".toList⟩ w _ :=
    ⟨fun hlacks => hlacks.2 hfilter, hfile, _, _, rfl, rfl⟩
  exact ⟨o, ho, ((hends 5 _).mp (.strict hwrites rfl (.inr hidle))).1.symm⟩

-- A bracket that nothing closes is no filter, and neither are braces around nothing.
example :
    let w : World := ⟨[], fun _ => none, some "[\x7b\x7d]".toList, [], Filter.read⟩
    (runArguments ["--log-level".toList, "[".toList, "examples".toList] w).map
        (fun o => (o.exitCode, o.output)) = .ok (2, []) :=
  rfl

end TradeLine
