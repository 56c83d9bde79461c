import Mathlib.Data.List.Nodup
import TradeLine.Proofs.ArgumentSteps

/-!
# Options stand anywhere

The options for the output and the log are known before the name of a task and after it, and after
it they may stand between what the task works on. `Placed` puts options and items in a row: options
in any order and anywhere, items in their own order. What is read does not depend on the place.

* `Reads.placed` — reading options and items in a row adds them all, at either level;
* `Given.both_foldl_add` — options at the task's level count as if they had followed the program's
  own;
* `Given.foldl_add_perm` — the order of options is of no account;
* `Task.task_items` — the items of a task make up the task.

**Main statement** (`ofArguments_placed`).
-/

namespace TradeLine

open Text Given

/-! ## Options and items in a row -/

/-- Which of the options are chosen, and with which values. -/
structure Choices where
  format : Option Format
  pretty : Bool
  strict : Bool
  logLevel : Option Text
deriving DecidableEq, Repr

/-- The chosen options, each once. -/
def Choices.options (c : Choices) : List GlobalOption :=
  (c.format.map .format).toList ++ (if c.pretty then [.pretty] else []) ++
    (if c.strict then [.strict] else []) ++ (c.logLevel.map .logLevel).toList

namespace Task

def name : Task → TaskName
  | .parse _ => .parse
  | .batch _ => .batch
  | .examples => .examples
  | .address _ => .address

/-- The items of a task. -/
def items : Task → List Item
  | .parse lines => lines.map .word
  | .batch file => (file.map .file).toList
  | .examples => []
  | .address text => [.word text]

end Task

/-- The arguments are these options and these items, each kind in its own order, in some mixture. -/
inductive Placed : List GlobalOption → List Item → List Text → Prop
  | nothing : Placed [] [] []
  | option {o : GlobalOption} {os : List GlobalOption} {is : List Item} {front args : List Text}
      (h : o.Spells front) (rest : Placed os is args) : Placed (o :: os) is (front ++ args)
  | item {i : Item} {os : List GlobalOption} {is : List Item} {front args : List Text}
      (h : i.Spells front) (rest : Placed os is args) : Placed os (i :: is) (front ++ args)

/-! ## What can still be added -/

namespace Given

/-- There is a place for each of the items in turn. -/
def HasPlaces (g : Given) (place : Place) : List Item → Prop
  | [] => True
  | i :: is => g.HasPlace place i ∧ (g.addItem i).HasPlaces place is

variable {g : Given} {place : Place} {a b : GlobalOption} {i : Item} {os : List GlobalOption}
  {is : List Item}

theorem addItem_add (g : Given) (i : Item) (a : GlobalOption) :
    (g.addItem i).add a = (g.add a).addItem i := by
  cases a <;> cases i <;> rfl

theorem foldl_add_addItem (os : List GlobalOption) (g : Given) (i : Item) :
    os.foldl add (g.addItem i) = (os.foldl add g).addItem i := by
  induction os generalizing g with
  | nil => rfl
  | cons a os ih => rw [List.foldl_cons, List.foldl_cons, addItem_add, ih]

theorem Lacks.addItem (h : g.Lacks a) (i : Item) : (g.addItem i).Lacks a := by
  cases a <;> cases i <;> exact h

theorem HasPlace.add (h : g.HasPlace place i) (a : GlobalOption) : (g.add a).HasPlace place i := by
  cases a <;> exact h

theorem HasPlaces.add (h : g.HasPlaces place is) (a : GlobalOption) :
    (g.add a).HasPlaces place is := by
  induction is generalizing g with
  | nil => trivial
  | cons i is ih =>
    refine ⟨h.1.add a, ?_⟩
    rw [← addItem_add]
    exact ih h.2

/-- Each of the options and items can still be added. -/
structure Fits (g : Given) (place : Place) (os : List GlobalOption) (is : List Item) : Prop where
  lacks : ∀ a ∈ os, g.Lacks a
  apart : (os.map GlobalOption.known).Nodup
  places : g.HasPlaces place is

theorem Fits.option (h : g.Fits place (a :: os) is) : (g.add a).Fits place os is where
  lacks b hb := by
    have hne : a.known ≠ b.known := by
      have hnot := (List.nodup_cons.mp h.apart).1
      exact fun heq => hnot (heq ▸ List.mem_map_of_mem hb)
    exact (h.lacks b (List.mem_cons_of_mem a hb)).add hne
  apart := (List.nodup_cons.mp h.apart).2
  places := h.places.add a

theorem Fits.item (h : g.Fits place os (i :: is)) : (g.addItem i).Fits place os is where
  lacks a ha := (h.lacks a ha).addItem i
  apart := h.apart
  places := h.places.2

end Given

/-! ## Reading a row -/

/-- Reading options and items in a row adds them all. -/
theorem Reads.placed {β : Type} {place : Place} {scan : Given → List Text → Except UsageError β}
    {g o : Given} {args : List Text} (h : Reads place scan) (hitems : TakesItems place scan)
    {os : List GlobalOption} {is : List Item} (hplaced : Placed os is args) (rest : List Text)
    (hg : g.Settles o) (hfits : o.Fits place os is) :
    ReadsAs scan g (args ++ rest) (is.foldl addItem (os.foldl add o)) rest := by
  induction hplaced generalizing g o with
  | nothing => exact ⟨g, hg, rfl⟩
  | @option a os is front args hspells _ ih =>
    obtain ⟨g', hg', hscan⟩ := h.option hg (hfits.lacks a List.mem_cons_self) hspells (args ++ rest)
    obtain ⟨g'', hg'', hrest⟩ := ih hg' hfits.option
    exact ⟨g'', hg'', by rw [List.append_assoc, hscan, hrest]⟩
  | @item i os is front args hspells _ ih =>
    obtain ⟨g', hg', hscan⟩ := hitems (args ++ rest) hg hfits.places.1 hspells
    obtain ⟨g'', hg'', hrest⟩ := ih hg' hfits.item
    -- options behind the item touch nothing of it, so they might as well have come first
    rw [foldl_add_addItem] at hg''
    exact ⟨g'', hg'', by rw [List.append_assoc, hscan, hrest]⟩

/-! ## Both levels together -/

namespace Given

/-- The options of a level with those of a second one over it, which win. -/
def both (program inTask : Given) : Given :=
  { program with
    format := inTask.format <|> program.format
    pretty := inTask.pretty || program.pretty
    strict := inTask.strict || program.strict
    logLevel := inTask.logLevel <|> program.logLevel }

variable {p q : Given} {os os' : List GlobalOption}

theorem both_add (p q : Given) (a : GlobalOption) : p.both (q.add a) = (p.both q).add a := by
  cases a <;> rfl

/-- Options at the task's level count as if they had followed the program's own. -/
theorem both_foldl_add (p q : Given) (os : List GlobalOption) :
    p.both (os.foldl add q) = os.foldl add (p.both q) := by
  induction os generalizing q with
  | nil => rfl
  | cons a os ih => rw [List.foldl_cons, List.foldl_cons, ih, both_add]

theorem both_foldl_addItem (p q : Given) (is : List Item) :
    p.both (is.foldl addItem q) = p.both q := by
  induction is generalizing q with
  | nil => rfl
  | cons i is ih =>
    rw [List.foldl_cons, ih]
    cases i <;> rfl

/-- The order of options that differ is of no account. -/
theorem foldl_add_perm (h : os.Perm os') (hapart : (os.map GlobalOption.known).Nodup) (g : Given) :
    os.foldl add g = os'.foldl add g := by
  apply h.foldl_eq'
  intro a ha b hb g
  by_cases hknown : a.known = b.known
  · rw [List.inj_on_of_nodup_map hapart ha hb hknown]
  · exact g.add_add_of_ne hknown

theorem foldl_add_frame (os : List GlobalOption) (g : Given) :
    (os.foldl add g).words = g.words ∧ (os.foldl add g).file = g.file := by
  induction os generalizing g with
  | nil => exact ⟨rfl, rfl⟩
  | cons a os ih =>
    obtain ⟨hwords, hfile⟩ := ih (g.add a)
    exact ⟨hwords.trans (add_words g a), hfile.trans (add_file g a)⟩

theorem foldl_addItem_words (words : List Text) (g : Given) :
    ((words.map Item.word).foldl addItem g).words = g.words ++ words := by
  induction words generalizing g with
  | nil => exact (List.append_nil _).symm
  | cons s words ih =>
    rw [List.map_cons, List.foldl_cons, ih]
    simp [addItem]

end Given

theorem Choices.nodup_known (c : Choices) : (c.options.map GlobalOption.known).Nodup := by
  obtain ⟨format, pretty, strict, logLevel⟩ := c
  cases format <;> cases pretty <;> cases strict <;> cases logLevel <;>
    simp [Choices.options, GlobalOption.known]

/-- The options chosen and nothing else. -/
theorem Choices.foldl_options (c : Choices) :
    c.options.foldl add .nothing = ⟨c.format, c.logLevel, none, c.pretty, c.strict, [], none⟩ := by
  obtain ⟨format, pretty, strict, logLevel⟩ := c
  cases format <;> cases pretty <;> cases strict <;> cases logLevel <;> rfl

/-- Wherever the options stand, both levels together have those that were chosen. -/
theorem Choices.both_eq {c : Choices} {before after : List GlobalOption}
    (hchosen : (before ++ after).Perm c.options) (is : List Item) :
    (before.foldl add .nothing).both (is.foldl addItem (after.foldl add .nothing)) =
      ⟨c.format, c.logLevel, none, c.pretty, c.strict, [], none⟩ := by
  have hapart : ((before ++ after).map GlobalOption.known).Nodup :=
    (hchosen.map _).nodup_iff.mpr c.nodup_known
  have hboth : ∀ p : Given, p.both .nothing = p := fun p => rfl
  calc
    _ = after.foldl add (before.foldl add .nothing) := by
      rw [both_foldl_addItem, both_foldl_add, hboth]
    _ = (before ++ after).foldl add .nothing := List.foldl_append.symm
    _ = c.options.foldl add .nothing := foldl_add_perm hchosen hapart .nothing
    _ = _ := c.foldl_options

theorem Invocation.ofLevels_eq (p q : Given) (task : Task) :
    Invocation.ofLevels p q task = ⟨task, (p.both q).format.getD .json, (p.both q).pretty,
      (p.both q).strict, (p.both q).logLevel.getD "warn".toList⟩ :=
  rfl

namespace Task

variable {g : Given} {task : Task}

theorem hasPlaces_words (g : Given) (words : List Text) :
    g.HasPlaces (.task .parse) (words.map .word) := by
  induction words generalizing g with
  | nil => trivial
  | cons s words ih => exact ⟨rfl, ih _⟩

/-- A task has a place for each of its items. -/
theorem hasPlaces_items (task : Task) : Given.nothing.HasPlaces (.task task.name) task.items := by
  cases task with
  | parse lines => exact hasPlaces_words _ lines
  | examples => trivial
  | address text => exact ⟨rfl, trivial⟩
  | batch file =>
    cases file with
    | none => trivial
    | some path => exact ⟨⟨rfl, rfl⟩, trivial⟩

/-- The task is the one that its items are for. -/
theorem task_items (hparse : task ≠ .parse []) (hwords : g.words = []) (hfile : g.file = none) :
    task.name.task (task.items.foldl addItem g) = .ok task := by
  cases task with
  | parse lines =>
    have hlines := foldl_addItem_words lines g
    rw [hwords, List.nil_append] at hlines
    obtain ⟨s, lines, rfl⟩ := List.exists_cons_of_ne_nil fun h => hparse (h ▸ rfl)
    simp only [name, items, TaskName.task, hlines]
  | examples => rfl
  | address text =>
    simp only [name, items, TaskName.task, List.foldl_cons, List.foldl_nil, addItem, hwords,
      List.nil_append]
  | batch file =>
    cases file with
    | none =>
      show Except.ok (Task.batch g.file) = _
      rw [hfile]
    | some path => rfl

end Task

theorem scanProgram_task {g p q : Given} {task : Task} {name : TaskName} {args : List Text}
    (hg : g.Settles p) (hscan : scanTask name .nothing args = .ok q)
    (htask : name.task q = .ok task) :
    scanProgram g (name.text :: args) = .ok (.ofLevels p q task) := by
  simp only [scanProgram, Argument.ofText_plain name.isPlain_text, hg.waiting, name.ofText?_text,
    hscan]
  show (do
    let task ← name.task q
    return Invocation.ofLevels (← g.settle) q task) = _
  rw [htask, hg.settle]
  rfl

/-- **Options stand anywhere.** Take a task with its items and a choice of options, and write the
name of the task, some of the options before it in any order, and the others behind it in any order
together with the items in their own, mixed in any way. However each is spelled, the arguments are
accepted, and they ask for the task, for what was chosen, and for the default of what was not. -/
theorem ofArguments_placed {task : Task} {c : Choices} {before after : List GlobalOption}
    {front back : List Text} (hparse : task ≠ .parse [])
    (hchosen : (before ++ after).Perm c.options)
    (hfront : Placed before [] front) (hback : Placed after task.items back) :
    Invocation.ofArguments (front ++ task.name.text :: back) =
      .ok ⟨task, c.format.getD .json, c.pretty, c.strict, c.logLevel.getD "warn".toList⟩ := by
  have hapart := (hchosen.map GlobalOption.known).nodup_iff.mpr c.nodup_known
  rw [List.map_append] at hapart
  have hlacks : ∀ a, Given.nothing.Lacks a := by
    intro a
    cases a <;> rfl
  have hnothing : Given.nothing.Settles .nothing := settles_self rfl
  obtain ⟨g, hg, hprogram⟩ := reads_scanProgram.placed takesItems_scanProgram hfront
    (task.name.text :: back) hnothing ⟨fun a _ => hlacks a, hapart.of_append_left, trivial⟩
  obtain ⟨g', hg', hinTask⟩ := (reads_scanTask task.name).placed (takesItems_scanTask task.name)
    hback [] hnothing ⟨fun a _ => hlacks a, hapart.of_append_right, task.hasPlaces_items⟩
  rw [List.append_nil] at hinTask
  have htask := Task.task_items hparse (foldl_add_frame after .nothing).1
    (foldl_add_frame after .nothing).2
  rw [Invocation.ofArguments, hprogram,
    scanProgram_task hg (hinTask.trans hg'.settle) htask, List.foldl_nil, Invocation.ofLevels_eq,
    Choices.both_eq hchosen]

/-- Two options before the name of the task, one between its lines and one behind them. -/
theorem ofArguments_placed_mixed :
    Invocation.ofArguments ["--log-level=debug".toList, "--format".toList, "ndjson".toList,
        "parse".toList, "a".toList, "--strict".toList, "b".toList, "--pretty".toList] =
      .ok ⟨.parse ["a".toList, "b".toList], .ndjson, true, true, "debug".toList⟩ := by
  have hdebug : Text.IsPlain "debug".toList := by decide
  have hndjson : Text.IsPlain "ndjson".toList := by decide
  have ha : Text.IsPlain "a".toList := by decide
  have hb : Text.IsPlain "b".toList := by decide
  have hfront : Placed [.logLevel "debug".toList, .format .ndjson] []
      ["--log-level=debug".toList, "--format".toList, "ndjson".toList] :=
    .option (.joined rfl hdebug) (.option (.apart rfl hndjson) .nothing)
  have hback : Placed [.strict, .pretty] (Task.items (.parse ["a".toList, "b".toList]))
      ["a".toList, "--strict".toList, "b".toList, "--pretty".toList] :=
    .item (.word ha) (.option (.alone rfl) (.item (.word hb) (.option (.alone rfl) .nothing)))
  let c : Choices := ⟨some .ndjson, true, true, some "debug".toList⟩
  have hchosen : List.Perm ([.logLevel "debug".toList, .format .ndjson] ++ [.strict, .pretty])
      c.options := by
    decide
  have hparse : Task.parse ["a".toList, "b".toList] ≠ .parse [] := by decide
  exact ofArguments_placed hparse hchosen hfront hback

end TradeLine
