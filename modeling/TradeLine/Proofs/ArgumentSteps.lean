import TradeLine.Arguments.Scan
import TradeLine.Proofs.Runs

/-!
# Reading one argument

Arguments are read one after the other, and a value that follows its option is held back until it
is settled. What a level has been given is therefore told by what it **comes to** (`Given.Settles`),
and in these terms it makes no difference how an option is written: reading it adds it, and nothing
else.

* `GlobalOption.Spells`, `Item.Spells` — the ways to write an option, or what a task works on;
* `Argument.ofText_plain`, `Argument.ofText_long`, `Argument.ofText_joined` — how they look;
* `Given.take_add` — taking an option that has not been given adds it;
* `Reads.following` — a value that follows counts as one that is joined.

**Main statements** (`Reads.option`, `takesItems_scanTask`).
-/

namespace TradeLine

open Text

/-! ## What is asked for, and how it is written -/

/-- A text that can be taken for neither an option nor nothing. -/
def Text.IsPlain (s : Text) : Prop :=
  s ≠ [] ∧ s.head? ≠ some '-'

instance (s : Text) : Decidable s.IsPlain :=
  inferInstanceAs (Decidable (s ≠ [] ∧ s.head? ≠ some '-'))

/-- The name of a format. -/
def Format.name : Format → Text
  | .json => "json".toList
  | .ndjson => "ndjson".toList
  | .table => "table".toList

/-- An option that is known in every place, with its value. -/
inductive GlobalOption
  | format (f : Format)
  | pretty
  | strict
  | logLevel (level : Text)
deriving DecidableEq, Repr

namespace GlobalOption

/-- The long name of an option. -/
def key : GlobalOption → Text
  | .format _ => "format".toList
  | .pretty => "pretty".toList
  | .strict => "strict".toList
  | .logLevel _ => "log-level".toList

/-- The option without its value. -/
def known : GlobalOption → Known
  | .format _ => .setting .format
  | .pretty => .switch .pretty
  | .strict => .switch .strict
  | .logLevel _ => .setting .logLevel

/-- The value as it is written, if the option takes one. -/
def value? : GlobalOption → Option Text
  | .format f => some f.name
  | .logLevel level => some level
  | .pretty | .strict => none

/-- The ways to write an option: alone if it takes no value, and else with the value behind it or
joined to it. -/
inductive Spells : GlobalOption → List Text → Prop
  | alone {o : GlobalOption} (h : o.value? = none) : Spells o ["--".toList ++ o.key]
  | apart {o : GlobalOption} {v : Text} (h : o.value? = some v) (hv : v.IsPlain) :
      Spells o ["--".toList ++ o.key, v]
  | joined {o : GlobalOption} {v : Text} (h : o.value? = some v) (hv : v.IsPlain) :
      Spells o ["--".toList ++ o.key ++ '=' :: v]

end GlobalOption

/-- What a task is given to work on, piece by piece. -/
inductive Item
  | word (text : Text)
  | file (path : Text)
deriving DecidableEq, Repr

/-- The ways to write an item. A path right behind the letter cannot begin with an equals sign,
which would be taken for the one that joins. -/
inductive Item.Spells : Item → List Text → Prop
  | word {s : Text} (h : s.IsPlain) : Spells (.word s) [s]
  | short {path : Text} (h : path.IsPlain) : Spells (.file path) ["-f".toList, path]
  | shortJoined {path : Text} (h : path.IsPlain) : Spells (.file path) ["-f=".toList ++ path]
  | attached {path : Text} (h : path.IsPlain) (hpath : path.head? ≠ some '=') :
      Spells (.file path) ["-f".toList ++ path]
  | long {path : Text} (h : path.IsPlain) : Spells (.file path) ["--file".toList, path]
  | longJoined {path : Text} (h : path.IsPlain) : Spells (.file path) ["--file=".toList ++ path]

/-- The name of a task as it is written. -/
def TaskName.text : TaskName → Text
  | .parse => "parse".toList
  | .batch => "batch".toList
  | .examples => "examples".toList
  | .address => "address".toList

/-! ## One argument -/

namespace Argument

variable {s key : Text}

theorem ofText_plain (h : s.IsPlain) : ofText s = .word s := by
  obtain ⟨hne, hhead⟩ := h
  cases s with
  | nil => exact absurd rfl hne
  | cons c s =>
    have hc : c ≠ '-' := fun hc => hhead (congrArg some hc)
    unfold ofText
    split <;> simp_all

theorem ofText_dashes (hne : s ≠ []) : ofText ("--".toList ++ s) =
    match s.dropWhile (· != '=') with
    | [] => .long s none
    | _ :: value => .long (s.takeWhile (· != '=')) (some value) := by
  cases s with
  | nil => exact absurd rfl hne
  | cons c s => rfl

theorem ofText_long (hne : key ≠ []) (hkey : '=' ∉ key) :
    ofText ("--".toList ++ key) = .long key none := by
  have hrun : Run (· != '=') key := by
    intro c hc
    simpa using ne_of_mem_of_not_mem hc hkey
  have hdrop := dropWhile_run hrun stops_nil
  rw [List.append_nil] at hdrop
  rw [ofText_dashes hne, hdrop]

theorem ofText_joined (hkey : '=' ∉ key) (v : Text) :
    ofText ("--".toList ++ key ++ '=' :: v) = .long key (some v) := by
  have hrun : Run (· != '=') key := by
    intro c hc
    simpa using ne_of_mem_of_not_mem hc hkey
  have hstop : Stops (· != '=') ('=' :: v) := stops_cons.mpr rfl
  rw [List.append_assoc, ofText_dashes (by simp), dropWhile_run hrun hstop,
    takeWhile_run hrun hstop]

end Argument

theorem Format.ofText?_name (f : Format) : Format.ofText? f.name = some f := by
  cases f <;> rfl

theorem TaskName.ofText?_text (name : TaskName) : TaskName.ofText? name.text = some name := by
  cases name <;> rfl

theorem TaskName.isPlain_text (name : TaskName) : name.text.IsPlain := by
  cases name <;> decide

theorem GlobalOption.long?_key (o : GlobalOption) (place : Place) :
    place.long? o.key = some o.known := by
  cases o <;> rfl

theorem GlobalOption.key_ne_nil (o : GlobalOption) : o.key ≠ [] := by
  cases o <;> dsimp only [key] <;> decide

theorem GlobalOption.equals_not_mem_key (o : GlobalOption) : '=' ∉ o.key := by
  cases o <;> dsimp only [key] <;> decide

/-! ## What a level comes to -/

namespace Given

/-- The level is not waiting for a value, and comes to this once what is pending is settled. -/
structure Settles (g o : Given) : Prop where
  waiting : g.waiting? = none
  settle : g.settle = .ok o

variable {g o o' : Given} {s : Setting} {v : Text}

theorem assign_frame (h : o.assign s v = .ok o') :
    o'.pending = o.pending ∧ o'.words = o.words := by
  cases s with
  | format =>
    simp only [assign] at h
    split_ifs at h
    split at h <;> cases h
    exact ⟨rfl, rfl⟩
  | logLevel =>
    simp only [assign] at h
    split_ifs at h
    cases h
    exact ⟨rfl, rfl⟩
  | file =>
    simp only [assign] at h
    split_ifs at h
    cases h
    exact ⟨rfl, rfl⟩

theorem settle_frame (h : g.settle = .ok o) : o.pending = none ∧ o.words = g.words := by
  unfold settle at h
  split at h
  · cases h
    exact ⟨‹_›, rfl⟩
  · cases h
  · exact assign_frame h

theorem settles_self (h : o.pending = none) : o.Settles o :=
  ⟨by simp only [waiting?, h], by simp only [settle, h]⟩

theorem Settles.pending (h : g.Settles o) : o.pending = none :=
  (settle_frame h.settle).1

theorem Settles.self (h : g.Settles o) : o.Settles o :=
  settles_self h.pending

theorem Settles.take_eq (h : g.Settles o) (k : Known) (value : Option Text) :
    g.take k value = o.take k value := by
  cases k <;> cases value <;> simp only [take, h.settle, h.self.settle]

theorem take_setting_none (s : Setting) (h : o.pending = none) :
    o.take (.setting s) none = .ok { o with pending := some (s, none) } := by
  rw [take, (settles_self h).settle]
  rfl

/-- A value that followed its setting is settled as if it had been joined to it. -/
theorem settles_following (h : o.pending = none) (htake : o.take (.setting s) (some v) = .ok o') :
    Settles { o with pending := some (s, some v) } o' := by
  refine ⟨rfl, ?_⟩
  rw [take, (settles_self h).settle] at htake
  show assign { o with pending := none } s v = _
  rw [← h]
  exact htake

/-! ### Adding options -/

/-- The level with an option added. -/
def add (g : Given) : GlobalOption → Given
  | .format f => { g with format := some f }
  | .pretty => { g with pretty := true }
  | .strict => { g with strict := true }
  | .logLevel level => { g with logLevel := some level }

/-- The option has not been given. -/
def Lacks (g : Given) : GlobalOption → Prop
  | .format _ => g.format = none
  | .pretty => g.pretty = false
  | .strict => g.strict = false
  | .logLevel _ => g.logLevel = none

variable {a b : GlobalOption}

theorem add_pending (g : Given) (a : GlobalOption) : (g.add a).pending = g.pending := by
  cases a <;> rfl

theorem add_words (g : Given) (a : GlobalOption) : (g.add a).words = g.words := by
  cases a <;> rfl

theorem add_file (g : Given) (a : GlobalOption) : (g.add a).file = g.file := by
  cases a <;> rfl

theorem Lacks.add (h : g.Lacks b) (hne : a.known ≠ b.known) : (g.add a).Lacks b := by
  cases a <;> cases b <;> first | exact h | exact absurd rfl hne

theorem add_add_of_ne (g : Given) (h : a.known ≠ b.known) :
    (g.add a).add b = (g.add b).add a := by
  cases a <;> cases b <;> first | rfl | exact absurd rfl h

/-- Taking an option that has not been given adds it. -/
theorem take_add (h : o.pending = none) (hlacks : o.Lacks a) :
    o.take a.known a.value? = .ok (o.add a) := by
  have hself := (settles_self h).settle
  cases a with
  | format f =>
    have hnone : o.format = none := hlacks
    simp only [GlobalOption.known, GlobalOption.value?, take, hself]
    show o.assign .format f.name = _
    simp only [assign, hnone, f.ofText?_name]
    rfl
  | logLevel level =>
    have hnone : o.logLevel = none := hlacks
    simp only [GlobalOption.known, GlobalOption.value?, take, hself]
    show o.assign .logLevel level = _
    simp only [assign, hnone]
    rfl
  | pretty =>
    have hoff : o.pretty = false := hlacks
    simp only [GlobalOption.known, GlobalOption.value?, take, hself]
    show o.turnOn .pretty = _
    simp only [turnOn, hoff]
    rfl
  | strict =>
    have hoff : o.strict = false := hlacks
    simp only [GlobalOption.known, GlobalOption.value?, take, hself]
    show o.turnOn .strict = _
    simp only [turnOn, hoff]
    rfl

/-! ### Adding items -/

/-- The level with an item added. -/
def addItem (g : Given) : Item → Given
  | .word s => { g with words := g.words ++ [s] }
  | .file path => { g with file := some path }

/-- There is a place for the item; there is none before the name of a task. -/
def HasPlace (g : Given) : Place → Item → Prop
  | .program, _ => False
  | .task name, .word _ => g.hasRoom name = true
  | .task name, .file _ => name = .batch ∧ g.file = none

end Given

/-! ## Reading on -/

open Given

section Reading

variable {β : Type} {scan : Given → List Text → Except UsageError β} {place : Place}
  {g o o' : Given} {front args : List Text} {arg v : Text} {k : Known} {s : Setting}
  {value : Option Text}

/-- Reading the argument takes the option with the value. -/
def Announces (scan : Given → List Text → Except UsageError β) (arg : Text) (k : Known)
    (value : Option Text) : Prop :=
  ∀ (g g' : Given) (rest : List Text), g.take k value = .ok g' → scan g (arg :: rest) = scan g' rest

/-- Reading on from the first level is reading on from one that comes to the second. -/
def ReadsAs (scan : Given → List Text → Except UsageError β) (g : Given) (args : List Text)
    (o : Given) (rest : List Text) : Prop :=
  ∃ g', g'.Settles o ∧ scan g args = scan g' rest

/-- The two levels read an option by its long name, and the value behind it, in the same way. -/
structure Reads (place : Place) (scan : Given → List Text → Except UsageError β) : Prop where
  long : ∀ {arg key : Text} {k : Known} {value : Option Text},
    Argument.ofText arg = .long key value → place.long? key = some k → Announces scan arg k value
  value : ∀ {g : Given} {s : Setting} {v : Text} (rest : List Text),
    v.IsPlain → g.waiting? = some s →
      scan g (v :: rest) = scan { g with pending := some (s, some v) } rest

theorem reads_scanProgram : Reads .program scanProgram where
  long harg hkey g g' rest htake := by
    simp only [scanProgram, harg, takeLong, hkey, htake]
    rfl
  value rest hv hwaiting := by
    simp only [scanProgram, Argument.ofText_plain hv, hwaiting]

theorem reads_scanTask (name : TaskName) : Reads (.task name) (scanTask name) where
  long harg hkey g g' rest htake := by
    simp only [scanTask, harg, takeLong, hkey, htake]
    rfl
  value rest hv hwaiting := by
    simp only [scanTask, Argument.ofText_plain hv, hwaiting]

theorem Announces.readsAs (h : Announces scan arg k value) (hg : g.Settles o)
    (htake : o.take k value = .ok o') (ho' : o'.pending = none) (rest : List Text) :
    ReadsAs scan g (arg :: rest) o' rest := by
  rw [← hg.take_eq] at htake
  exact ⟨o', settles_self ho', h g o' rest htake⟩

/-- A setting whose value follows is read as if the value had been joined to it. -/
theorem Reads.following (h : Reads place scan) (harg : Announces scan arg (.setting s) none)
    (hv : v.IsPlain) (hg : g.Settles o) (htake : o.take (.setting s) (some v) = .ok o')
    (rest : List Text) : ReadsAs scan g (arg :: v :: rest) o' rest := by
  have hwait := take_setting_none s hg.pending
  rw [← hg.take_eq] at hwait
  refine ⟨_, settles_following hg.pending htake, ?_⟩
  rw [harg g _ _ hwait, h.value rest hv rfl]

/-! ### Options -/

/-- Reading an option that has not been given adds it. -/
theorem Reads.option (h : Reads place scan) {a : GlobalOption} (hg : g.Settles o)
    (hlacks : o.Lacks a) (hspells : a.Spells front) (rest : List Text) :
    ReadsAs scan g (front ++ rest) (o.add a) rest := by
  have htake := take_add hg.pending hlacks
  have hadd : (o.add a).pending = none := by
    rw [add_pending, hg.pending]
  have hlong := Argument.ofText_long a.key_ne_nil a.equals_not_mem_key
  cases hspells with
  | alone hvalue =>
    rw [hvalue] at htake
    exact (h.long hlong (a.long?_key place)).readsAs hg htake hadd rest
  | @joined v hvalue hv =>
    rw [hvalue] at htake
    have harg := h.long (Argument.ofText_joined a.equals_not_mem_key v) (a.long?_key place)
    exact harg.readsAs hg htake hadd rest
  | apart hvalue hv =>
    obtain ⟨s, hknown⟩ : ∃ s, a.known = .setting s := by
      cases a <;> first | exact ⟨_, rfl⟩ | cases hvalue
    have harg := h.long hlong (a.long?_key place)
    rw [hknown] at harg htake
    rw [hvalue] at htake
    exact h.following harg hv hg htake rest

/-! ### Items -/

/-- Reading an item that there is a place for adds it. -/
def TakesItems (place : Place) (scan : Given → List Text → Except UsageError β) : Prop :=
  ∀ {g o : Given} {i : Item} {front : List Text} (rest : List Text), g.Settles o →
    o.HasPlace place i → i.Spells front → ReadsAs scan g (front ++ rest) (o.addItem i) rest

theorem takesItems_scanProgram : TakesItems .program scanProgram := by
  intro g o i front rest hg hplace hspells
  exact hplace.elim

theorem scanTask_word {name : TaskName} (hg : g.Settles o) (hv : v.IsPlain)
    (hroom : o.hasRoom name = true) (rest : List Text) :
    scanTask name g (v :: rest) = scanTask name (o.addItem (.word v)) rest := by
  -- room is looked for before the pending value is settled, which leaves the words as they are
  have hroom' : g.hasRoom name = true := by
    rw [← hroom]
    unfold hasRoom
    rw [(settle_frame hg.settle).2]
  simp only [scanTask, Argument.ofText_plain hv, hg.waiting, takeWord, hroom', if_true, hg.settle]
  rfl

/-- The letter of the file waits for a path, or has the path right behind it. -/
theorem announces_letter (letters : Text) (hletters : letters.head? ≠ some '=') :
    Announces (scanTask .batch) ("-f".toList ++ letters) (.setting .file)
      (if letters = [] then none else some letters) := by
  intro g g' rest htake
  have harg : Argument.ofText ("-f".toList ++ letters) = .short ('f' :: letters) := rfl
  have hshort : Place.short? (.task .batch) 'f' = some (.setting .file) := rfl
  simp only [scanTask, harg, takeLetters, hshort]
  cases letters with
  | nil =>
    rw [if_pos rfl] at htake
    rw [htake]
    rfl
  | cons c letters =>
    have hc : c ≠ '=' := fun hc => hletters (congrArg some hc)
    rw [if_neg (List.cons_ne_nil c letters)] at htake
    split
    · cases ‹c :: letters = []›
    · cases ‹c :: letters = _›
      exact absurd rfl hc
    · rw [htake]
      rfl

theorem announces_letter_joined (path : Text) :
    Announces (scanTask .batch) ("-f=".toList ++ path) (.setting .file) (some path) := by
  intro g g' rest htake
  have harg : Argument.ofText ("-f=".toList ++ path) = .short ('f' :: '=' :: path) := rfl
  have hshort : Place.short? (.task .batch) 'f' = some (.setting .file) := rfl
  simp only [scanTask, harg, takeLetters, hshort]
  rw [htake]
  rfl

/-- After the name of a task, reading an item that it has a place for adds it. -/
theorem takesItems_scanTask (name : TaskName) : TakesItems (.task name) (scanTask name) := by
  intro g o i front rest hg hplace hspells
  have hadd : (o.addItem i).pending = none := by
    cases i <;> exact hg.pending
  cases i with
  | word s =>
    cases hspells with
    | word hs => exact ⟨_, settles_self hadd, scanTask_word hg hs hplace rest⟩
  | file path =>
    obtain ⟨rfl, hfile⟩ := hplace
    have hreads := reads_scanTask .batch
    have hpath : path.IsPlain := by
      cases hspells <;> assumption
    have htake : o.take (.setting .file) (some path) = .ok (o.addItem (.file path)) := by
      rw [take, hg.self.settle]
      show o.assign .file path = _
      simp only [assign, hfile, hpath.1, if_false]
      rfl
    cases hspells with
    | short => exact hreads.following (announces_letter [] (by simp)) hpath hg htake rest
    | long =>
      have harg : Argument.ofText "--file".toList = .long "file".toList none := rfl
      exact hreads.following (hreads.long harg rfl) hpath hg htake rest
    | shortJoined => exact (announces_letter_joined path).readsAs hg htake hadd rest
    | longJoined =>
      have harg : Argument.ofText ("--file=".toList ++ path) = .long "file".toList (some path) :=
        rfl
      exact (hreads.long harg rfl).readsAs hg htake hadd rest
    | attached _ hequals =>
      have hannounces := announces_letter path hequals
      rw [if_neg hpath.1] at hannounces
      exact hannounces.readsAs hg htake hadd rest

end Reading

end TradeLine
