import Covenant.Config.Settings
import Covenant.Proofs.Machine.Growth

/-!
# Where settings come from

The value of a setting is the one that the strongest source gives it (`Sources.Decides`): the last
keyword under its name, in whatever case; failing that, the last such variable of the environment;
failing that, the last such binding of the settings file, if it has a value. No other source has a
say (`Sources.Decides.unique`).

Each setting is read on its own (`Sources.outcome`), the profile and the log level as one of several
words (`readChoice`). Settings are built if all three readings succeed (`Sources.build_eq_ok_iff`),
and otherwise the problems of those that fail are reported, in order (`Sources.build_eq_error_iff`);
each names its setting (`Setting.location_of_refused`).
-/

namespace Covenant.Config

open Covenant.Text

/-! ## Entries under a name -/

section Named

variable {α : Type} {entries : List (String × α)} {name : String} {a : α}

/-- The last of the entries under a name, in whatever case, has this value. -/
def LastUnder (entries : List (String × α)) (name : String) (a : α) : Prop :=
  ∃ before key after, entries = before ++ (key, a) :: after ∧ lower key = name ∧
    ∀ p ∈ after, lower p.1 ≠ name

/-- No entry is under the name. -/
def Unnamed (entries : List (String × α)) (name : String) : Prop :=
  ∀ p ∈ entries, lower p.1 ≠ name

theorem lastNamed?_eq_none_iff : lastNamed? entries name = none ↔ Unnamed entries name := by
  unfold lastNamed? Unnamed
  simp

theorem lastNamed?_eq_some_iff : lastNamed? entries name = some a ↔ LastUnder entries name a := by
  unfold lastNamed?
  rw [List.getLast?_filter]
  constructor
  · intro found
    obtain ⟨⟨key, b⟩, last, rfl⟩ := Option.map_eq_some_iff.1 found
    obtain ⟨named, after, before, split, others⟩ := List.find?_eq_some_iff_append.1 last
    refine ⟨before.reverse, key, after.reverse, ?_, by simpa using named, fun p mem => ?_⟩
    · rw [← List.reverse_reverse entries, split]
      simp
    · simpa using others p (List.mem_reverse.1 mem)
  · rintro ⟨before, key, after, rfl, named, others⟩
    have last : (before ++ (key, a) :: after).reverse.find? (fun p => lower p.1 == name) =
        some (key, a) := by
      refine List.find?_eq_some_iff_append.2
        ⟨by simpa using named, after.reverse, before.reverse, by simp, fun p mem => ?_⟩
      simpa using others p (List.mem_reverse.1 mem)
    rw [last]
    rfl

end Named

/-! ## The deciding value -/

/-- The value that the strongest source which has one gives a setting. -/
inductive Sources.Decides (s : Sources) (x : Setting) : Value → Prop
  | keyword {v : Value} (given : LastUnder s.keywords x.name v) : Decides s x v
  | environment {t : String} (none : Unnamed s.keywords x.name)
      (given : LastUnder s.environment x.variable t) : Decides s x (.text t)
  | file {t : String} (none : Unnamed s.keywords x.name)
      (none' : Unnamed s.environment x.variable)
      (given : LastUnder s.file x.variable (some t)) : Decides s x (.text t)

namespace Sources

variable {s : Sources} {x : Setting} {v w : Value} {c : Settings} {f : Failure}

theorem choose?_eq_some_iff : s.choose? x = some v ↔ s.Decides x v := by
  unfold choose?
  constructor
  · intro chosen
    cases keyword : lastNamed? s.keywords x.name with
    | some w =>
      rw [keyword] at chosen
      cases chosen
      exact .keyword (lastNamed?_eq_some_iff.1 keyword)
    | none =>
      have none := lastNamed?_eq_none_iff.1 keyword
      cases environment : lastNamed? s.environment x.variable with
      | some t =>
        rw [keyword, environment] at chosen
        cases chosen
        exact .environment none (lastNamed?_eq_some_iff.1 environment)
      | none =>
        have none' := lastNamed?_eq_none_iff.1 environment
        rw [keyword, environment] at chosen
        obtain ⟨t, given, rfl⟩ : ∃ t, lastNamed? s.file x.variable = some (some t) ∧
            Value.text t = v := by simpa [Option.join_eq_some_iff] using chosen
        exact .file none none' (lastNamed?_eq_some_iff.1 given)
  · intro decides
    cases decides with
    | keyword given => rw [lastNamed?_eq_some_iff.2 given]; rfl
    | environment none given =>
      rw [lastNamed?_eq_none_iff.2 none, lastNamed?_eq_some_iff.2 given]
      rfl
    | file none none' given =>
      rw [lastNamed?_eq_none_iff.2 none, lastNamed?_eq_none_iff.2 none',
        lastNamed?_eq_some_iff.2 given]
      rfl

theorem choose?_eq_none_iff : s.choose? x = none ↔ ∀ v, ¬s.Decides x v := by
  rw [Option.eq_none_iff_forall_not_mem]
  exact forall_congr' fun v => not_congr choose?_eq_some_iff

theorem Decides.unique (h : s.Decides x v) (h' : s.Decides x w) : v = w :=
  Option.some.inj ((choose?_eq_some_iff.2 h).symm.trans (choose?_eq_some_iff.2 h'))

end Sources

/-! ## Readings -/

section Readings

variable {x : Setting} {message : String} {stands : String → String} {choices : List String}
  {v : Value} {p : Problem}

theorem exists_of_map_eq_ok {α β : Type} {r : Except Problem α} {g : α → β} {b : β}
    (h : r.map g = .ok b) : ∃ a, r = .ok a ∧ g a = b := by
  cases r with
  | ok a => exact ⟨a, rfl, Except.ok.inj h⟩
  | error p => cases h

theorem eq_error_of_map {α β : Type} {r : Except Problem α} {g : α → β} (h : r.map g = .error p) :
    r = .error p := by
  cases r with
  | ok a => cases h
  | error q =>
    cases h
    rfl

/-- Reads one of several words, some of which can be written in another way. -/
def readChoice (x : Setting) (message : String) (stands : String → String) (choices : List String)
    (v : Value) : Except Problem String :=
  match v.text? with
  | none => .error (choiceProblem x message)
  | some t =>
    let word := stands (normalize t)
    if choices.contains word then .ok word else .error (choiceProblem x message)

theorem readProfile_eq (v : Value) : readProfile v =
    readChoice .profile "Input should be 'auto', 'checked' or 'unchecked'" resolveAlias
      profileChoices v :=
  rfl

theorem readLogLevel_eq (v : Value) : readLogLevel v =
    readChoice .logLevel "Input should be 'debug', 'info', 'warning' or 'error'" id
      levelChoices v :=
  rfl

theorem mem_of_readChoice {word : String}
    (read : readChoice x message stands choices v = .ok word) : word ∈ choices := by
  unfold readChoice at read
  dsimp only at read
  split at read
  · cases read
  · split at read
    · next accepted =>
      rw [← Except.ok.inj read]
      simpa using accepted
    · cases read

theorem location_of_readChoice (refused : readChoice x message stands choices v = .error p) :
    p.location = [x.name] := by
  unfold readChoice at refused
  dsimp only at refused
  split at refused
  · cases refused
    rfl
  · split at refused
    · cases refused
    · cases refused
      rfl

end Readings

namespace Setting

variable {x : Setting} {v : Value} {p : Problem}

/-- The settings, in their order. -/
def all : List Setting :=
  [.profile, .emitSpanEvents, .logLevel]

theorem name_injective {x y : Setting} (same : x.name = y.name) : x = y := by
  cases x <;> cases y <;> first | rfl | exact absurd same (by decide)

theorem mem_all (x : Setting) : x ∈ all := by
  cases x <;> decide

/-- The value that settings have for a setting. -/
def stored (c : Settings) : Setting → Value
  | .profile => .text c.profile
  | .emitSpanEvents => .bool c.emitSpanEvents
  | .logLevel => .text c.logLevel

/-- The value of a setting that no source decides. -/
def usual : Setting → Value :=
  stored ⟨"auto", true, "warning"⟩

/-- What a setting makes of a value. -/
def reading (v : Value) : Setting → Except Problem Value
  | .profile => (readProfile v).map .text
  | .emitSpanEvents => (readFlag v).map .bool
  | .logLevel => (readLogLevel v).map .text

theorem location_of_readFlag (refused : readFlag v = .error p) :
    p.location = [emitSpanEvents.name] := by
  unfold readFlag at refused
  dsimp only at refused
  grind

/-- A problem names the setting that has it. -/
theorem location_of_refused (refused : x.reading v = .error p) : p.location = [x.name] := by
  cases x with
  | profile =>
    exact location_of_readChoice (readProfile_eq v ▸ eq_error_of_map refused)
  | emitSpanEvents => exact location_of_readFlag (eq_error_of_map refused)
  | logLevel => exact location_of_readChoice (readLogLevel_eq v ▸ eq_error_of_map refused)

protected theorem forall_iff {P : Setting → Prop} :
    (∀ x, P x) ↔ P .profile ∧ P .emitSpanEvents ∧ P .logLevel :=
  ⟨fun h => ⟨h _, h _, h _⟩, fun ⟨p, f, l⟩ x => by cases x <;> assumption⟩

protected theorem exists_iff {P : Setting → Prop} :
    (∃ x, P x) ↔ P .profile ∨ P .emitSpanEvents ∨ P .logLevel := by
  constructor
  · rintro ⟨x, h⟩
    cases x with
    | profile => exact .inl h
    | emitSpanEvents => exact .inr (.inl h)
    | logLevel => exact .inr (.inr h)
  · rintro (h | h | h) <;> exact ⟨_, h⟩

end Setting

namespace Sources

variable {s : Sources} {x : Setting} {v w : Value} {c : Settings} {f : Failure}

/-- What sources make of a setting. -/
def outcome (s : Sources) (x : Setting) : Except Problem Value :=
  match s.choose? x with
  | some v => x.reading v
  | none => .ok x.usual

theorem outcome_of_decides (decides : s.Decides x v) : s.outcome x = x.reading v := by
  unfold outcome
  rw [choose?_eq_some_iff.2 decides]

theorem outcome_of_undecided (undecided : ∀ v, ¬s.Decides x v) : s.outcome x = .ok x.usual := by
  unfold outcome
  rw [choose?_eq_none_iff.2 undecided]

/-- Keywords do not matter to settings that they do not name. -/
theorem outcome_of_unnamed {around : Surroundings} {keywords : Fields}
    (unnamed : Unnamed keywords x.name) :
    (sourcesIn around keywords).outcome x = (sourcesIn around []).outcome x := by
  have same : (sourcesIn around keywords).choose? x = (sourcesIn around []).choose? x := by
    have none : lastNamed? (sourcesIn around keywords).keywords x.name = none :=
      lastNamed?_eq_none_iff.2 unnamed
    unfold choose?
    rw [none]
    rfl
  unfold outcome
  rw [same]

/-- What is in a setting is what its sources make of it. -/
theorem outcome_profile (s : Sources) :
    s.outcome .profile = (s.resolve .profile readProfile "auto").map .text := by
  unfold outcome resolve
  cases s.choose? .profile <;> rfl

theorem outcome_emitSpanEvents (s : Sources) :
    s.outcome .emitSpanEvents = (s.resolve .emitSpanEvents readFlag true).map .bool := by
  unfold outcome resolve
  cases s.choose? .emitSpanEvents <;> rfl

theorem outcome_logLevel (s : Sources) :
    s.outcome .logLevel = (s.resolve .logLevel readLogLevel "warning").map .text := by
  unfold outcome resolve
  cases s.choose? .logLevel <;> rfl

/-- Settings are built if and only if every setting is read, and they are what has been read. -/
theorem build_eq_ok_iff : s.build = .ok c ↔ ∀ x, s.outcome x = .ok (x.stored c) := by
  obtain ⟨p, f, l⟩ := c
  rw [Setting.forall_iff, outcome_profile, outcome_emitSpanEvents, outcome_logLevel]
  unfold build
  cases s.resolve .profile readProfile "auto" <;>
    cases s.resolve .emitSpanEvents readFlag true <;>
    cases s.resolve .logLevel readLogLevel "warning" <;>
    simp [Except.map, Setting.stored]

theorem stored_of_unnamed {around : Surroundings} {keywords : Fields} {d : Settings}
    (unnamed : Unnamed keywords x.name) (built : (sourcesIn around keywords).build = .ok c)
    (built' : (sourcesIn around []).build = .ok d) : x.stored c = x.stored d := by
  have same := build_eq_ok_iff.1 built x
  rw [outcome_of_unnamed unnamed, build_eq_ok_iff.1 built' x] at same
  exact (Except.ok.inj same).symm

/-- Otherwise the problems of all settings that are not read are reported, in order. -/
theorem build_eq_error_iff :
    s.build = .error f ↔ (∃ x p, s.outcome x = .error p) ∧
      f = ⟨"DbcConfig", Setting.all.filterMap fun x => problem? (s.outcome x)⟩ := by
  rw [Setting.exists_iff]
  simp only [Setting.all, List.filterMap_cons, outcome_profile, outcome_emitSpanEvents,
    outcome_logLevel]
  unfold build
  cases s.resolve .profile readProfile "auto" <;>
    cases s.resolve .emitSpanEvents readFlag true <;>
    cases s.resolve .logLevel readLogLevel "warning" <;>
    simp [Except.map, problem?, eq_comm]

/-- The places of the problems are the settings that are not read, in order. -/
theorem locations_of_build_eq_error (h : s.build = .error f) :
    f.problems.map (·.location) =
      (Setting.all.filter fun x => (problem? (s.outcome x)).isSome).map fun x => [x.name] := by
  obtain ⟨-, rfl⟩ := build_eq_error_iff.1 h
  generalize Setting.all = settings
  induction settings with
  | nil => rfl
  | cons x rest ih =>
    cases read : s.outcome x with
    | ok v => simpa [List.filterMap_cons, List.filter_cons, read, problem?] using ih
    | error p =>
      have place : p.location = [x.name] := by
        unfold outcome at read
        split at read
        · exact Setting.location_of_refused read
        · cases read
      simpa [List.filterMap_cons, List.filter_cons, read, problem?, place] using ih

theorem reported_iff (h : s.build = .error f) :
    (∃ p ∈ f.problems, p.location = [x.name]) ↔ ∃ p, s.outcome x = .error p := by
  have places := locations_of_build_eq_error h
  have refused : (problem? (s.outcome x)).isSome = true ↔ ∃ p, s.outcome x = .error p := by
    cases s.outcome x <;> simp [problem?]
  rw [← List.mem_map, places, ← refused, List.mem_map]
  constructor
  · rintro ⟨y, mem, named⟩
    rw [← Setting.name_injective (List.singleton_inj.1 named)]
    exact (List.mem_filter.1 mem).2
  · intro h
    exact ⟨x, List.mem_filter.2 ⟨x.mem_all, h⟩, rfl⟩

end Sources

end Covenant.Config

namespace Covenant.Act

open Config

variable {m : Machine} {keywords : Fields} {c : Settings} {f : Failure}

/-- The fault that reports a failed validation. -/
def invalidSettings (f : Failure) : Fault :=
  { Fault.fresh (.known (.fault .validationError)) [] [] with failure := some f }

/-- Settings that can be built are stored behind those from before. -/
theorem buildSettings_of_ok (built : (sourcesIn m.surroundings keywords).build = .ok c) :
    buildSettings keywords m =
      (.done m.configs.size, { m with configs := m.configs.push c }) := by
  unfold buildSettings
  rw [read_bind, built]

/-- Settings that cannot be built are reported, and nothing else happens. -/
theorem buildSettings_of_error (refused : (sourcesIn m.surroundings keywords).build = .error f) :
    buildSettings keywords m = (.raised m.heap.size, m.push (.fault (invalidSettings f))) := by
  unfold buildSettings
  rw [read_bind, refused]
  rfl

/-- Asking for the settings in effect gives them, if there are some. -/
theorem getConfig_of_current {i : Nat} (current : m.current = some i) :
    getConfig [] m = (.done i, m) := by
  unfold getConfig
  rw [read_bind, current]
  rfl

/-- Otherwise, and with keywords, settings are built. -/
theorem getConfig_of_build (builds : m.current = none ∨ keywords ≠ []) :
    getConfig keywords m = (do
      let i ← buildSettings keywords
      update fun m => { m with current := some i }
      return i : Act Nat) m := by
  unfold getConfig
  rw [read_bind]
  cases current : m.current with
  | none => rfl
  | some i =>
    cases keywords with
    | nil => simp [current] at builds
    | cons p rest => rfl

/-- Settings that can be built are put into effect. -/
theorem getConfig_of_ok (builds : m.current = none ∨ keywords ≠ [])
    (built : (sourcesIn m.surroundings keywords).build = .ok c) :
    getConfig keywords m = (.done m.configs.size,
      { m with configs := m.configs.push c, current := some m.configs.size }) := by
  rw [getConfig_of_build builds, bind_of_done (buildSettings_of_ok built)]
  rfl

/-- If they cannot be built, those in effect stay so. -/
theorem getConfig_of_error (builds : m.current = none ∨ keywords ≠ [])
    (refused : (sourcesIn m.surroundings keywords).build = .error f) :
    getConfig keywords m = (.raised m.heap.size, m.push (.fault (invalidSettings f))) := by
  rw [getConfig_of_build builds]
  exact bind_of_raised (buildSettings_of_error refused) _

end Covenant.Act
