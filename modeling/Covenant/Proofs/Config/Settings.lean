import Covenant.Proofs.Config.EnvFile
import Covenant.Proofs.Config.Profile

/-!
# How settings are put together

Settings are decided one by one (`Sources.stored_of_build`, `Sources.outcome_eq_of_entries`): each
by the strongest source that gives it a value, and where that value is not accepted no other source
helps (`Sources.problems_of_build`). Names that are no settings matter only as far as values in the
settings file refer to them (`build_eq_of_sameAmong`). What has been built is built again from its
own values, wherever that is (`build_keywordsOf`).
-/

namespace Covenant

namespace Config

open Text EnvFile

/-! ## Which settings are refused -/

namespace Sources

variable {s s' : Sources} {x : Setting} {v : Value} {c : Settings} {f : Failure} {p : Problem}

/-- The value that decides a setting is not accepted. -/
def Refuses (s : Sources) (x : Setting) : Prop :=
  ∃ v p, s.Decides x v ∧ x.reading v = .error p

theorem outcome_eq_error_iff :
    s.outcome x = .error p ↔ ∃ v, s.Decides x v ∧ x.reading v = .error p := by
  unfold outcome
  cases chosen : s.choose? x with
  | none =>
    refine iff_of_false nofun ?_
    rintro ⟨v, decides, -⟩
    exact choose?_eq_none_iff.1 chosen v decides
  | some w =>
    have decides := choose?_eq_some_iff.1 chosen
    constructor
    · intro refused
      exact ⟨w, decides, refused⟩
    · rintro ⟨v, decides', refused⟩
      rwa [decides.unique decides']

theorem refuses_iff : s.Refuses x ↔ ∃ p, s.outcome x = .error p := by
  unfold Refuses
  simp only [outcome_eq_error_iff]
  exact exists_comm

/-- Settings are built if and only if none of them is refused. -/
theorem exists_build_iff : (∃ c, s.build = .ok c) ↔ ∀ x, ¬s.Refuses x := by
  cases built : s.build with
  | ok c =>
    refine iff_of_true ⟨c, rfl⟩ fun x refused => ?_
    obtain ⟨p, failed⟩ := refuses_iff.1 refused
    rw [build_eq_ok_iff.1 built x] at failed
    cases failed
  | error f =>
    refine iff_of_false nofun fun accepted => ?_
    obtain ⟨⟨x, p, failed⟩, -⟩ := build_eq_error_iff.1 built
    exact accepted x (refuses_iff.2 ⟨p, failed⟩)

/-- What has been built has the values that have been read, and usual ones where none decides. -/
theorem stored_of_build (built : s.build = .ok c) (x : Setting) :
    (∀ v, s.Decides x v → x.reading v = .ok (x.stored c)) ∧
      ((∀ v, ¬s.Decides x v) → x.stored c = x.usual) := by
  have read := build_eq_ok_iff.1 built x
  refine ⟨fun v decides => ?_, fun undecided => ?_⟩
  · rw [← outcome_of_decides decides, read]
  · rw [outcome_of_undecided undecided] at read
    exact (Except.ok.inj read).symm

/-- The problems that are reported are those of the settings that are refused, in order. -/
theorem problems_of_build (refused : s.build = .error f) :
    f.title = "DbcConfig" ∧ (∀ p ∈ f.problems, ∃ x v, s.Decides x v ∧ x.reading v = .error p) ∧
      ∃ bad : List Setting, bad.Sublist Setting.all ∧ (∀ x, x ∈ bad ↔ s.Refuses x) ∧
        f.problems.map (·.location) = bad.map fun x => [x.name] := by
  refine ⟨?_, fun p mem => ?_, _, List.filter_sublist, fun x => ?_,
    locations_of_build_eq_error refused⟩
  · rw [(build_eq_error_iff.1 refused).2]
  · rw [(build_eq_error_iff.1 refused).2] at mem
    obtain ⟨x, -, failed⟩ := List.mem_filterMap.1 mem
    refine ⟨x, outcome_eq_error_iff.1 ?_⟩
    cases read : s.outcome x with
    | ok v => rw [read] at failed; cases failed
    | error q => rw [read] at failed; cases failed; rfl
  · rw [List.mem_filter, refuses_iff]
    cases s.outcome x <;> simp [problem?, Setting.mem_all]

/-- Entries under the names of other settings do not matter to a setting. -/
theorem outcome_eq_of_entries
    (keywords : among (fun name => lower name == x.name) s.keywords =
      among (fun name => lower name == x.name) s'.keywords)
    (environment : among (fun name => lower name == x.variable) s.environment =
      among (fun name => lower name == x.variable) s'.environment)
    (file : among (fun name => lower name == x.variable) s.file =
      among (fun name => lower name == x.variable) s'.file) : s.outcome x = s'.outcome x := by
  have same : s.choose? x = s'.choose? x := by
    unfold choose? lastNamed?
    unfold among at keywords environment file
    rw [keywords, environment, file]
  unfold outcome
  rw [same]

/-- Sources that give settings the same values are built to the same. -/
theorem build_eq_of_choose? (same : ∀ x, s.choose? x = s'.choose? x) : s.build = s'.build := by
  unfold build resolve
  simp only [same]

end Sources

/-! ## Other names -/

/-- The bindings of the settings file, if there is one, as they are written. -/
def written (around : Surroundings) : List Binding :=
  (around.file.map writtenIn).getD []

/-- Whether a keyword is a setting, in whatever case. -/
def isSetting (name : String) : Bool :=
  Setting.all.any fun x => lower name == x.name

/-- Surroundings are the same as far as some names are concerned. These take in those of the
settings and, with the name of a value in the settings file, those that the value refers to. -/
structure SameAmong (keep : String → Bool) (around around' : Surroundings) : Prop where
  settings : ∀ name (x : Setting), lower name = x.variable → keep name = true
  closed : Closed keep (written around)
  environment : among keep around.environment = among keep around'.environment
  file : among keep (written around) = among keep (written around')

section Others

variable {keep : String → Bool} {around around' : Surroundings} {keywords keywords' : Fields}

theorem file_sourcesIn (around : Surroundings) (keywords : Fields) :
    (sourcesIn around keywords).file = (written around).foldl (add around.environment) [] := by
  unfold sourcesIn written
  cases around.file with
  | none => rfl
  | some text => exact read_eq around.environment text

theorem lastNamed?_among {α : Type} {name : String}
    (kept : ∀ name', lower name' = name → keep name' = true) (entries : List (String × α)) :
    lastNamed? (among keep entries) name = lastNamed? entries name := by
  have same : (among keep entries).filter (fun p => lower p.1 == name) =
      entries.filter fun p => lower p.1 == name := by
    unfold among
    rw [List.filter_filter]
    refine List.filter_congr fun p _ => ?_
    cases named : lower p.1 == name with
    | false => rfl
    | true => rw [kept p.1 (eq_of_beq named)]; rfl
  unfold lastNamed?
  rw [same]

/-- Keywords that are no settings do not matter, and neither do other names in the surroundings. -/
theorem build_eq_of_sameAmong (same : SameAmong keep around around')
    (named : among isSetting keywords = among isSetting keywords') :
    (sourcesIn around keywords).build = (sourcesIn around' keywords').build := by
  refine Sources.build_eq_of_choose? fun x => ?_
  have setting (name : String) (h : lower name = x.name) : isSetting name = true :=
    List.any_eq_true.2 ⟨x, x.mem_all, by rw [h]; exact beq_self_eq_true _⟩
  have known := fun name => same.settings name x
  have first : lastNamed? keywords x.name = lastNamed? keywords' x.name := by
    rw [← lastNamed?_among setting, named, lastNamed?_among setting]
  have second : lastNamed? around.environment x.variable =
      lastNamed? around'.environment x.variable := by
    rw [← lastNamed?_among known, same.environment, lastNamed?_among known]
  have third : lastNamed? (sourcesIn around keywords).file x.variable =
      lastNamed? (sourcesIn around' keywords').file x.variable := by
    rw [← lastNamed?_among known, ← lastNamed?_among known (sourcesIn around' _).file,
      file_sourcesIn, file_sourcesIn, among_foldl_add_eq same.closed same.environment same.file]
  unfold Sources.choose?
  rw [third]
  change (lastNamed? keywords x.name).or (((lastNamed? around.environment x.variable).map _).or _) =
    (lastNamed? keywords' x.name).or (((lastNamed? around'.environment x.variable).map _).or _)
  rw [first, second]

end Others

/-! ## Settings as keywords -/

section Again

variable {s : Sources} {x : Setting} {v w : Value} {c : Settings}

/-- Settings as keywords. -/
def keywordsOf (c : Settings) : Fields :=
  Setting.all.map fun x => (x.name, x.stored c)

/-- What has been read is read as it is. -/
theorem reading_of_reading (read : x.reading v = .ok w) : x.reading w = .ok w := by
  cases x with
  | profile =>
    obtain ⟨p, accepted, rfl⟩ := exists_of_map_eq_ok read
    have stored := mem_of_readChoice (readProfile_eq v ▸ accepted)
    simp only [profileChoices, List.mem_cons, List.not_mem_nil, or_false] at stored
    rcases stored with rfl | rfl | rfl <;> rfl
  | emitSpanEvents =>
    obtain ⟨b, -, rfl⟩ := exists_of_map_eq_ok read
    rfl
  | logLevel =>
    obtain ⟨level, accepted, rfl⟩ := exists_of_map_eq_ok read
    have stored := mem_of_readChoice (readLogLevel_eq v ▸ accepted)
    simp only [levelChoices, List.mem_cons, List.not_mem_nil, or_false] at stored
    rcases stored with rfl | rfl | rfl | rfl <;> rfl

theorem lastUnder_keywordsOf (c : Settings) (x : Setting) :
    LastUnder (keywordsOf c) x.name (x.stored c) := by
  have own : lower x.name = x.name := by cases x <;> decide
  have differ : ∀ y z : Setting, y ≠ z → lower y.name ≠ z.name := by
    intro y z
    cases y <;> cases z <;> decide
  have others {after : List Setting} (later : ∀ y ∈ after, y ≠ x) :
      ∀ p ∈ after.map fun y => (y.name, y.stored c), lower p.1 ≠ x.name := by
    intro p mem
    obtain ⟨y, held, rfl⟩ := List.mem_map.1 mem
    exact differ y x (later y held)
  obtain ⟨before, after, split, later⟩ :
      ∃ before after, Setting.all = before ++ x :: after ∧ ∀ y ∈ after, y ≠ x := by
    cases x with
    | profile => exact ⟨[], [.emitSpanEvents, .logLevel], rfl, by decide⟩
    | emitSpanEvents => exact ⟨[.profile], [.logLevel], rfl, by decide⟩
    | logLevel => exact ⟨[.profile, .emitSpanEvents], [], rfl, by decide⟩
  refine ⟨before.map fun y => (y.name, y.stored c), x.name,
    after.map fun y => (y.name, y.stored c), ?_, own, others later⟩
  unfold keywordsOf
  rw [split, List.map_append, List.map_cons]

/-- Settings that have been built are accepted as keywords, whatever the surroundings are. -/
theorem build_keywordsOf (built : s.build = .ok c) (around : Surroundings) :
    (sourcesIn around (keywordsOf c)).build = .ok c := by
  refine Sources.build_eq_ok_iff.2 fun x => ?_
  rw [Sources.outcome_of_decides (.keyword (lastUnder_keywordsOf c x))]
  have read := Sources.build_eq_ok_iff.1 built x
  unfold Sources.outcome at read
  split at read
  · exact reading_of_reading read
  · rw [← Except.ok.inj read]
    cases x <;> rfl

end Again

end Config

namespace Act

open Config

variable {m : Machine} {keywords : Fields}

/-- Calling the class of settings builds them of the named arguments. -/
theorem construct_config (call : Caller)
    (usual : m.classAttribute? (.known .config) (special "new") = none) :
    construct call (.known .config) [] keywords m =
      (do return .config (← buildSettings keywords) : Act Value) m := by
  unfold construct
  simp only [read_bind, usual, Machine.knownAbove_known]
  rfl

theorem construct_config_of_ok (call : Caller) {c : Settings}
    (usual : m.classAttribute? (.known .config) (special "new") = none)
    (built : (sourcesIn m.surroundings keywords).build = .ok c) :
    construct call (.known .config) [] keywords m =
      (.done (.config m.configs.size), { m with configs := m.configs.push c }) := by
  rw [construct_config call usual]
  exact bind_of_done (buildSettings_of_ok built) _

theorem construct_config_of_error (call : Caller) {f : Failure}
    (usual : m.classAttribute? (.known .config) (special "new") = none)
    (refused : (sourcesIn m.surroundings keywords).build = .error f) :
    construct call (.known .config) [] keywords m =
      (.raised m.heap.size, m.push (.fault (invalidSettings f))) := by
  rw [construct_config call usual]
  exact bind_of_raised (buildSettings_of_error refused) _

end Act

namespace Config

open Text EnvFile Act

/-- Each setting is decided by the strongest source that gives it a value under its name, in any
case, and by nothing under other names. Settings are built if and only if no deciding value is
refused; then they have what has been read, and the usual value where none decides. Otherwise one
failure reports exactly the settings that are refused, in their order, each with the problem of its
deciding value. Names that are no settings do not matter, unless a value in the settings file refers
to them. What has been built is built again from its own values, wherever that is. -/
theorem settings_are_decided_one_by_one (depth : Nat) :
    (∀ s : Sources,
      (∀ x v w, s.Decides x v → s.Decides x w → v = w) ∧
      ((∃ c, s.build = .ok c) ↔ ∀ x, ¬s.Refuses x) ∧
      (∀ c, s.build = .ok c → ∀ x : Setting,
        (∀ v, s.Decides x v → x.reading v = .ok (x.stored c)) ∧
        ((∀ v, ¬s.Decides x v) → x.stored c = x.usual)) ∧
      ∀ f, s.build = .error f → f.title = "DbcConfig" ∧
        (∀ p ∈ f.problems, ∃ x v, s.Decides x v ∧ x.reading v = .error p) ∧
        ∃ bad : List Setting, bad.Sublist [.profile, .emitSpanEvents, .logLevel] ∧
          (∀ x, x ∈ bad ↔ s.Refuses x) ∧
          f.problems.map (·.location) = bad.map fun x => [x.name]) ∧
    (∀ (s s' : Sources) (x : Setting),
      among (fun name => lower name == x.name) s.keywords =
        among (fun name => lower name == x.name) s'.keywords →
      among (fun name => lower name == x.variable) s.environment =
        among (fun name => lower name == x.variable) s'.environment →
      among (fun name => lower name == x.variable) s.file =
        among (fun name => lower name == x.variable) s'.file →
      s.outcome x = s'.outcome x) ∧
    (∀ m keywords, m.classAttribute? (.known .config) (special "new") = none →
      let made := callWithin (depth + 1) (.cls (.known .config)) [] keywords m
      (∀ c, (sourcesIn m.surroundings keywords).build = .ok c → made =
        (.done (.config m.configs.size), { m with configs := m.configs.push c })) ∧
      ∀ f, (sourcesIn m.surroundings keywords).build = .error f → made =
        (.raised m.heap.size, m.push (.fault (invalidSettings f)))) ∧
    (∀ keep around around' keywords keywords', SameAmong keep around around' →
      among isSetting keywords = among isSetting keywords' →
      (sourcesIn around keywords).build = (sourcesIn around' keywords').build) ∧
    ∀ (s : Sources) c around, s.build = .ok c →
      (sourcesIn around (keywordsOf c)).build = .ok c := by
  refine ⟨fun s => ⟨fun x v w => Sources.Decides.unique, Sources.exists_build_iff,
    fun c => Sources.stored_of_build, fun f => Sources.problems_of_build⟩,
    fun s s' x => Sources.outcome_eq_of_entries, fun m keywords usual => ⟨fun c => ?_, fun f => ?_⟩,
    fun keep around around' keywords keywords' => build_eq_of_sameAmong,
    fun s c around built => build_keywordsOf built around⟩
  · exact construct_config_of_ok (callWithin depth) usual
  · exact construct_config_of_error (callWithin depth) usual

/-- Three sources decide a setting each, and what they are built to is built again elsewhere. -/
theorem settings_are_decided_one_by_one_again :
    let s : Sources := ⟨[("profile", .text " Fast")],
      [("DBCORE_PROFILE", "slow"), ("dbcore_log_level", "ERROR")],
      [("DBCORE_EMIT_SPAN_EVENTS", some "off"), ("DBCORE_LOG_LEVEL", some "loud")]⟩
    let c : Settings := ⟨"unchecked", false, "error"⟩
    s.build = .ok c ∧
      (sourcesIn ⟨[("DBCORE_LOG_LEVEL", "loud")], none⟩ (keywordsOf c)).build = .ok c := by
  intro s c
  have built : s.build = .ok c := rfl
  obtain ⟨-, -, -, -, again⟩ := settings_are_decided_one_by_one 0
  exact ⟨built, again s c ⟨[("DBCORE_LOG_LEVEL", "loud")], none⟩ built⟩

/-- A name that is no setting matters where a value in the settings file refers to it, and a keyword
that is written in another case than the setting counts as the setting. -/
theorem other_names_matter :
    let file := "DBCORE_PROFILE=$\x7bA\x7dchecked\n"
    let built (file : Option String) (keywords : Fields) (profile : String) : Prop :=
      (sourcesIn ⟨[], file⟩ keywords).build = .ok ⟨profile, true, "warning"⟩
    (∀ x : Setting, lower "A" ≠ x.name ∧ lower "A" ≠ x.variable ∧ "PROFILE" ≠ x.name) ∧
      built (some file) [] "checked" ∧ built (some ("A=un\n" ++ file)) [] "unchecked" ∧
      built none [] "auto" ∧ built none [("PROFILE", .text "fast")] "unchecked" := by
  refine ⟨fun x => ?_, ?_, ?_, ?_, ?_⟩
  · cases x <;> decide
  · rfl
  · rfl
  · rfl
  · rfl

end Config

end Covenant
