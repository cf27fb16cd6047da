import Covenant.Proofs.Config.Sources
import Covenant.Proofs.Session.Launch
import Covenant.Proofs.Text.Case

/-!
# Which profile is selected

A text selects a profile by the word that it is without blanks around it and in small letters
(`Config.storedProfile?`). Of the settings that are accepted every one selects a profile
(`exists_selects`), a process that starts binds its primitives to that one, and a process that does
not has been told that its settings are not accepted (`Session.Launch.start_of_ok`,
`Session.Launch.start_of_error`).
-/

namespace Covenant

namespace Config

open Text

/-- A text without blanks around it and in small letters. -/
def word (t : String) : String :=
  String.ofList (small (stripChars isBlank t.toList))

/-- The words that select a profile, with the profile that is stored for each. -/
def profileWords : List (String × String) :=
  [("auto", "auto"), ("checked", "checked"), ("debug", "checked"), ("safe", "checked"),
    ("small", "checked"), ("unchecked", "unchecked"), ("fast", "unchecked"),
    ("release", "unchecked")]

/-- The profile that is stored for a text, if it selects one. -/
def storedProfile? (t : String) : Option String :=
  profileWords.lookup (word t)

/-- The profile that a stored one comes to in a process. -/
inductive Selects (optimized : Bool) : String → Profile → Prop
  | checked : Selects optimized "checked" .checked
  | unchecked : Selects optimized "unchecked" .unchecked
  | auto : Selects optimized "auto" (if optimized then .unchecked else .checked)

/-- Words of ASCII are recognized by a text's small letters. -/
theorem normalize_eq_iff {t w : String} (ascii : ∀ c ∈ w.toList, IsAscii c) :
    normalize t = w ↔ word t = w := by
  unfold normalize word
  rw [lower_eq_iff ascii, strip, String.toList_ofList, ← String.toList_inj, String.toList_ofList]

theorem isAscii_profileWords : ∀ p ∈ profileWords, ∀ c ∈ p.1.toList, IsAscii c := by
  have each : (profileWords.all fun p => p.1.toList.all fun c => decide (IsAscii c)) = true := by
    decide +kernel
  intro p mem c mem'
  have ascii := List.all_eq_true.1 each p mem
  exact of_decide_eq_true (List.all_eq_true.1 ascii c mem')

/-- The words of the table, and no others, are mapped to profiles that can be stored. -/
theorem lookup_profileWords (w : String) : profileWords.lookup w =
    if profileChoices.contains (resolveAlias w) then some (resolveAlias w) else none := by
  by_cases known : w ∈ profileWords.map (·.1)
  · simp only [profileWords, List.map_cons, List.map_nil, List.mem_cons, List.not_mem_nil,
      or_false] at known
    rcases known with rfl | rfl | rfl | rfl | rfl | rfl | rfl | rfl <;> rfl
  · have same : resolveAlias w = w := by
      unfold resolveAlias
      split
      all_goals first | rfl | exact absurd (by decide) known
    have listed : ∀ w ∈ profileChoices, w ∈ profileWords.map (·.1) := by decide
    rw [same, if_neg (by simpa using fun mem => known (listed w mem))]
    refine List.lookup_eq_none_iff.2 fun p mem => ?_
    simpa using fun same : w = p.1 => known (same ▸ List.mem_map_of_mem mem)

theorem lookup_normalize (t : String) : profileWords.lookup (normalize t) = storedProfile? t := by
  unfold storedProfile?
  by_cases known : ∃ p ∈ profileWords, normalize t = p.1 ∨ word t = p.1
  · obtain ⟨p, mem, same⟩ := known
    have ascii := isAscii_profileWords p mem
    have both : normalize t = p.1 ∧ word t = p.1 := by
      rw [← normalize_eq_iff ascii] at same ⊢
      simpa using same
    rw [both.1, both.2]
  · have unknown (w : String) (other : ∀ p ∈ profileWords, w ≠ p.1) :
        profileWords.lookup w = none :=
      List.lookup_eq_none_iff.2 fun p mem => by simpa using other p mem
    rw [unknown (normalize t) fun p mem same => known ⟨p, mem, .inl same⟩,
      unknown (word t) fun p mem same => known ⟨p, mem, .inr same⟩]

/-- A text is read as the profile that is stored for it. -/
theorem readProfile_eq_ok_iff {v : Value} {t p : String} (text : v.text? = some t) :
    readProfile v = .ok p ↔ storedProfile? t = some p := by
  rw [← lookup_normalize, lookup_profileWords]
  unfold readProfile
  rw [text]
  dsimp only
  split <;> simp

theorem readProfile_eq_error_iff {v : Value} {t : String} (text : v.text? = some t) :
    (∃ problem, readProfile v = .error problem) ↔ storedProfile? t = none := by
  cases read : readProfile v with
  | ok p => simp [(readProfile_eq_ok_iff text).1 read]
  | error problem =>
    refine iff_of_true ⟨problem, rfl⟩ (Option.eq_none_iff_forall_not_mem.2 fun p stored => ?_)
    rw [(readProfile_eq_ok_iff text).2 stored] at read
    cases read

/-- Neither the case of letters of ASCII nor blanks around a text matter. -/
theorem readProfile_eq_of_alike {v w : Value} {t u : String} (text : v.text? = some t)
    (text' : w.text? = some u) (alike : Alike t u) : readProfile v = readProfile w := by
  have same : normalize t = normalize u := lower_strip_eq alike
  unfold readProfile
  rw [text, text']
  dsimp only
  rw [same]

/-! ## Settings that have been built -/

section Built

variable {s : Sources} {c : Settings} {f : Failure} {v : Value} {t : String}

/-- The profile of settings that have been built is what has been read. -/
theorem resolve_profile_of_build (built : s.build = .ok c) :
    s.resolve .profile readProfile "auto" = .ok c.profile := by
  have read := Sources.build_eq_ok_iff.1 built .profile
  rw [Sources.outcome_profile] at read
  cases resolved : s.resolve .profile readProfile "auto" with
  | error problem => rw [resolved] at read; cases read
  | ok p =>
    rw [resolved] at read
    exact congrArg _ (Value.text.inj (Except.ok.inj read))

/-- It is one that can be stored. -/
theorem profile_mem_choices (built : s.build = .ok c) : c.profile ∈ profileChoices := by
  have resolved := resolve_profile_of_build built
  unfold Sources.resolve at resolved
  split at resolved
  · rw [readProfile_eq] at resolved
    exact mem_of_readChoice resolved
  · rw [← Except.ok.inj resolved]
    decide

theorem exists_selects (built : s.build = .ok c) (optimized : Bool) :
    ∃ p, Selects optimized c.profile p := by
  have stored := profile_mem_choices built
  simp only [profileChoices, List.mem_cons, List.not_mem_nil, or_false] at stored
  rcases stored with same | same | same <;> rw [same]
  · exact ⟨_, .auto⟩
  · exact ⟨_, .checked⟩
  · exact ⟨_, .unchecked⟩

theorem profileOf_of_selects {optimized : Bool} {p : Profile}
    (selects : Selects optimized c.profile p) : Act.profileOf c optimized = some p := by
  unfold Act.profileOf
  generalize c.profile = stored at selects
  cases selects <;> rfl

/-- What is stored is what the deciding text selects. -/
theorem storedProfile?_of_build (decides : s.Decides .profile v) (text : v.text? = some t)
    (built : s.build = .ok c) : storedProfile? t = some c.profile := by
  have resolved := resolve_profile_of_build built
  unfold Sources.resolve at resolved
  rw [Sources.choose?_eq_some_iff.2 decides] at resolved
  exact (readProfile_eq_ok_iff text).1 resolved

/-- A text is reported if and only if it selects nothing. -/
theorem reported_iff (decides : s.Decides .profile v) (text : v.text? = some t)
    (refused : s.build = .error f) :
    (∃ p ∈ f.problems, p.location = [Setting.profile.name]) ↔ storedProfile? t = none := by
  rw [Sources.reported_iff refused, Sources.outcome_of_decides decides,
    ← readProfile_eq_error_iff text]
  unfold Setting.reading
  cases readProfile v <;> simp [Except.map]

end Built

end Config

namespace Act

open Config

variable {call : Caller} {m : Machine} {i : Nat} {c : Settings}

/-! ## Resolving the profile of settings -/

/-- The names under which settings are asked for their profile. -/
def profileNames : List String :=
  [special "bool", special "len", special "eq", special "getattribute", "profile"]

/-- Settings as they were built: scripts have given them nothing, and have left the initial classes
alone as far as the profile is concerned. -/
structure AsBuilt (m : Machine) (i : Nat) (c : Settings) : Prop where
  stored : m.configs[i]? = some c
  own : ∀ p ∈ m.attached, p.1 ≠ .config i
  names : ∀ name ∈ profileNames, m.Untouched name

/-- Without special methods, settings count as true. -/
theorem truth_config (usual : m.Untouched (special "bool")) :
    truth call (.config i) m = (.done true, m) := by
  have cls : m.classOf (.config i) = .known .config := rfl
  have none : callSpecial? call (.config i) "bool" [] m = (.done none, m) :=
    callSpecial?_of_untouched usual cls rfl []
  unfold truth objectTruth
  dsimp only
  rw [bind_of_done none]
  rfl

theorem getAttribute_profile (built : AsBuilt m i c) :
    getAttribute call (.config i) "profile" m = (.done (.text c.profile), m) := by
  have cls : m.classOf (.config i) = .known .config := rfl
  have usual := built.names (special "getattribute") (by simp [profileNames])
  have untouched := built.names "profile" (by simp [profileNames])
  have bare : m.attachedTo (.config i) = [] := by
    simp [Machine.attachedTo, Machine.find?_attached_eq_none built.own (by simp)]
  apply getAttribute_of_done
  rw [lookUpByClass_of_untouched usual cls rfl]
  refine lookUpInObject_of_none untouched cls rfl ?_
  have field : (settingFields m i).get? "profile" = some (.text c.profile) := by
    have stored : m.configs.getD i ⟨"auto", true, "warning"⟩ = c := by
      simp [Array.getD_eq_getD_getElem?, built.stored]
    unfold settingFields
    rw [stored, bare]
    rfl
  unfold ownField? ownFields
  dsimp only
  rw [read_bind, bare]
  change (read (settingFields · i) >>= fun fields => pure (fields.get? "profile")) m = _
  rw [read_bind, field]
  rfl

/-- A text is compared with a word as texts are. -/
theorem holds_eq_text (usual : m.Untouched (special "eq")) (s t : String) :
    holds call .eq (.text s) (.text t) m = (.done (compareText s t == .eq), m) := by
  have cls : m.classOf (.text s) = .known .str := rfl
  have none : callSpecial? call (.text s) "eq" [.text t] m = (.done none, m) :=
    callSpecial?_of_untouched usual cls rfl [.text t]
  have compared : compare call .eq (.text s) (.text t) m =
      (.done (.bool (compareText s t == .eq)), m) := by
    have asked (compare : Compare) :
        compareByClass call compare .eq (.text s) (.text t) m =
          (.done (some (.bool (compareText s t == .eq))), m) := by
      unfold compareByClass
      exact bind_of_done none _
    exact bind_of_done (asked _) _
  unfold holds
  rw [bind_of_done compared]
  rfl

/-- Settings as they were built select a profile, and asking for it changes nothing. -/
theorem resolveProfile_of_asBuilt {p : Profile} (built : AsBuilt m i c)
    (selects : Selects m.optimized c.profile p) :
    resolveProfile call (.config i) m = (.done p, m) := by
  have usual := built.names (special "eq") (by simp [profileNames])
  unfold resolveProfile
  rw [bind_of_done (truth_config (built.names (special "bool") (by simp [profileNames])))]
  change (getAttribute call (.config i) "profile" >>= _) m = _
  have asked : getAttribute call (.config i) "profile" m = (.done (.text c.profile), m) :=
    getAttribute_profile built
  generalize c.profile = stored at asked selects
  rw [bind_of_done asked, bind_of_done (holds_eq_text usual _ _)]
  cases selects with
  | checked =>
    change (getAttribute call (.config i) "profile" >>= profileOfValue call) m = _
    rw [bind_of_done asked]
    rfl
  | unchecked =>
    change (getAttribute call (.config i) "profile" >>= profileOfValue call) m = _
    rw [bind_of_done asked]
    rfl
  | auto =>
    change (read Machine.optimized >>= fun optimized =>
      pure (if optimized then Profile.unchecked else .checked)) m = _
    rw [read_bind]
    rfl

/-- Without settings, those in effect are asked. -/
theorem resolveProfile_null (usual : m.Untouched (special "bool")) (current : m.current = some i) :
    resolveProfile call .null m = resolveProfile call (.config i) m := by
  unfold resolveProfile
  rw [bind_of_done (truth_config usual)]
  change (getConfig [] >>= _) m = _
  rw [bind_of_done (getConfig_of_current current)]
  rfl

/-- The same of the function that scripts call. -/
theorem callRoutine_resolveProfile {p : Profile} (built : AsBuilt m i c)
    (selects : Selects m.optimized c.profile p) :
    callRoutine call .resolveProfile [.config i] [] m = (.done (.member (.profile p)), m) :=
  bind_of_done (resolveProfile_of_asBuilt built selects) _

theorem callRoutine_resolveProfile_of_current {p : Profile} (built : AsBuilt m i c)
    (current : m.current = some i) (selects : Selects m.optimized c.profile p) :
    callRoutine call .resolveProfile [] [] m = (.done (.member (.profile p)), m) := by
  have usual := built.names (special "bool") (by simp [profileNames])
  refine bind_of_done (?_ : resolveProfile call .null m = (.done p, m)) _
  rw [resolveProfile_null usual current]
  exact resolveProfile_of_asBuilt built selects

end Act

namespace Session.Launch

open Act Config Script

variable {l : Launch} {c : Settings} {f : Failure} {p : Profile}

/-! ## Processes -/

/-- A process whose settings can be built starts with the profile that they select. -/
theorem start_of_ok (built : (sourcesIn l.surroundings []).build = .ok c)
    (selects : Selects l.optimized c.profile p) :
    l.start = .ok { l.configured c with active := p } := by
  have settings : currentSettings l.blank = (.done c, l.configured c) :=
    bind_of_done (getConfig_of_ok (m := l.blank) (.inl rfl) built) _
  have selected : selectedProfile Act.call l.blank = (.done p, l.configured c) := by
    unfold selectedProfile
    have choice : profileOf c (l.configured c).optimized = some p := profileOf_of_selects selects
    rw [bind_of_done settings, read_bind, choice]
    rfl
  have bound : bindPrimitives l.blank = (.done (), { l.configured c with active := p }) :=
    bind_of_done selected _
  have observed : (observe bindPrimitives).run l.blank =
      (⟨.ok (), []⟩, { l.configured c with active := p }) := by
    change observe bindPrimitives l.blank = _
    unfold observe
    rw [show bindPrimitives { l.blank with trace := [] } = _ from bound]
    rfl
  unfold start
  rw [observed]
  rfl

/-- A process whose settings cannot be built is told so and does not start. -/
theorem start_of_error (refused : (sourcesIn l.surroundings []).build = .error f) :
    l.start = .error (.mk "ValidationError" [] (some f) []) := by
  have settings : getConfig [] l.blank = (.raised 1, l.blank.push (.fault (invalidSettings f))) :=
    getConfig_of_error (m := l.blank) (.inl rfl) refused
  have bound : bindPrimitives l.blank = (.raised 1, l.blank.push (.fault (invalidSettings f))) :=
    bind_of_raised (bind_of_raised (bind_of_raised settings _) _) _
  have observed : (observe bindPrimitives).run l.blank =
      (⟨.error (.mk "ValidationError" [] (some f) []), []⟩,
        l.blank.push (.fault (invalidSettings f))) := by
    change observe bindPrimitives l.blank = _
    unfold observe
    rw [show bindPrimitives { l.blank with trace := [] } = _ from bound]
    rfl
  unfold start
  rw [observed]

/-- Every primitive is in the set of either profile, and its global name stands for that of the
active one. -/
theorem exists_primitive (m : Machine) :
    ∀ name ∈ primitiveNames, ∃ v, contractPart? m.active name = some v ∧
      globalValue? m name = some v := by
  intro name mem
  have part : (contractPart? m.active name).isSome = true := by
    have each : ∀ p, ∀ name ∈ primitiveNames, (contractPart? p name).isSome = true := by
      intro p
      cases p <;> decide
    exact each m.active name mem
  obtain ⟨v, part⟩ := Option.isSome_iff_exists.1 part
  refine ⟨v, part, ?_⟩
  unfold globalValue?
  rw [if_pos (by simpa using mem), part]

end Session.Launch

namespace Config

open Act Session Script Text

/-- A text that decides the profile is accepted if and only if it is one of eight words without
blanks around it and in small letters, and the profile of that word is stored. Settings as they were
built then always select one of the two profiles, `auto` by the process. A process either does not
start, because its settings are not accepted, or has all its primitives from the set of the profile
that its settings select. Texts that differ only in the case of letters of ASCII and in blanks
around them come to the same. -/
theorem accepted_profiles_select (depth : Nat) :
    (∀ (s : Sources) v t, s.Decides .profile v → v.text? = some t →
      (∀ c, s.build = .ok c → storedProfile? t = some c.profile) ∧
      ∀ f, s.build = .error f →
        ((∃ p ∈ f.problems, p.location = ["profile"]) ↔ storedProfile? t = none)) ∧
    (∀ (s : Sources) c m i, s.build = .ok c → AsBuilt m i c →
      let resolve := fun args => callWithin (depth + 1) (.routine .resolveProfile) args [] m
      ∃ p, Selects m.optimized c.profile p ∧
        resolve [.config i] = (.done (.member (.profile p)), m) ∧
        (m.current = some i → resolve [] = (.done (.member (.profile p)), m))) ∧
    (∀ l : Launch,
      (∃ f, (sourcesIn l.surroundings []).build = .error f ∧
        l.start = .error (.mk "ValidationError" [] (some f) [])) ∨
      ∃ c m, (sourcesIn l.surroundings []).build = .ok c ∧ l.start = .ok m ∧
        Selects l.optimized c.profile m.active ∧
        globalValue? m "ACTIVE_PROFILE" = some (.member (.profile m.active)) ∧
        ∀ name ∈ primitiveNames, ∃ v, contractPart? m.active name = some v ∧
          globalValue? m name = some v) ∧
    (∀ (s s' : Sources) v v' t t', s.Decides .profile v → s'.Decides .profile v' →
      v.text? = some t → v'.text? = some t' → Alike t t' →
      s.outcome .profile = s'.outcome .profile ∧ storedProfile? t = storedProfile? t') := by
  refine ⟨fun s v t decides text => ⟨fun c => storedProfile?_of_build decides text,
    fun f => reported_iff decides text⟩, fun s c m i built asBuilt => ?_, fun l => ?_,
    fun s s' v v' t t' decides decides' text text' alike => ⟨?_, ?_⟩⟩
  · obtain ⟨p, selects⟩ := exists_selects built m.optimized
    exact ⟨p, selects, callRoutine_resolveProfile asBuilt selects,
      fun current => callRoutine_resolveProfile_of_current asBuilt current selects⟩
  · cases read : (sourcesIn l.surroundings []).build with
    | error f => exact .inl ⟨f, rfl, Launch.start_of_error read⟩
    | ok c =>
      obtain ⟨p, selects⟩ := exists_selects read l.optimized
      exact .inr ⟨c, _, rfl, Launch.start_of_ok read selects, selects, rfl,
        Launch.exists_primitive _⟩
  · rw [Sources.outcome_of_decides decides, Sources.outcome_of_decides decides']
    unfold Setting.reading
    rw [readProfile_eq_of_alike text text' alike]
  · rw [← lookup_normalize, ← lookup_normalize,
      show normalize t = normalize t' from lower_strip_eq alike]

/-- A word in capitals and between blanks selects what it stands for. -/
theorem accepted_profiles_select_fast :
    let s : Sources := ⟨[], [("Dbcore_Profile", " FAST\n")], []⟩
    let c : Settings := ⟨"unchecked", true, "warning"⟩
    s.Decides .profile (.text " FAST\n") ∧ s.build = .ok c ∧
      storedProfile? " FAST\n" = some "unchecked" := by
  intro s c
  have decides : s.Decides .profile (.text " FAST\n") := Sources.choose?_eq_some_iff.1 rfl
  have built : s.build = .ok c := rfl
  obtain ⟨accepted, -⟩ := accepted_profiles_select 0
  exact ⟨decides, built, (accepted s _ _ decides rfl).1 c built⟩

end Config

end Covenant
