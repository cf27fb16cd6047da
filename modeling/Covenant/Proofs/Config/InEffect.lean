import Covenant.Proofs.Config.Profile
import Covenant.Proofs.Contract.Decoration
import Mathlib.Data.List.Induction

/-!
# The settings in effect over a run

A process asks for settings, with keywords or without, takes those in effect back, and raises
violations. What settings it has is said by the settings that a look-up gives (`Machine.Holds`), be
it that they are there already or that they are built then. A deed keeps them, puts others into
effect or takes those in effect back (`Machine.Holds.perform_cases`), so over a run the last deed
that does not keep them decides (`InForce`, `ConfigDeed.exists_holds_of_inForce`). Everything else
stays as it was when the process started, but for new cells and what is recorded (`Machine.Since`).
-/

namespace Covenant

open Config

/-! ## Deeds -/

/-- One thing that a process does about its settings. -/
inductive ConfigDeed where
  | get (keywords : Fields)
  | reset
  /-- A violation is made, reported and raised. -/
  | violate (f : Fault)

namespace ConfigDeed

open Act

/-- What a deed does. -/
def perform (call : Caller) : ConfigDeed → Act Value
  | get keywords => callRoutine call .getConfig [] keywords
  | reset => callRoutine call .resetConfig [] []
  | violate f => do
    let e ← alloc (.fault f)
    reportViolation call (.ref e)
    raise e

/-- The machine after several deeds, however they end. -/
def performAll (call : Caller) (m : Machine) (deeds : List ConfigDeed) : Machine :=
  deeds.foldl (fun m d => (d.perform call m).2) m

/-- A violation tells what is reported of it. -/
def Fits (call : Caller) : ConfigDeed → Prop
  | violate f => ∃ kind message own, Legible call f kind (.text message) own
  | _ => True

/-- A deed is no reset, and if it is given keywords, no settings can be built with them. -/
def Keeps (around : Surroundings) : ConfigDeed → Prop
  | get keywords => keywords = [] ∨ ∃ f, (sourcesIn around keywords).build = .error f
  | reset => False
  | violate _ => True

end ConfigDeed

/-- The settings that some deeds have put into effect: those built with the keywords of the last
accepted deed with some, unless a reset came later; else those of the surroundings alone. -/
inductive InForce (around : Surroundings) (deeds : List ConfigDeed) (c : Settings) : Prop
  | keywords {before after : List ConfigDeed} {keywords : Fields}
      (last : deeds = before ++ .get keywords :: after) (given : keywords ≠ [])
      (built : (sourcesIn around keywords).build = .ok c) (keep : ∀ d ∈ after, d.Keeps around)
  | reset {before after : List ConfigDeed} (last : deeds = before ++ .reset :: after)
      (built : (sourcesIn around []).build = .ok c) (keep : ∀ d ∈ after, d.Keeps around)
  | start (built : (sourcesIn around []).build = .ok c) (keep : ∀ d ∈ deeds, d.Keeps around)

namespace Machine

variable {m n k : Machine} {i : Nat} {c env : Settings}

/-- A look-up gives the settings `c` under the index `i`, whether they are in effect already or are
built then. -/
def Holds (m : Machine) (i : Nat) (c : Settings) : Prop :=
  ∃ n, m.settled? = some (i, n) ∧ n.configs[i]? = some c

/-- One machine comes from another by deeds about settings: there may be new cells, settings and
records, and nothing else is different. -/
structure Since (m n : Machine) : Prop where
  rest : n = { m with
    heap := n.heap, configs := n.configs, current := n.current, trace := n.trace }
  size : m.heap.size ≤ n.heap.size
  cell : ∀ r < m.heap.size, n.cell r = m.cell r

/-- Scripts have left alone what a report asks for, and no fault is being handled. -/
structure Bare (m : Machine) : Prop where
  patches : m.patches = []
  attached : m.attached = []
  free : m.handling = none

theorem Bare.intact (bare : m.Bare) : m.Intact := by
  have none (p : Value × Fields) : p ∉ m.attached := by simp [bare.attached]
  exact ⟨fun name _ => untouched_of_patches bare.patches name, fun p mem => absurd mem (none p),
    fun p mem => absurd mem (none p), fun p mem => absurd mem (none p)⟩

namespace Since

theorem refl (m : Machine) : m.Since m :=
  ⟨rfl, Nat.le_refl _, fun _ _ => rfl⟩

theorem trans (h : m.Since n) (h' : n.Since k) : m.Since k where
  rest := by rw [h'.rest, h.rest]
  size := Nat.le_trans h.size h'.size
  cell r lt := (h'.cell r (Nat.lt_of_lt_of_le lt h.size)).trans (h.cell r lt)

theorem push (m : Machine) (c : Cell) : m.Since (m.push c) :=
  ⟨rfl, by simp, fun _ lt => cell_push_of_lt lt⟩

theorem bare (h : m.Since n) (bare : m.Bare) : n.Bare := by
  rw [h.rest]
  exact ⟨bare.patches, bare.attached, bare.free⟩

theorem surroundings (h : m.Since n) : n.surroundings = m.surroundings := by
  rw [h.rest]

theorem span (h : m.Since n) : n.span = m.span := by
  rw [h.rest]

theorem active (h : m.Since n) : n.active = m.active := by
  rw [h.rest]

theorem settled (h : m.settled? = some (i, n)) : m.Since n := by
  obtain ⟨rest, -⟩ := rest_of_settled h
  refine ⟨?_, Nat.le_of_eq ?_, fun r _ => cell_of_settled h r⟩
  · rw [rest]
  · rw [rest]

theorem reported (m : Machine) (warning : String) (entries : List (String × String)) :
    m.Since (m.reported warning entries) := by
  unfold Machine.reported
  split
  · exact ⟨rfl, by simp [withSpanEvent, warned], fun _ lt => cell_push_of_lt lt⟩
  · exact ⟨rfl, Nat.le_refl _, fun _ _ => rfl⟩

end Since

/-! ## What a look-up gives -/

/-- Settings that a look-up has given are in effect. -/
theorem current_of_settled (h : m.settled? = some (i, n)) : n.current = some i := by
  unfold settled? at h
  split at h
  · next current =>
    cases h
    exact current
  · split at h
    · cases h
      rfl
    · cases h

theorem settled?_of_current (current : m.current = some i) : m.settled? = some (i, m) := by
  unfold settled?
  rw [current]

theorem holds_of_current (current : m.current = some i) (stored : m.configs[i]? = some c) :
    m.Holds i c :=
  ⟨m, settled?_of_current current, stored⟩

/-- Where no settings are in effect, those of the surroundings are built. -/
theorem holds_of_build (current : m.current = none)
    (built : (sourcesIn m.surroundings []).build = .ok c) : m.Holds m.configs.size c := by
  refine ⟨{ m with configs := m.configs.push c, current := some m.configs.size }, ?_,
    Array.getElem?_push_size⟩
  unfold settled?
  rw [current, built]

theorem Holds.push (holds : m.Holds i c) (x : Cell) : (m.push x).Holds i c := by
  obtain ⟨n, settled, stored⟩ := holds
  refine ⟨n.push x, ?_, stored⟩
  rw [settled?_push, settled]
  rfl

/-- On the machine after a report the same settings are in effect. -/
theorem current_reported (m : Machine) (warning : String) (entries : List (String × String)) :
    (m.reported warning entries).current = m.current ∧
      (m.reported warning entries).configs = m.configs := by
  unfold reported
  split <;> exact ⟨rfl, rfl⟩

/-- A report records an event, if there is one, after the warning. -/
theorem trace_reported (m : Machine) (warning : String) (entries : List (String × String)) :
    (m.reported warning entries).trace =
      (if m.putsOnSpan then m.spanEvent entries else []) ++
        .log .warning .assertions warning :: m.trace := by
  unfold reported
  cases m.putsOnSpan <;> rfl

end Machine

namespace Act

variable {call : Caller} {m n : Machine} {i : Nat} {c : Settings} {keywords : Fields} {f : Failure}

open ConfigDeed

/-! ## Single deeds -/

/-- What takes arguments by any name, and nothing else, is given them as they are. -/
theorem matched_named (title : String) (named : Fields) (m : Machine) :
    matched ⟨title, [], false, true⟩ [] named m = (.done ⟨[], [], named⟩, m) := by
  have other : ∀ q ∈ named, Signature.place? ⟨title, [], false, true⟩ q.1 = none := fun _ _ => rfl
  have each : ([] : List Value).length = ([] : List Parameter).length := rfl
  exact matched_others rfl each (.inr rfl) other m

theorem perform_get (call : Caller) (keywords : Fields) (m : Machine) :
    (get keywords).perform call m = (do return .config (← getConfig keywords) : Act Value) m :=
  bind_of_done (matched_named _ keywords m) _

/-- A look-up gives settings, and they are in effect from then on. -/
theorem perform_get_of_settled (settled : m.settled? = some (i, n)) :
    (get []).perform call m = (.done (.config i), n) := by
  rw [perform_get]
  exact bind_of_done (getConfig_of_settled settled) _

/-- With keywords that are accepted, new settings are put into effect. -/
theorem perform_get_of_ok (given : keywords ≠ [])
    (built : (sourcesIn m.surroundings keywords).build = .ok c) :
    (get keywords).perform call m = (.done (.config m.configs.size),
      { m with configs := m.configs.push c, current := some m.configs.size }) := by
  rw [perform_get]
  exact bind_of_done (getConfig_of_ok (.inr given) built) _

/-- With keywords that are not, a new fault says so, and those in effect stay so. -/
theorem perform_get_of_error (given : keywords ≠ [])
    (refused : (sourcesIn m.surroundings keywords).build = .error f) :
    (get keywords).perform call m = (.raised m.heap.size, m.push (.fault (invalidSettings f))) := by
  rw [perform_get]
  exact bind_of_raised (getConfig_of_error (.inr given) refused) _

/-- A condition that does not hold comes down to the violation of its side. -/
theorem callRoutine_assertion_false (call : Caller) (side : Side) (message : String)
    (m : Machine) : callRoutine call (.assertion side .plain) [.bool false, .text message] [] m =
      (violate (side.violation message)).perform call m := by
  have checked : callRoutine call (.assertion side .plain) [.bool false, .text message] [] m =
      (do failCheck call side (.text message); return .null : Act Value) m := rfl
  rw [checked]
  unfold failCheck
  simp only [bind_assoc, raise_bind]
  rfl

theorem perform_reset (call : Caller) (m : Machine) :
    reset.perform call m = (.done .null, { m with current := none }) :=
  rfl

/-- A violation is reported by the settings that a look-up gives, and raised. -/
theorem perform_violate {fault : Fault} {kind : Kind} {message : String}
    {own : List (String × String)} (legible : Legible call fault kind (.text message) own)
    (bare : m.Bare) (settled : m.settled? = some (i, n)) :
    (violate fault).perform call m = (.raised m.heap.size, (n.push (.fault fault)).reported
      ("Contract " ++ kind.text ++ " violated: " ++ message)
      ([("dbc.kind", kind.text), ("dbc.message", message),
        ("dbc.profile", Profile.checked.text)] ++ own)) := by
  have settled' : (m.push (.fault fault)).settled? = some (i, n.push (.fault fault)) := by
    rw [Machine.settled?_push, settled]
    rfl
  have bare' : (n.push (.fault fault)).Bare :=
    ((Machine.Since.settled settled).trans (.push n _)).bare bare
  have reported := reportViolation_of_settled legible (bare.intact.tells_push _)
    (Machine.cell_push_size m (.fault fault)) settled'
  have wish : (n.push (.fault fault)).asksForEvents i = (n.push (.fault fault)).putsOnSpan := by
    have none : (n.push (.fault fault)).attachedTo (.config i) = [] := by
      simp [Machine.attachedTo, bare'.attached]
    have current := Machine.current_of_settled settled'
    simp [Machine.asksForEvents, Machine.putsOnSpan, none, Fields.get?, current]
  rw [wish] at reported
  change (alloc (.fault fault) >>= fun e =>
    reportViolation call (.ref e) >>= fun _ => raise e) m = _
  rw [bind_of_done (alloc_apply _ m), bind_of_done reported]
  exact raise_of_handling ((Machine.handling_reported _ _ _).trans bare'.free) _

end Act

open Act

variable {call : Caller} {m m₀ n : Machine} {i j : Nat} {c c' env : Settings} {d : ConfigDeed}
  {deeds later : List ConfigDeed} {around : Surroundings}

namespace Machine

/-- On a machine on which a look-up gives settings, a deed can keep them, put others into effect or
take those in effect back. -/
theorem Holds.perform_cases (holds : m.Holds i c) (bare : m.Bare) (fits : d.Fits call) :
    (d.Keeps m.surroundings ∧ m.Since (d.perform call m).2 ∧ (d.perform call m).2.Holds i c) ∨
    (∃ keywords c', d = .get keywords ∧ keywords ≠ [] ∧
      (sourcesIn m.surroundings keywords).build = .ok c') ∨
    d = .reset := by
  obtain ⟨n, settled, stored⟩ := id holds
  have since := Since.settled settled
  have current := current_of_settled settled
  cases d with
  | get keywords =>
    by_cases given : keywords = []
    · subst given
      rw [perform_get_of_settled settled]
      exact .inl ⟨.inl rfl, since, holds_of_current current stored⟩
    · cases read : (sourcesIn m.surroundings keywords).build with
      | ok c' => exact .inr (.inl ⟨keywords, c', rfl, given, read⟩)
      | error f =>
        rw [perform_get_of_error given read]
        exact .inl ⟨.inr ⟨f, read⟩, .push m _, holds.push _⟩
  | reset => exact .inr (.inr rfl)
  | violate f =>
    obtain ⟨kind, message, own, legible⟩ := fits
    rw [perform_violate legible bare settled]
    obtain ⟨same, same'⟩ := current_reported (n.push (.fault f))
      ("Contract " ++ kind.text ++ " violated: " ++ message) ([("dbc.kind", kind.text),
        ("dbc.message", message), ("dbc.profile", Profile.checked.text)] ++ own)
    exact .inl ⟨trivial, (since.trans (.push n _)).trans (.reported _ _ _),
      holds_of_current (same.trans current) (by rw [same']; exact stored)⟩

/-- Accepted keywords put settings of their own into effect. -/
theorem holds_get {keywords : Fields} (given : keywords ≠ [])
    (built : (sourcesIn m.surroundings keywords).build = .ok c) :
    ((ConfigDeed.get keywords).perform call m).2.Holds m.configs.size c := by
  rw [perform_get_of_ok given built]
  exact holds_of_current rfl Array.getElem?_push_size

/-- After a reset the next look-up builds settings from the surroundings. -/
theorem holds_reset (built : (sourcesIn m.surroundings []).build = .ok env) :
    (ConfigDeed.reset.perform call m).2.Holds m.configs.size env := by
  rw [perform_reset]
  exact holds_of_build rfl built

/-- What a deed does to a machine on which a look-up gives settings. -/
theorem Holds.since (holds : m.Holds i c) (bare : m.Bare) (fits : d.Fits call) :
    m.Since (d.perform call m).2 := by
  obtain ⟨-, since, -⟩ | ⟨keywords, c', rfl, given, built⟩ | rfl := holds.perform_cases bare fits
  · exact since
  · rw [perform_get_of_ok given built]
    exact ⟨rfl, Nat.le_refl _, fun _ _ => rfl⟩
  · rw [perform_reset]
    exact ⟨rfl, Nat.le_refl _, fun _ _ => rfl⟩

/-- A deed that is no reset and puts no settings into effect leaves those that a look-up gives. -/
theorem Holds.keep (holds : m.Holds i c) (bare : m.Bare) (fits : d.Fits call)
    (keeps : d.Keeps m.surroundings) : (d.perform call m).2.Holds i c := by
  obtain ⟨-, -, still⟩ | ⟨keywords, c', rfl, given, built⟩ | rfl := holds.perform_cases bare fits
  · exact still
  · obtain ⟨f, refused⟩ := keeps.resolve_left given
    rw [built] at refused
    cases refused
  · cases keeps

theorem Holds.exists_perform (holds : m.Holds i c) (bare : m.Bare) (fits : d.Fits call)
    (built : (sourcesIn m.surroundings []).build = .ok env) :
    ∃ j c', (d.perform call m).2.Holds j c' := by
  obtain ⟨-, -, still⟩ | ⟨keywords, c', rfl, given, accepted⟩ | rfl :=
    holds.perform_cases bare fits
  · exact ⟨i, c, still⟩
  · exact ⟨_, c', holds_get given accepted⟩
  · exact ⟨_, env, holds_reset built⟩

theorem Holds.lookup (holds : m.Holds i c) (call : Caller) :
    ∃ k, (ConfigDeed.get []).perform call m = (.done (.config i), k) ∧ k.configs[i]? = some c := by
  obtain ⟨n, settled, stored⟩ := holds
  exact ⟨n, perform_get_of_settled settled, stored⟩

/-- A violation is raised after a warning has been recorded, and after an event if the settings that
a look-up gives ask for it and the span records. -/
theorem Holds.violate {f : Fault} {kind : Kind} {message : String} {own : List (String × String)}
    (holds : m.Holds i c) (bare : m.Bare) (legible : Legible call f kind (.text message) own) :
    ∃ k, (ConfigDeed.violate f).perform call m = (.raised m.heap.size, k) ∧
      k.cell m.heap.size = .fault f ∧
      k.trace = (if c.emitSpanEvents = true ∧ m.span = .recording then
          [.event (.text Act.violationEvent) (([("dbc.kind", kind.text), ("dbc.message", message),
            ("dbc.profile", Profile.checked.text)] ++ own).map fun p => (.text p.1, .text p.2))]
        else []) ++
        .log .warning .assertions ("Contract " ++ kind.text ++ " violated: " ++ message) ::
          m.trace := by
  obtain ⟨n, settled, stored⟩ := holds
  obtain ⟨rest, -⟩ := rest_of_settled settled
  have heap : n.heap = m.heap := by rw [rest]
  have trace : n.trace = m.trace := by rw [rest]
  have span : n.span = m.span := by rw [rest]
  have wish : (n.push (.fault f)).putsOnSpan = c.emitSpanEvents := by
    change n.putsOnSpan = _
    simp [putsOnSpan, current_of_settled settled, Array.getD_eq_getD_getElem?, stored]
  refine ⟨_, perform_violate legible bare settled, ?_, ?_⟩
  · rw [(Since.reported _ _ _).cell _ (by simp [heap]), ← heap, cell_push_size]
  · rw [trace_reported, wish]
    change (if c.emitSpanEvents = true then n.spanEvent _ else []) ++ _ :: n.trace = _
    unfold spanEvent
    rw [trace, span]
    cases c.emitSpanEvents <;> cases m.span <;> simp

/-- Settings that a look-up gives can be told by the machine. -/
theorem Holds.unique (h : m.Holds i c) (h' : m.Holds j c') : i = j ∧ c = c' := by
  obtain ⟨n, settled, stored⟩ := h
  obtain ⟨k, settled', stored'⟩ := h'
  rw [settled] at settled'
  cases settled'
  exact ⟨rfl, Option.some.inj (stored.symm.trans stored')⟩

end Machine

/-! ## Runs -/

namespace ConfigDeed

/-- After any deeds there are settings for a look-up, and the rest is as it was. -/
theorem since_performAll (bare : m.Bare)
    (built : (sourcesIn m.surroundings []).build = .ok env) (holds : m.Holds i c)
    (fits : ∀ d ∈ deeds, d.Fits call) :
    m.Since (performAll call m deeds) ∧ ∃ j c', (performAll call m deeds).Holds j c' := by
  induction deeds generalizing m i c with
  | nil => exact ⟨.refl m, i, c, holds⟩
  | cons d deeds ih =>
    have fit := fits d List.mem_cons_self
    have since := holds.since bare fit
    obtain ⟨j, c', holds'⟩ := holds.exists_perform bare fit built
    obtain ⟨rest, settled⟩ := ih (since.bare bare) (by rw [since.surroundings]; exact built) holds'
      fun d mem => fits d (List.mem_cons_of_mem _ mem)
    exact ⟨since.trans rest, settled⟩

/-- Deeds that keep the settings in effect leave those that a look-up gives. -/
theorem holds_performAll (holds : m.Holds i c) (bare : m.Bare)
    (keep : ∀ d ∈ deeds, d.Keeps m.surroundings ∧ d.Fits call) :
    (performAll call m deeds).Holds i c := by
  induction deeds generalizing m with
  | nil => exact holds
  | cons d deeds ih =>
    obtain ⟨keeps, fit⟩ := keep d List.mem_cons_self
    have since := holds.since bare fit
    refine ih (holds.keep bare fit keeps) (since.bare bare) fun d mem => ?_
    rw [since.surroundings]
    exact keep d (List.mem_cons_of_mem _ mem)

theorem performAll_append (call : Caller) (m : Machine) (deeds later : List ConfigDeed) :
    performAll call m (deeds ++ later) = performAll call (performAll call m deeds) later :=
  List.foldl_append

end ConfigDeed

namespace InForce

/-- Deeds that keep the settings in effect do not matter. -/
theorem append (h : InForce around deeds c) (keep : ∀ d ∈ later, d.Keeps around) :
    InForce around (deeds ++ later) c := by
  have both {after : List ConfigDeed} (keep' : ∀ d ∈ after, d.Keeps around) :
      ∀ d ∈ after ++ later, d.Keeps around := by
    intro d mem
    rcases List.mem_append.1 mem with mem | mem
    · exact keep' d mem
    · exact keep d mem
  cases h with
  | keywords last given built keep' =>
    exact .keywords (by rw [last, List.append_assoc, List.cons_append]) given built (both keep')
  | reset last built keep' =>
    exact .reset (by rw [last, List.append_assoc, List.cons_append]) built (both keep')
  | start built keep' => exact .start built (both keep')

/-- Where settings can be built from the surroundings, there are always some in force. -/
theorem exists_of_build (built : (sourcesIn around []).build = .ok env)
    (deeds : List ConfigDeed) : ∃ c, InForce around deeds c := by
  have none : ∀ d ∈ ([] : List ConfigDeed), d.Keeps around := by simp
  induction deeds using List.reverseRecOn with
  | nil => exact ⟨env, .start built none⟩
  | append_singleton deeds d ih =>
    obtain ⟨c, before⟩ := ih
    have kept (keeps : d.Keeps around) : InForce around (deeds ++ [d]) c :=
      before.append fun d' mem => by rw [List.mem_singleton.1 mem]; exact keeps
    cases d with
    | get keywords =>
      by_cases given : keywords = []
      · exact ⟨c, kept (.inl given)⟩
      · cases read : (sourcesIn around keywords).build with
        | ok c' => exact ⟨c', .keywords rfl given read none⟩
        | error f => exact ⟨c, kept (.inr ⟨f, read⟩)⟩
    | reset => exact ⟨env, .reset rfl built none⟩
    | violate f => exact ⟨c, kept trivial⟩

end InForce

namespace ConfigDeed

/-- The last deed that does not keep the settings decides what a look-up gives. -/
theorem exists_holds_of_last {before after : List ConfigDeed} (bare : m.Bare)
    (holds : m.Holds i env) (built : (sourcesIn m.surroundings []).build = .ok env)
    (fits : ∀ d' ∈ before ++ d :: after, d'.Fits call)
    (keep : ∀ d' ∈ after, d'.Keeps m.surroundings)
    (decides : ∀ k : Machine, k.surroundings = m.surroundings →
      ∃ j, (d.perform call k).2.Holds j c) :
    ∃ j, (performAll call m (before ++ d :: after)).Holds j c := by
  obtain ⟨since, j, c', held⟩ := since_performAll bare built holds
    fun d mem => fits d (List.mem_append_left _ mem)
  have fit := fits d (List.mem_append_right _ List.mem_cons_self)
  have bare' := since.bare bare
  have since' := held.since bare' fit
  obtain ⟨j, held'⟩ := decides _ since.surroundings
  refine ⟨j, ?_⟩
  rw [performAll_append]
  refine holds_performAll (m := (d.perform call (performAll call m before)).2) held'
    (since'.bare bare') fun d mem => ⟨?_, ?_⟩
  · rw [since'.surroundings, since.surroundings]
    exact keep d mem
  · exact fits d (List.mem_append_right _ (List.mem_cons_of_mem _ mem))

/-- What a look-up gives are the settings in force. -/
theorem exists_holds_of_inForce (bare : m.Bare) (holds : m.Holds i env)
    (built : (sourcesIn m.surroundings []).build = .ok env) (fits : ∀ d ∈ deeds, d.Fits call)
    (inForce : InForce m.surroundings deeds c) :
    ∃ j, (performAll call m deeds).Holds j c := by
  cases inForce with
  | keywords last given accepted keep =>
    subst last
    refine exists_holds_of_last bare holds built fits keep fun k same => ⟨k.configs.size, ?_⟩
    exact Machine.holds_get given (by rw [same]; exact accepted)
  | reset last accepted keep =>
    subst last
    refine exists_holds_of_last bare holds built fits keep fun k same => ⟨k.configs.size, ?_⟩
    exact Machine.holds_reset (by rw [same]; exact accepted)
  | start accepted keep =>
    have same : env = c := Except.ok.inj (built.symm.trans accepted)
    rw [← same]
    exact ⟨i, holds_performAll holds bare fun d mem => ⟨keep d mem, fits d mem⟩⟩

end ConfigDeed

/-! ## Processes -/

namespace Session.Launch

open ConfigDeed Script

variable {l : Launch}

/-- A process that has started has been left alone, and has the settings of its surroundings. -/
theorem holds_of_start (started : l.start = .ok m₀) :
    ∃ env, (sourcesIn l.surroundings []).build = .ok env ∧ m₀.Holds 0 env ∧ m₀.Bare ∧
      m₀.surroundings = l.surroundings ∧ m₀.span = l.span := by
  cases built : (sourcesIn l.surroundings []).build with
  | error f =>
    rw [start_of_error built] at started
    cases started
  | ok env =>
    obtain ⟨p, selects⟩ := exists_selects built l.optimized
    rw [start_of_ok built selects] at started
    cases started
    exact ⟨env, rfl, Machine.holds_of_current rfl rfl, ⟨rfl, rfl, rfl⟩, rfl, rfl⟩

/-- At every point of a run of a process whose environment is accepted: a look-up gives the settings
in force, and goes on to give the same ones, under the same index, as long as the deeds that follow
keep them. Those in force are built with the last accepted keywords, and no others, so what these do
not name is as the environment has it. Keywords that are not accepted are reported, and nothing else
happens. A violation, such as that of a condition that does not hold, is raised after a warning, and
after an event if and only if the settings in force ask for events and the span records. Nothing but
what has been made, the settings and what has been recorded is ever different from the start; the
global names stand for what they stood for. -/
theorem settings_in_force_over_runs (depth : Nat) (l : Launch) (m₀ : Machine)
    (started : l.start = .ok m₀) (deeds : List ConfigDeed)
    (fits : ∀ d ∈ deeds, d.Fits (callWithin depth)) :
    let call := callWithin depth
    let run := performAll call m₀
    let m := run deeds
    let build keywords := (sourcesIn l.surroundings keywords).build
    let Given i c n := ∃ k, (get []).perform call n = (.done (.config i), k) ∧
      k.configs[i]? = some c
    ∃ env c, build [] = .ok env ∧ InForce l.surroundings deeds c ∧
      (∀ c', InForce l.surroundings deeds c' → c' = c) ∧
      (∃ i, Given i c m ∧ ∀ later, (∀ d ∈ later, d.Keeps l.surroundings ∧ d.Fits call) →
        Given i c (run (deeds ++ later))) ∧
      (∀ keywords c', keywords ≠ [] → build keywords = .ok c' →
        (∃ k, (get keywords).perform call m = (.done (.config m.configs.size), k)) ∧
        (∀ later, (∀ d ∈ later, d.Keeps l.surroundings ∧ d.Fits call) →
          Given m.configs.size c' (run (deeds ++ get keywords :: later))) ∧
        ∀ x : Setting, Unnamed keywords x.name → x.stored c' = x.stored env) ∧
      (∀ keywords f, keywords ≠ [] → build keywords = .error f →
        (get keywords).perform call m =
          (.raised m.heap.size, m.push (.fault (invalidSettings f)))) ∧
      (∀ f kind message own, Legible call f kind (.text message) own →
        ∃ k, (violate f).perform call m = (.raised m.heap.size, k) ∧
          k.cell m.heap.size = .fault f ∧
          k.trace = (if c.emitSpanEvents = true ∧ l.span = .recording then
              [.event (.text violationEvent) (([("dbc.kind", kind.text), ("dbc.message", message),
                ("dbc.profile", Profile.checked.text)] ++ own).map fun p =>
                  (.text p.1, .text p.2))]
            else []) ++
            .log .warning .assertions ("Contract " ++ kind.text ++ " violated: " ++ message) ::
              m.trace) ∧
      (∀ side message, callWithin (depth + 1) (.routine (.assertion side .plain))
        [.bool false, .text message] [] m = (violate (side.violation message)).perform call m) ∧
      m₀.Since m ∧ ∀ name, globalValue? m name = globalValue? m₀ name := by
  intro call run m build Given
  obtain ⟨env, built, held, bare₀, around, span⟩ := holds_of_start started
  have built₀ : (sourcesIn m₀.surroundings []).build = .ok env := by rw [around]; exact built
  obtain ⟨since, -⟩ := since_performAll bare₀ built₀ held fits
  have bare : m.Bare := since.bare bare₀
  have around' : m.surroundings = l.surroundings := since.surroundings.trans around
  have holds_of (c : Settings) (inForce : InForce l.surroundings deeds c) : ∃ i, m.Holds i c :=
    exists_holds_of_inForce bare₀ held built₀ fits (by rw [around]; exact inForce)
  obtain ⟨c, inForce⟩ := InForce.exists_of_build built deeds
  obtain ⟨i, holds⟩ := holds_of c inForce
  refine ⟨env, c, built, inForce, fun c' other => ?_, ⟨i, holds.lookup call, ?_⟩, ?_, ?_, ?_,
    fun side message => callRoutine_assertion_false call side message m, since, fun name => ?_⟩
  · obtain ⟨j, holds'⟩ := holds_of c' other
    exact (holds'.unique holds).2
  · intro later keep
    have still := holds_performAll holds bare (by rw [around']; exact keep)
    rw [← performAll_append] at still
    exact still.lookup call
  · intro keywords c' given accepted
    have accepted' : (sourcesIn m.surroundings keywords).build = .ok c' := by
      rw [around']
      exact accepted
    refine ⟨⟨_, perform_get_of_ok given accepted'⟩, fun later keep => ?_,
      fun x unnamed => Sources.stored_of_unnamed unnamed accepted built⟩
    have since' : m.Since ((get keywords).perform call m).2 := holds.since bare trivial
    have still := holds_performAll (Machine.holds_get given accepted') (since'.bare bare)
      (by rw [since'.surroundings, around']; exact keep)
    have split : run (deeds ++ get keywords :: later) =
        performAll call ((get keywords).perform call m).2 later :=
      performAll_append call m₀ deeds (get keywords :: later)
    rw [← split] at still
    exact still.lookup call
  · intro keywords f given refused
    exact perform_get_of_error given (by rw [around']; exact refused)
  · intro f kind message own legible
    have raised := holds.violate bare legible
    rw [since.span, span] at raised
    exact raised
  · unfold globalValue?
    rw [since.active]

/-- Events that have been switched off are switched on again by a reset; the profile stays. -/
theorem settings_in_force_over_runs_reset :
    let l : Launch := ⟨⟨[("DBCORE_PROFILE", "fast")], none⟩, false, .recording⟩
    let call := callWithin 0
    let off : ConfigDeed := .get [("emit_span_events", .bool false)]
    let fail : ConfigDeed := .violate (Side.pre.violation "low")
    ∃ m₀, l.start = .ok m₀ ∧ (∀ d ∈ [off, fail, .reset], d.Fits call) ∧
      (∃ i k, (get []).perform call (performAll call m₀ [off, fail]) = (.done (.config i), k) ∧
        k.configs[i]? = some ⟨"unchecked", false, "warning"⟩) ∧
      ∃ i k, (get []).perform call (performAll call m₀ [off, fail, .reset]) =
          (.done (.config i), k) ∧
        k.configs[i]? = some ⟨"unchecked", true, "warning"⟩ := by
  intro l call off fail
  have started : l.start = .ok _ :=
    start_of_ok (l := l) (c := ⟨"unchecked", true, "warning"⟩) rfl .unchecked
  have fits : ∀ d ∈ [off, fail, .reset], d.Fits call := by
    simp only [List.mem_cons, List.not_mem_nil, or_false]
    rintro d (rfl | rfl | rfl)
    · trivial
    · exact ⟨_, _, _, legible_violation call .pre "low"⟩
    · trivial
  refine ⟨_, started, fits, ?_, ?_⟩
  · obtain ⟨env, c, -, -, unique, ⟨i, given, -⟩, -⟩ :=
      settings_in_force_over_runs 0 l _ started [off, fail]
        fun d mem => fits d (List.mem_append_left [ConfigDeed.reset] mem)
    have inForce : InForce l.surroundings [off, fail] ⟨"unchecked", false, "warning"⟩ := by
      refine @InForce.keywords _ _ _ [] [fail] _ rfl nofun rfl fun d mem => ?_
      rw [List.mem_singleton.1 mem]
      trivial
    rw [← unique _ inForce] at given
    exact ⟨i, given⟩
  · obtain ⟨env, c, -, -, unique, ⟨i, given, -⟩, -⟩ :=
      settings_in_force_over_runs 0 l _ started [off, fail, .reset] fits
    have inForce : InForce l.surroundings [off, fail, .reset] ⟨"unchecked", true, "warning"⟩ :=
      @InForce.reset _ _ _ [off, fail] [] rfl rfl (by simp)
    rw [← unique _ inForce] at given
    exact ⟨i, given⟩

end Session.Launch

end Covenant
