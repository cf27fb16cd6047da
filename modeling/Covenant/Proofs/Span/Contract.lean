import Covenant.Contract.Active
import Covenant.Contract.Method
import Covenant.Contract.Profile
import Covenant.Proofs.Span.Arithmetic

/-!
# Contracts and the span

The report of a violation is the one place where the span is asked for. An event is added to a span
that records, and that is the only difference between the spans (`addSpanEvent_cases`); nothing that
looks up the data of the event depends on it, and nothing comes after it
(`emitViolation_eq_eventData?`). So a report is impartial, and so is all that checks, since it tells
the span of violations by reports alone.

On a calm machine nothing is recorded while the data are looked up, and they are those of the
warning (`adds_reportViolation`), provided that the violation tells what it was made with. A check
makes its violation itself; what it puts into it is then to be a text, and a checkpoint where one is
named (`Way.Asks`).
-/

namespace Covenant

namespace Act

variable {way : Way} {call : Caller} [∀ f args named, Impartial way (call f args named)]

/-! ## Signatures -/

instance (s : Signature) (args : List Value) (named : Fields) :
    Impartial way (matched s args named) := by
  unfold matched
  split <;> infer_instance

/-! ## Settings -/

instance (keywords : Fields) : Impartial way (buildSettings keywords) := by
  unfold buildSettings
  refine .seq (.read fun _ _ => rfl) fun _ => ?_
  split
  · infer_instance
  · exact .of_trace (fun _ _ _ => rfl) (fun _ => rfl) fun _ => ⟨rfl, rfl, Nat.le_refl _⟩

instance (keywords : Fields) : Impartial way (getConfig keywords) := by
  unfold getConfig
  refine .seq (.read fun _ _ => rfl) fun _ => ?_
  split
  · infer_instance
  · refine .seq inferInstance fun _ => ?_
    refine .seq (.update (fun _ _ => rfl) (fun _ => rfl) fun _ => ⟨rfl, rfl, Nat.le_refl _⟩)
      fun _ => ?_
    infer_instance

instance : Impartial way (resetConfig) := by
  unfold resetConfig
  exact .update (fun _ _ => rfl) (fun _ => rfl) fun _ => ⟨rfl, rfl, Nat.le_refl _⟩

instance (i : Nat) : Impartial way (settingsAt i) := by
  unfold settingsAt
  exact .read fun _ _ => rfl

instance : Impartial way (currentSettings) := by
  unfold currentSettings
  infer_instance

/-! ## Violations -/

instance (cls : FaultClass) (message : Value) : Impartial way (newViolation cls message) := by
  unfold newViolation
  infer_instance

instance (subjectType checkpoint detail : Value) :
    Impartial way (invariantMessage call subjectType checkpoint detail) := by
  unfold invariantMessage
  infer_instance

instance (subjectType checkpoint detail cause : Value) :
    Impartial way (invariantFields call subjectType checkpoint detail cause) := by
  unfold invariantFields
  infer_instance

instance (subjectType checkpoint detail cause : Value) :
    Impartial way (newInvariantError call subjectType checkpoint detail cause) := by
  unfold newInvariantError
  infer_instance

/-! ## Reporting on the span -/

/-- Putting data into words always succeeds and leaves the machine. -/
theorem exists_mapM_inWords (call : Caller) (entries : List (Value × Value)) (m : Machine) :
    ∃ data, (entries.mapM fun (k, v) => do
      let key ← inWords call k
      return (key, ← inWords call v)) m = (.done data, m) := by
  induction entries with
  | nil => exact ⟨[], rfl⟩
  | cons p rest ih =>
    obtain ⟨data, put⟩ := ih
    obtain ⟨words, here⟩ : ∃ words, (do
        let key ← inWords call p.1
        return (key, ← inWords call p.2)) m = (.done words, m) := ⟨_, rfl⟩
    refine ⟨words :: data, ?_⟩
    rw [List.mapM_cons, bind_of_done here, bind_of_done put]
    rfl

/-- Adding an event puts one on a span that records, and does nothing under any other. -/
theorem addSpanEvent_cases (call : Caller) (name attributes : Value) (m : Machine) :
    addSpanEvent call name attributes m = (.done (), m) ∨
      m.span = .recording ∧ ∃ (title : Answer) (data : List (Answer × Answer)),
        addSpanEvent call name attributes m = (.done (), m.noting (.event title data)) := by
  unfold addSpanEvent
  rw [read_bind]
  cases m.span with
  | none => exact .inl rfl
  | nonRecording => exact .inl rfl
  | recording =>
    refine .inr ⟨rfl, ?_⟩
    dsimp only
    rw [inWords, read_bind]
    cases attributes with
    | ref r =>
      dsimp only
      rw [load_bind]
      cases m.cell r with
      | dict entries =>
        dsimp only
        obtain ⟨data, put⟩ := exists_mapM_inWords call entries m
        rw [bind_of_done put]
        exact ⟨_, data, rfl⟩
      | _ => exact ⟨_, [], rfl⟩
    | _ => exact ⟨_, [], rfl⟩

theorem indifferent_addSpanEvent (call : Caller) (name attributes : Value) :
    Indifferent (addSpanEvent call name attributes) := by
  intro m s quiet
  have here : addSpanEvent call name attributes (m.under s) = (.done (), m.under s) := by
    rcases addSpanEvent_cases call name attributes (m.under s) with same | ⟨records, -⟩
    · exact same
    · exact absurd records quiet
  rw [here]
  rcases addSpanEvent_cases call name attributes m with same | ⟨-, title, data, added⟩
  · rw [same]
  · rw [added, Machine.event_under]

instance (name attributes : Value) : Impartial .freely (addSpanEvent call name attributes) where
  indifferent := indifferent_addSpanEvent call name attributes
  adds m _ := by
    rcases addSpanEvent_cases call name attributes m with same | ⟨-, title, data, added⟩
    · exact ⟨[], congrArg (·.2.trace) same, trivial, fun _ => Way.Loose.holds _⟩
    · exact ⟨[.event title data], congrArg (·.2.trace) added, trivial, fun _ => Way.Loose.holds _⟩

/-- The data of the event that reports a violation, if the settings ask for one. -/
def eventData? (call : Caller) (e : Value) : Act (Option Value) := do
  let settings := Value.config (← getConfig [])
  if ← truth call (← getAttribute call settings "emit_span_events") then do
    let kind ← getAttribute call (← getAttribute call e "kind") "value"
    let message ← getAttribute call e "message"
    let common : Fields :=
      [("dbc.kind", kind), ("dbc.message", message), ("dbc.profile", .text Profile.checked.text)]
    let isInvariant ← read fun m => m.isSubclass (m.classOf e) (.known (.fault .invariantError))
    let own ← if isInvariant then do
        let subject ← getAttribute call e "subject_type"
        let place ← getAttribute call (← getAttribute call e "checkpoint") "value"
        pure [("dbc.subject_type", subject), ("dbc.checkpoint", place)]
      else pure []
    return some (← allocValue (.dict ((common ++ own).map fun (name, v) => (.text name, v))))
  else return none

/-- The event comes last when a violation is put on the span. -/
theorem emitViolation_eq_eventData? (call : Caller) (e : Value) :
    emitViolation call e =
      (do
        match ← eventData? call e with
        | some attributes => addSpanEvent call (.text violationEvent) attributes
        | none => pure ()) := by
  simp only [emitViolation, eventData?, bind_assoc]
  refine bind_congr fun i => bind_congr fun flag => bind_congr fun asked => ?_
  split
  · simp only [bind_assoc]
    refine bind_congr fun _ => bind_congr fun _ => bind_congr fun _ => ?_
    refine bind_congr fun isInvariant => ?_
    cases isInvariant <;> simp
  · simp

instance (e : Value) : Impartial way (eventData? call e) := by
  unfold eventData?
  refine .seq inferInstance fun _ => ?_
  dsimp only
  refine .seq inferInstance fun _ => .seq inferInstance fun _ => ?_
  split
  · refine .seq inferInstance fun _ => ?_
    refine .seq inferInstance fun _ => .seq inferInstance fun _ => ?_
    exact .seq (.read fun _ _ => by simp) inferInstance
  · infer_instance

theorem indifferent_emitViolation (way : Way) (call : Caller)
    [∀ f args named, Impartial way (call f args named)] (e : Value) :
    Indifferent (emitViolation call e) := by
  have looked : Impartial way (eventData? call e) := inferInstance
  rw [emitViolation_eq_eventData?]
  refine looked.indifferent.bind fun data? => ?_
  cases data? with
  | none => exact (.pure () : Impartial way _).indifferent
  | some attributes => exact indifferent_addSpanEvent call _ attributes

/-- Putting a violation on the span records what looking up the data does, and the event then. -/
theorem exists_emitViolation_trace (way : Way) [way.Loose] (call : Caller)
    [∀ f args named, Impartial way (call f args named)] (e : Value) (m : Machine) :
    ∃ between, way.Good between ∧
      ((emitViolation call e m).2.trace = between ++ m.trace ∨ ∃ name data,
        (emitViolation call e m).2.trace = .event name data :: (between ++ m.trace)) := by
  have looked : Impartial way (eventData? call e) := inferInstance
  obtain ⟨between, added, good, -⟩ := looked.adds m (Way.Loose.holds m)
  refine ⟨between, good, ?_⟩
  rw [emitViolation_eq_eventData?]
  rcases here : eventData? call e m with ⟨o, n⟩
  rw [here] at added
  cases o with
  | raised f => rw [bind_of_raised here]; exact .inl added
  | exhausted => rw [bind_of_exhausted here]; exact .inl added
  | done data? =>
    rw [bind_of_done here]
    cases data? with
    | none => exact .inl added
    | some attributes =>
      rcases addSpanEvent_cases call (.text violationEvent) attributes n with
        same | ⟨-, name, data, put⟩
      · exact .inl ((congrArg (·.2.trace) same).trans added)
      · have noted : (n.noting (.event name data)).trace =
            .event name data :: (between ++ m.trace) := congrArg _ added
        exact .inr ⟨name, data, (congrArg (·.2.trace) put).trans noted⟩

/-- Where events are added freely, one may be added for a violation that is not reported. -/
instance {caller : Caller} [∀ f args named, Impartial .freely (caller f args named)] (e : Value) :
    Impartial .freely (emitViolation caller e) := by
  rw [emitViolation_eq_eventData?]
  refine .seq inferInstance fun _ => ?_
  split <;> infer_instance

/-- The text of the warning about a violation. -/
def warningOf (call : Caller) (e : Value) : Act String := do
  let kind ← getAttribute call (← getAttribute call e "kind") "value"
  let message ← getAttribute call e "message"
  let kind ← plainText call kind
  return "Contract " ++ kind ++ " violated: " ++ (← plainText call message)

/-- A report records the warning, and then the violation is put on the span. -/
theorem reportViolation_eq_warningOf (call : Caller) (e : Value) :
    reportViolation call e =
      (do
        log .warning .assertions (← warningOf call e)
        emitViolation call e) := by
  simp only [reportViolation, warningOf, bind_assoc, pure_bind]

instance (e : Value) : Impartial way (warningOf call e) := by
  unfold warningOf
  infer_instance

theorem indifferent_reportViolation (way : Way) (call : Caller)
    [∀ f args named, Impartial way (call f args named)] (e : Value) :
    Indifferent (reportViolation call e) := by
  have warned : Impartial way (warningOf call e) := inferInstance
  rw [reportViolation_eq_warningOf]
  refine warned.indifferent.bind fun text => ?_
  exact (.log .warning .assertions text : Impartial way _).indifferent.bind fun _ =>
    indifferent_emitViolation way call e

/-- The event about a violation follows the warning of the same report, so a report is impartial
also where no events may be added otherwise. -/
instance [loose : way.Loose] [reporting : way.Reporting] (e : Value) :
    Impartial way (reportViolation call e) where
  indifferent := indifferent_reportViolation way call e
  adds m holds := by
    have warned : Impartial way (warningOf call e) := inferInstance
    rw [reportViolation_eq_warningOf]
    refine (warned.adds m holds).bind fun text n _ _ => ?_
    -- the warning is recorded, and what follows can only end with the event
    change Adds way (fun m => emitViolation call e (m.noting (.log .warning .assertions text))) n
    obtain ⟨between, good, ends⟩ :=
      exists_emitViolation_trace way call e (n.noting (.log .warning .assertions text))
    have other : (Entry.log .warning .assertions text).isEvent = false := rfl
    rcases ends with same | ⟨name, data, added⟩
    · refine ⟨between ++ [.log .warning .assertions text], ?_, good.append (way.good_other other),
        fun _ => loose.holds _⟩
      rw [List.append_assoc]
      exact same
    · refine ⟨.event name data :: (between ++ [.log .warning .assertions text]), ?_, ?_,
        fun _ => loose.holds _⟩
      · rw [List.cons_append, List.append_assoc]
        exact added
      · cases way with
        | freely => trivial
        | abstaining => exact .report .nil good fun direct => Bool.noConfusion direct
        | guarded => exact absurd rfl reporting.ne
        | calmly => exact absurd rfl loose.ne

/-- On a calm machine the event of a violation that tells what is reported of it comes directly
after the warning. -/
theorem adds_reportViolation {m : Machine} {e : Ref} {f : Fault} {kind : Kind} {message : String}
    {own : List (String × String)} (legible : Legible call f kind (.text message) own)
    (calm : m.Calm) (tells : m.Tells e) (cell : m.cell e = .fault f) :
    Adds .calmly (reportViolation call (.ref e)) m := by
  have told : own = [] ∨ ∃ subject c,
      own = [("dbc.subject_type", subject), ("dbc.checkpoint", Checkpoint.text c)] := by
    have told := legible.own tells cell
    split at told
    · obtain ⟨subject, c, same, -⟩ := told
      exact .inr ⟨subject, c, same⟩
    · exact .inl told
  let text := "Contract " ++ kind.text ++ " violated: " ++ message
  have other : (Entry.log .warning .assertions text).isEvent = false := rfl
  unfold Adds
  cases settled : m.settled? with
  | none =>
    obtain ⟨failure, fails, -⟩ := reportViolation_of_unsettled legible tells cell settled
    rw [fails]
    exact ⟨[.log .warning .assertions text], rfl, .other other .nil,
      fun _ _ => calm.keeps ⟨rfl, rfl, by simp [Machine.warned]⟩⟩
  | some p =>
    obtain ⟨i, n⟩ := p
    have rest := (Machine.rest_of_settled settled).1
    have kept : m.Keeps n := ⟨by rw [rest], by rw [rest], Nat.le_of_eq (by rw [rest])⟩
    have trace : n.trace = m.trace := by rw [rest]
    rw [reportViolation_of_settled legible tells cell settled]
    dsimp only
    cases n.asksForEvents i with
    | false =>
      refine ⟨[.log .warning .assertions text], ?_, .other other .nil, fun _ _ => ?_⟩
      · exact congrArg _ trace
      · exact (calm.keeps kept).keeps ⟨rfl, rfl, Nat.le_refl _⟩
    | true =>
      rw [if_pos rfl]
      let entries := [("dbc.kind", kind.text), ("dbc.message", message),
        ("dbc.profile", Profile.checked.text)] ++ own
      refine ⟨n.spanEvent entries ++ [.log .warning .assertions text], ?_, ?_, fun _ _ => ?_⟩
      · rw [List.append_assoc]
        exact congrArg (n.spanEvent entries ++ .log .warning .assertions text :: ·) trace
      · unfold Machine.spanEvent
        cases n.span with
        | recording =>
          exact .report .nil .nil fun _ => ⟨rfl, kind, message, own, rfl, rfl, rfl, told⟩
        | none => exact .other other .nil
        | nonRecording => exact .other other .nil
      · exact (calm.keeps kept).keeps ⟨rfl, rfl, by simp [Machine.withSpanEvent, Machine.warned]⟩

end Act

/-! ## What checks are given -/

namespace Value

/-- Whether a value is a plain text. -/
def isPlainText : Value → Bool
  | .text _ => true
  | _ => false

/-- Whether a value is a checkpoint. -/
def isCheckpoint : Value → Bool
  | .member (.checkpoint _) => true
  | _ => false

/-- Whether a value is no member of an enumeration. -/
def isNoMember : Value → Bool
  | .member _ => false
  | _ => true

variable {v : Value}

theorem exists_of_isPlainText (plain : v.isPlainText = true) : ∃ s, v = .text s := by
  cases v with
  | text s => exact ⟨s, rfl⟩
  | _ => cases plain

theorem exists_of_isCheckpoint (place : v.isCheckpoint = true) :
    ∃ c, v = .member (.checkpoint c) := by
  unfold isCheckpoint at place
  split at place
  · exact ⟨_, rfl⟩
  · cases place

/-- Apart from plain texts only members are texts. -/
theorem isPlainText_of_isText (isText : v.isText = true) (other : v.isNoMember = true) :
    v.isPlainText = true := by
  cases v with
  | text s => rfl
  | member x => cases other
  | _ => cases isText

end Value

namespace Act

variable {way : Way} {call : Caller} [∀ f args named, Impartial way (call f args named)]

instance (s : String) : way.Asks (Value.text s).isPlainText :=
  ⟨fun _ => rfl⟩

instance (s : String) : way.Asks (Value.text s).isNoMember :=
  ⟨fun _ => rfl⟩

instance (c : Checkpoint) : way.Asks (Value.member (.checkpoint c)).isCheckpoint :=
  ⟨fun _ => rfl⟩

/-! ## Checks -/

instance [reporting : way.Reporting] (side : Side) (message : Value)
    [asked : way.Asks message.isPlainText] : Impartial way (failCheck call side message) := by
  rcases way.eq_calmly_or_loose with rfl | loose
  · obtain ⟨s, rfl⟩ := Value.exists_of_isPlainText (asked.holds rfl)
    have made : Impartial .calmly (newViolation side.faultClass (.text s)) := inferInstance
    have flies (e : Ref) : Impartial .calmly (raise e : Act Unit) := inferInstance
    refine ⟨made.indifferent.bind fun e => ?_, fun m calm => ?_⟩
    · exact (indifferent_reportViolation .calmly call (.ref e)).bind fun _ => (flies e).indifferent
    · refine (made.adds m calm).bind fun e n ran holds => ?_
      obtain ⟨rfl, rfl⟩ := Prod.mk.inj ((newViolation_apply side s m).symm.trans ran) |>.imp
        Outcome.done.inj id
      have reported := adds_reportViolation (legible_violation call side s) (holds rfl)
        ((calm rfl).tells_push _) (Machine.cell_push_size m _)
      exact reported.bind fun _ k _ => (flies _).adds k
  · unfold failCheck
    infer_instance

instance [way.Reporting] (side : Side) (condition message : Value)
    [asked : way.Asks message.isNoMember] :
    Impartial way (checkCondition call side condition message) := by
  unfold checkCondition
  split
  · next isText =>
    have : way.Asks message.isPlainText :=
      ⟨fun calmly => Value.isPlainText_of_isText isText (asked.holds calmly)⟩
    infer_instance
  · infer_instance

instance (validator : Value) : Impartial way (asPredicate.itself validator) := by
  unfold asPredicate.itself
  infer_instance

instance (validator : Value) : Impartial way (asPredicate call validator) := by
  unfold asPredicate
  refine .seq inferInstance fun _ => ?_
  split <;> infer_instance

instance [way.Reporting] (side : Side) (value validator message : Value)
    [asked : way.Asks message.isNoMember] :
    Impartial way (checkValue call side value validator message) := by
  unfold checkValue
  split
  · next isText =>
    have : way.Asks message.isPlainText :=
      ⟨fun calmly => Value.isPlainText_of_isText isText (asked.holds calmly)⟩
    infer_instance
  · infer_instance

instance (template : Value) (args : List Value) (named : Fields) :
    Impartial way (fillIn call template args named) := by
  unfold fillIn
  split <;> infer_instance

instance [way.Reporting] (side : Side) (condition template : Value)
    [asked : way.Asks template.isPlainText] (args : List Value) (named : Fields) :
    Impartial way (checkFormatted call side condition template args named) := by
  rcases way.eq_calmly_or_loose with rfl | loose
  · obtain ⟨s, rfl⟩ := Value.exists_of_isPlainText (asked.holds rfl)
    unfold checkFormatted fillIn
    simp only [bind_assoc, pure_bind]
    infer_instance
  · unfold checkFormatted
    infer_instance

instance [way.Reporting] (side : Side) (condition expression : Value) :
    Impartial way (checkContext call side condition expression) := by
  unfold checkContext
  infer_instance

/-! ## Invariants -/

instance (c : ClassRef) (name : String) : Impartial way (inherited? call c name) := by
  unfold inherited?
  refine .seq inferInstance fun _ => ?_
  split
  · refine .seq inferInstance fun _ => ?_
    split <;> infer_instance
  · infer_instance

instance (c : ClassRef) : Impartial way (currentInvariant? call c) := by
  unfold currentInvariant?
  refine .seq inferInstance fun _ => ?_
  split <;> infer_instance

instance (c : ClassRef) : Impartial way (findInvariant call c) := by
  unfold findInvariant
  refine .seq (.read fun _ _ => rfl) fun _ => ?_
  split
  · infer_instance
  · refine .seq inferInstance fun _ => ?_
    refine .seq (.update (fun _ _ => rfl) (fun _ => rfl) fun _ => ⟨rfl, rfl, Nat.le_refl _⟩)
      fun _ => ?_
    infer_instance

/-- A new violation of an invariant is a broken one, and its report is impartial. -/
theorem exists_brokenBy_of_done {m n : Machine} {r : Ref} {name : String} {c : Checkpoint}
    {detail cause : Value} (honest : m.Honest)
    (made : newInvariantError call (.text name) (.member (.checkpoint c)) detail cause m =
      (.done r, n)) :
    ∃ shownAs k, shown call detail m = (.done shownAs, k) ∧ r = k.heap.size ∧
      n = k.push (.fault (brokenBy name c detail shownAs cause)) := by
  have tells : TellsCheckpoints call m := tellsCheckpoints_of_honest honest
  have told (s : String) (m : Machine) : shown call (.text s) m = (.done s, m) := rfl
  rcases read : shown call detail m with ⟨o, k⟩
  cases o with
  | done s =>
    rw [newInvariantError_brokenBy tells read] at made
    cases made
    exact ⟨s, k, rfl, rfl, rfl⟩
  | _ =>
    unfold newInvariantError invariantFields invariantMessage at made
    simp only [bind_assoc] at made
    rw [bind_of_done (told name m), bind_of_done (tells c), bind_of_done (told _ m)] at made
    first
    | rw [bind_of_raised read] at made; cases made
    | rw [bind_of_exhausted read] at made; cases made

/-- Making the violation of an invariant, reporting it and going on. -/
theorem Impartial.broken [reporting : way.Reporting] (subjectType checkpoint detail cause : Value)
    [whose : way.Asks subjectType.isPlainText] [place : way.Asks checkpoint.isCheckpoint]
    {rest : Ref → Act Unit} (each : ∀ r, Impartial way (rest r)) :
    Impartial way (do
      let r ← newInvariantError call subjectType checkpoint detail cause
      reportViolation call (.ref r)
      rest r) := by
  rcases way.eq_calmly_or_loose with rfl | loose
  · obtain ⟨name, rfl⟩ := Value.exists_of_isPlainText (whose.holds rfl)
    obtain ⟨c, rfl⟩ := Value.exists_of_isCheckpoint (place.holds rfl)
    have made : Impartial .calmly
        (newInvariantError call (.text name) (.member (.checkpoint c)) detail cause) :=
      inferInstance
    have shows : Impartial .calmly (shown call detail) := inferInstance
    refine ⟨made.indifferent.bind fun r => ?_, fun m calm => ?_⟩
    · exact (indifferent_reportViolation .calmly call (.ref r)).bind fun _ => (each r).indifferent
    · refine (made.adds m calm).bind fun r n ran holds => ?_
      obtain ⟨shownAs, k, read, rfl, rfl⟩ := exists_brokenBy_of_done (calm rfl).toHonest ran
      obtain ⟨-, -, -, after⟩ := shows.adds m calm
      rw [read] at after
      have reported := adds_reportViolation (legible_brokenBy call name c detail shownAs cause)
        (holds rfl) ((after nofun rfl).tells_push _) (Machine.cell_push_size k _)
      exact reported.bind fun _ k _ => (each _).adds k
  · infer_instance

instance [way.Reporting] (subjectType checkpoint : Value) (e : Ref)
    [way.Asks subjectType.isPlainText] [way.Asks checkpoint.isCheckpoint] :
    Impartial way (blame call subjectType checkpoint e) := by
  unfold blame
  refine .seq inferInstance fun cls => ?_
  split
  · have blamed : Impartial way (do
        let detail ← getAttribute call (.ref e) "message"
        let replacement ← newInvariantError call subjectType checkpoint detail (.ref e)
        reportViolation call (.ref replacement)
        raiseFrom replacement (some e)) :=
      .seq inferInstance fun detail => .broken subjectType checkpoint detail _ inferInstance
    infer_instance
  · infer_instance

instance [way.Reporting] (subjectType checkpoint : Value) [way.Asks subjectType.isPlainText]
    [way.Asks checkpoint.isCheckpoint] : Impartial way (failFalse call subjectType checkpoint) := by
  unfold failFalse
  exact .broken subjectType checkpoint _ _ inferInstance

instance [way.Reporting] (subject checkpoint : Value) [way.Asks checkpoint.isCheckpoint] :
    Impartial way (checkInvariant call subject checkpoint) := by
  unfold checkInvariant
  refine .seq inferInstance fun _ => .seq inferInstance fun _ => ?_
  split
  · infer_instance
  · refine .seq inferInstance fun _ => ?_
    refine .seq inferInstance fun _ => .seq inferInstance fun _ => ?_
    refine .seq inferInstance fun _ => .seq inferInstance fun _ => ?_
    split <;> infer_instance

instance [way.Reporting] (subject : Value) (c : Checkpoint) :
    Impartial way (checkAt call subject c) := by
  unfold checkAt
  infer_instance

/-! ## Runners -/

instance (e : Ref) : Impartial way (isOrdinary e) := by
  unfold isOrdinary
  infer_instance

instance [way.Reporting] (subject old : Value) (body : Body)
    [∀ old subject, Impartial way (body old subject)] :
    Impartial way (runStrict call subject old body) := by
  unfold runStrict
  refine .seq inferInstance fun _ => .seq inferInstance fun _ => ?_
  split <;> infer_instance

instance [way.Reporting] (subject old : Value) (body : Body)
    [∀ old subject, Impartial way (body old subject)] :
    Impartial way (runErrorTolerant call subject old body) := by
  unfold runErrorTolerant
  infer_instance

instance {α : Type} (e : Enumeration) (v : Value) :
    Impartial way (failMember call e v : Act α) := by
  unfold failMember
  infer_instance

instance (v : Value) (members : List Member) :
    Impartial way (memberEqualTo? call v members) := by
  induction members with
  | nil => exact .pure none
  | cons m rest ih =>
    rw [memberEqualTo?]
    infer_instance

instance (e : Enumeration) (v : Value) : Impartial way (foreignMember? call e v) := by
  unfold foreignMember?
  refine .seq inferInstance fun _ => ?_
  split <;> infer_instance

instance (e : Enumeration) (v : Value) : Impartial way (enumMember call e v) := by
  unfold enumMember
  split
  · split <;> infer_instance
  · refine .seq inferInstance fun _ => ?_
    split <;> infer_instance

instance (mode : Value) : Impartial way (coerceMode call mode) := by
  unfold coerceMode
  infer_instance

instance [way.Reporting] (mode : Mode) (subject old : Value) (body : Body)
    [∀ old subject, Impartial way (body old subject)] :
    Impartial way (runIn call mode subject old body) := by
  unfold runIn
  split <;> infer_instance

instance [way.Reporting] (subject old : Value) (body : Body) (mode : Value)
    [∀ old subject, Impartial way (body old subject)] :
    Impartial way (runContract call subject old body mode) := by
  unfold runContract
  infer_instance

instance (subject old : Value) (body : Body) [∀ old subject, Impartial way (body old subject)] :
    Impartial way (runUnchecked subject old body) := by
  unfold runUnchecked
  infer_instance

instance [way.Reporting] (p : Profile) (subject old : Value) (body : Body) (mode : Value)
    [∀ old subject, Impartial way (body old subject)] :
    Impartial way (runUnder call p subject old body mode) := by
  unfold runUnder
  split <;> infer_instance

/-! ## The primitives -/

instance (check : Act Unit) [Impartial way check] : Impartial way (ifChecked check) := by
  unfold ifChecked
  refine .seq inferInstance fun _ => ?_
  split <;> infer_instance

instance [way.Reporting] (side : Side) (condition : Value) (message : String) :
    Impartial way (assertThat call side condition message) := by
  unfold assertThat
  infer_instance

instance [way.Reporting] (side : Side) (condition : Value) (expression : String) :
    Impartial way (assertContext call side condition expression) := by
  unfold assertContext
  infer_instance

instance [way.Reporting] (side : Side) (value validator : Value) (message : String) :
    Impartial way (assertValue call side value validator message) := by
  unfold assertValue
  infer_instance

instance [way.Reporting] (subject old : Value) (body : Body)
    [∀ old subject, Impartial way (body old subject)] :
    Impartial way (runActive call subject old body) := by
  unfold runActive
  refine .seq inferInstance fun _ => ?_
  split <;> infer_instance

instance [way.Reporting] (side : Side) (condition : Value) (template : String)
    (args : List Value) :
    Impartial way (assertFormatted call side condition template args) := by
  unfold assertFormatted
  infer_instance

/-! ## Contracted methods -/

instance (p : Profile) (snapshot mode : Value) :
    Impartial way (contractMethod call p snapshot mode) := by
  unfold contractMethod
  infer_instance

instance [way.Reporting] (p : Profile) (method : Function)
    [∀ args named, Impartial way (method args named)] (mode self : Value) (args : List Value)
    (named : Fields) :
    Impartial way (callMethod call p method none mode self args named) := by
  unfold callMethod
  infer_instance

instance [way.Reporting] (p : Profile) (method take : Function)
    [∀ args named, Impartial way (method args named)]
    [∀ args named, Impartial way (take args named)] (mode self : Value) (args : List Value)
    (named : Fields) :
    Impartial way (callMethod call p method (some take) mode self args named) := by
  unfold callMethod
  infer_instance

instance [way.Reporting] (p : Profile) (function snapshot mode self : Value) (args : List Value)
    (named : Fields) :
    Impartial way (callContracted call p function snapshot mode self args named) := by
  unfold callContracted
  dsimp only
  split <;> infer_instance

/-! ## Profiles -/

instance (v : Value) : Impartial way (profileOfValue call v) := by
  unfold profileOfValue
  refine .seq inferInstance fun _ => ?_
  split <;> infer_instance

instance (config : Value) : Impartial way (resolveProfile call config) := by
  unfold resolveProfile
  refine .seq inferInstance fun _ => ?_
  dsimp only
  split
  · refine .seq inferInstance fun _ => ?_
    refine .seq inferInstance fun _ => .seq inferInstance fun _ => ?_
    split
    · exact .seq (.read fun _ _ => rfl) inferInstance
    · infer_instance
  · refine .seq inferInstance fun _ => .seq inferInstance fun _ => ?_
    refine .seq inferInstance fun _ => .seq inferInstance fun _ => ?_
    split
    · exact .seq (.read fun _ _ => rfl) inferInstance
    · infer_instance

instance (profile : Value) : Impartial way (contractsFor call profile) := by
  unfold contractsFor
  infer_instance

instance : Impartial way (selectedProfile call) := by
  unfold selectedProfile
  refine .seq inferInstance fun _ => .seq (.read fun _ _ => rfl) fun _ => ?_
  split <;> infer_instance

end Act

end Covenant
