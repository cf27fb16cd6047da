import Covenant.Contract.Check
import Covenant.Proofs.Contract.Intact
import Covenant.Proofs.Object.Number

/-!
# Reporting a violation

The violation of a failed check carries its message twice, as its only argument and as a field
(`Side.violation`); that of an invariant also names the subject and the checkpoint
(`brokenInvariant`). Reporting either on an intact machine reads what it has to tell
(`Act.Legible`), which leaves the machine alone, and records a warning (`reportViolation_eq`). Then
the settings are asked for, and where they wish it an event is put on the span
(`emitViolation_eq`). If there are no settings and none can be built, the report ends there
(`emitViolation_of_unsettled`).

On a plain machine settings are in effect, so a report never fails and writes to no cell
(`reportViolation_apply`), and a check that fails ends with its violation in flight
(`failCheck_apply`).
-/

namespace Covenant

/-- The kind of violation that a side reports. -/
def Side.kind : Side → Kind
  | .pre => .precondition
  | .post => .postcondition

/-- The violation that a failed check raises, with any message. -/
def Side.violationOf (side : Side) (message : Value) : Fault :=
  .fresh (.known (.fault side.faultClass)) [message] [("message", message)]

/-- The violation that a failed check raises. -/
def Side.violation (side : Side) (message : String) : Fault :=
  side.violationOf (.text message)

/-- The message of the violation of an invariant. -/
def brokenMessage (subject : String) (c : Checkpoint) (detail : String) : String :=
  "Invariant of " ++ subject ++ " violated on " ++ c.text ++ ": " ++ detail

/-- The violation of an invariant: whose it is, where it was checked, what was wrong, and the
violation behind it, if there is one. -/
def brokenInvariant (subject : String) (c : Checkpoint) (detail : String) (cause : Value) : Fault :=
  .fresh (.known (.fault .invariantError)) [.text (brokenMessage subject c detail)]
    [("subject_type", .text subject), ("checkpoint", .member (.checkpoint c)),
      ("detail", .text detail), ("cause", cause),
      ("message", .text (brokenMessage subject c detail))]

/-- The violation of an invariant whose detail is any value; `shown` is the text of the detail. -/
def brokenBy (subject : String) (c : Checkpoint) (detail : Value) (shown : String)
    (cause : Value) : Fault :=
  .fresh (.known (.fault .invariantError)) [.text (brokenMessage subject c shown)]
    [("subject_type", .text subject), ("checkpoint", .member (.checkpoint c)), ("detail", detail),
      ("cause", cause), ("message", .text (brokenMessage subject c shown))]

/-- What an event tells of a violated invariant. -/
def brokenEntries (subject : String) (c : Checkpoint) (message : String) :
    List (String × String) :=
  [("dbc.kind", Kind.invariant.text), ("dbc.message", message),
    ("dbc.profile", Profile.checked.text), ("dbc.subject_type", subject),
    ("dbc.checkpoint", c.text)]

/-- What is put on the span of a violation; a violated invariant has entries of its own. -/
def violationFields (kind : Kind) (message : Value) (own : List (String × String)) : Fields :=
  [("dbc.kind", .text kind.text), ("dbc.message", message),
    ("dbc.profile", .text Profile.checked.text)] ++ own.map fun p => (p.1, .text p.2)

/-- The machine on which a warning has been recorded. -/
def Machine.warned (m : Machine) (warning : String) : Machine :=
  { m with trace := .log .warning .assertions warning :: m.trace }

/-- Whether the settings in effect ask for violations to be put on the span. -/
def Machine.putsOnSpan (m : Machine) : Bool :=
  m.current.any fun i => (m.configs.getD i ⟨"auto", true, "warning"⟩).emitSpanEvents

/-- What the current span takes in of a violation that is put on it with some texts: an event if it
records, and nothing else. -/
def Machine.spanEvent (m : Machine) (entries : List (String × String)) : List Entry :=
  match m.span with
  | .recording => [.event (.text Act.violationEvent) (entries.map fun p => (.text p.1, .text p.2))]
  | _ => []

/-- The machine on which texts about a violation have been put on the span. -/
def Machine.withSpanEvent (m : Machine) (entries : List (String × String)) : Machine :=
  { m.push (.dict (entries.map fun p => (.text p.1, .text p.2))) with
    trace := m.spanEvent entries ++ m.trace }

/-- The machine on which a violation has been reported: a warning is recorded, and texts are put on
the span where that is wished. -/
def Machine.reported (m : Machine) (warning : String) (entries : List (String × String)) :
    Machine :=
  if m.putsOnSpan then (m.warned warning).withSpanEvent entries else m.warned warning

/-- Putting an event on the span writes to no cell. -/
theorem Machine.grows_withSpanEvent {m : Machine} (checked : m.active = .checked)
    (entries : List (String × String)) : m.Grows [] (m.withSpanEvent entries) := by
  have made := Machine.Grows.push [] m (.dict (entries.map fun p => (.text p.1, .text p.2)))
  unfold Machine.withSpanEvent Machine.spanEvent
  cases m.span with
  | recording => exact made.trans (.record [] (by exact checked) _)
  | none => exact made
  | nonRecording => exact made

@[simp] theorem Machine.handling_reported (m : Machine) (warning : String)
    (entries : List (String × String)) : (m.reported warning entries).handling = m.handling := by
  unfold Machine.reported
  split <;> rfl

/-- Reporting a violation writes to no cell. -/
theorem Machine.grows_reported {m : Machine} (checked : m.active = .checked) (warning : String)
    (entries : List (String × String)) : m.Grows [] (m.reported warning entries) := by
  have logged := Machine.Grows.record [] checked (.log .warning .assertions warning)
  unfold Machine.reported
  cases m.putsOnSpan with
  | false => exact logged
  | true => exact logged.trans (Machine.grows_withSpanEvent (by exact checked) entries)

namespace Act

variable {call : Caller} {m : Machine} {e : Ref} {side : Side} {message : String} {f : Fault}
  {k : Known} {name : String} {x : Value}

/-! ## What a fault tells -/

/-- The class of a fault that stands in a cell. -/
theorem classOf_fault (cell : m.cell e = .fault f) : m.classOf (.ref e) = f.cls := by
  simp [Machine.classOf, cell, Machine.cellClass]

/-- Reading an attribute of a fault comes down to looking it up by the usual rules. -/
theorem lookUpByClass_fault (untouched : m.Untouched (special "getattribute"))
    (cell : m.cell e = .fault f) (cls : f.cls = .known k)
    (usual : k.attribute? (special "getattribute") = none) (name : String) :
    lookUpByClass call (.ref e) name m = lookUpInObject call (.ref e) name m := by
  rw [lookUpByClass_of_untouched untouched ((classOf_fault cell).trans cls) usual]
  simp [lookUp, cell]

/-- The fields of a fault are in its cell. -/
theorem ownField?_fault (given : (m.attachedTo (.ref e)).get? name = none)
    (cell : m.cell e = .fault f) : ownField? (.ref e) name m = (.done (f.fields.get? name), m) := by
  have own : ownFields (.ref e) m = (.done f.fields, m) := by
    simp [ownFields, cell]
  unfold ownField?
  dsimp only
  rw [read_bind, given]
  exact bind_of_done own _

/-- A fault tells what stands in a field of its own. -/
theorem getAttribute_fault_field (plain : m.Plain) (cell : m.cell e = .fault f)
    (cls : f.cls = .known k) (usual : k.attribute? (special "getattribute") = none)
    (entry : k.entryOf? name = none) (own : f.fields.get? name = some x) :
    getAttribute call (.ref e) name m = (.done x, m) := by
  have given : (m.attachedTo (.ref e)).get? name = none := by
    rw [plain.attachedTo]
    rfl
  apply getAttribute_of_done
  rw [lookUpByClass_fault (plain.untouched _) cell cls usual]
  refine lookUpInObject_of_none (plain.untouched _) ((classOf_fault cell).trans cls) entry ?_
  rw [ownField?_fault given cell, own]

theorem getAttribute_fault_field_of_tells (tells : m.Tells e) (asked : name ∈ reportNames)
    (cell : m.cell e = .fault f) (cls : f.cls = .known k)
    (usual : k.attribute? (special "getattribute") = none) (entry : k.entryOf? name = none)
    (own : f.fields.get? name = some x) :
    getAttribute call (.ref e) name m = (.done x, m) := by
  have untouched := tells.honest.names (special "getattribute") (by simp [reportNames])
  apply getAttribute_of_done
  rw [lookUpByClass_fault untouched cell cls usual]
  refine lookUpInObject_of_none (tells.honest.names name asked) ((classOf_fault cell).trans cls)
    entry ?_
  rw [ownField?_fault (tells.own name asked) cell, own]

/-- A fault tells of which kind its class is. -/
theorem getAttribute_fault_kind {kind : Kind} (tells : m.Tells e) (cell : m.cell e = .fault f)
    (cls : f.cls = .known k) (usual : k.attribute? (special "getattribute") = none)
    (ordinary : k ≠ .snapshot) (entry : k.entryOf? "kind" = some (.set (.member (.kind kind))))
    (own : f.fields.get? "kind" = none) :
    getAttribute call (.ref e) "kind" m = (.done (.member (.kind kind)), m) := by
  have asked : "kind" ∈ reportNames := by simp [reportNames]
  have untouched := tells.honest.names (special "getattribute") (by simp [reportNames])
  apply getAttribute_of_done
  rw [lookUpByClass_fault untouched cell cls usual]
  rw [lookUpInObject_of_set (tells.honest.names _ asked) ((classOf_fault cell).trans cls) ordinary
    entry rfl ((ownField?_fault (tells.own _ asked) cell).trans (by rw [own]))]
  rfl

/-- What a fault tells when it is reported, where its answers have been left alone: its kind, its
message and, if it is the violation of an invariant, entries of its own, which say whose that is and
where it was checked. -/
structure Legible (call : Caller) (f : Fault) (kind : Kind) (message : Value)
    (own : List (String × String)) : Prop where
  kind : ∀ {m e}, m.Tells e → m.cell e = .fault f →
    getAttribute call (.ref e) "kind" m = (.done (.member (.kind kind)), m)
  message : ∀ {m e}, m.Tells e → m.cell e = .fault f →
    getAttribute call (.ref e) "message" m = (.done message, m)
  own : ∀ {m : Machine} {e : Ref}, m.Tells e → m.cell e = .fault f →
    if m.isSubclass f.cls (.known (.fault .invariantError)) then
      ∃ subject c, own = [("dbc.subject_type", subject), ("dbc.checkpoint", Checkpoint.text c)] ∧
        getAttribute call (.ref e) "subject_type" m = (.done (.text subject), m) ∧
        getAttribute call (.ref e) "checkpoint" m = (.done (.member (.checkpoint c)), m)
    else own = []

/-- The violation of a check tells its side and the message that it holds. -/
theorem legible_of_side {message : Value} (call : Caller) (side : Side)
    (cls : f.cls = .known (.fault side.faultClass)) (kind : f.fields.get? "kind" = none)
    (holds : f.fields.get? "message" = some message) : Legible call f side.kind message [] where
  kind tells cell := by
    have usual : (Known.fault side.faultClass).attribute? (special "getattribute") = none := by
      cases side <;> rfl
    have entry : (Known.fault side.faultClass).entryOf? "kind" =
        some (.set (.member (.kind side.kind))) := by
      cases side <;> rfl
    exact getAttribute_fault_kind tells cell cls usual nofun entry kind
  message tells cell := by
    have usual : (Known.fault side.faultClass).attribute? (special "getattribute") = none := by
      cases side <;> rfl
    have entry : (Known.fault side.faultClass).entryOf? "message" = none := by
      cases side <;> rfl
    exact getAttribute_fault_field_of_tells tells (by simp [reportNames]) cell cls usual entry holds
  own {m e} _ _ := by
    have other : m.isSubclass f.cls (.known (.fault .invariantError)) = false := by
      rw [cls]
      unfold Machine.isSubclass
      rw [Machine.lineage_known]
      cases side <;> rfl
    rw [other]
    rfl

/-- So does the violation of a failed check. -/
theorem legible_violationOf (call : Caller) (side : Side) (message : Value) :
    Legible call (side.violationOf message) side.kind message [] :=
  legible_of_side call side rfl rfl rfl

theorem legible_violation (call : Caller) (side : Side) (message : String) :
    Legible call (side.violation message) side.kind (.text message) [] :=
  legible_violationOf call side (.text message)

/-- The violation of an invariant tells its message, whose it is and where it was checked, if it
holds these. -/
theorem legible_of_invariant {message : Value} {subject : String} {c : Checkpoint} (call : Caller)
    (cls : f.cls = .known (.fault .invariantError)) (kind : f.fields.get? "kind" = none)
    (holds : f.fields.get? "message" = some message)
    (whose : f.fields.get? "subject_type" = some (.text subject))
    (place : f.fields.get? "checkpoint" = some (.member (.checkpoint c))) :
    Legible call f .invariant message
      [("dbc.subject_type", subject), ("dbc.checkpoint", c.text)] where
  kind tells cell := getAttribute_fault_kind tells cell cls rfl nofun rfl kind
  message tells cell :=
    getAttribute_fault_field_of_tells tells (by simp [reportNames]) cell cls rfl rfl holds
  own {m e} tells cell := by
    have isInvariant : m.isSubclass f.cls (.known (.fault .invariantError)) = true := by
      rw [cls]
      unfold Machine.isSubclass
      rw [Machine.lineage_known]
      rfl
    rw [isInvariant, if_pos rfl]
    exact ⟨subject, c, rfl,
      getAttribute_fault_field_of_tells tells (by simp [reportNames]) cell cls rfl rfl whose,
      getAttribute_fault_field_of_tells tells (by simp [reportNames]) cell cls rfl rfl place⟩

/-- The violation of a broken invariant tells all that is reported of it, whatever its detail is. -/
theorem legible_brokenBy (call : Caller) (name : String) (c : Checkpoint) (detail : Value)
    (shownAs : String) (cause : Value) :
    Legible call (brokenBy name c detail shownAs cause) .invariant
      (.text (brokenMessage name c shownAs))
      [("dbc.subject_type", name), ("dbc.checkpoint", c.text)] :=
  legible_of_invariant call rfl rfl rfl rfl rfl

/-- So does the one whose detail is a text. -/
theorem legible_brokenInvariant (call : Caller) (subject : String) (c : Checkpoint)
    (detail : String) (cause : Value) :
    Legible call (brokenInvariant subject c detail cause) .invariant
      (.text (brokenMessage subject c detail))
      [("dbc.subject_type", subject), ("dbc.checkpoint", c.text)] :=
  legible_brokenBy call subject c (.text detail) detail cause

/-! ## The report -/

/-- Enumerations leave look-up to the usual rules. -/
theorem usual_of_enumeration (e : Enumeration) :
    (Known.enumeration e).attribute? (special "getattribute") = none := by
  rw [← Option.isNone_iff_eq_none]
  cases e <;> with_unfolding_all decide

/-- The text of a member is worked out by its class. -/
theorem entryOf?_value (e : Enumeration) :
    (Known.enumeration e).entryOf? "value" = some (.natural (.enumeration e) .computed) := by
  have unset : (Known.enumeration e).fields.get? "value" = none := by
    rw [← Option.isNone_iff_eq_none]
    cases e <;> with_unfolding_all decide
  have nature : (Known.enumeration e).nature? "value" = some .computed := rfl
  simp [Known.entryOf?, Known.ownEntryOf?, unset, nature]

/-- The text of a member is kept in a field. -/
theorem exists_ownFields_member (honest : m.Honest) (x : Member) :
    ∃ fields, ownFields (.member x) m = (.done fields, m) ∧
      fields.get? "_value_" = some (.text x.text) := by
  unfold ownFields
  dsimp only
  rw [read_bind]
  cases found : m.attached.find? ((Value.member x).same ·.1) with
  | none => exact ⟨memberFields x, rfl, rfl⟩
  | some p =>
    obtain ⟨mem, same⟩ := Machine.exists_of_find?_attached found nofun
    exact ⟨p.2, rfl, honest.members p mem x same⟩

/-- A member tells its text unless a script has changed that or what its class has for it. -/
theorem getAttribute_value_of_own {x : Member} {fields : Fields}
    (own : ownFields (.member x) m = (.done fields, m))
    (holds : fields.get? "_value_" = some (.text x.text))
    (usual : m.Untouched (special "getattribute")) (value : m.Untouched "value") :
    getAttribute call (.member x) "value" m = (.done (.text x.text), m) := by
  have cls : m.classOf (.member x) = .known (.enumeration x.enumeration) := rfl
  have notClass : ("value" == special "class") = false := rfl
  have notDict : ("value" == special "dict") = false := rfl
  have field : "_" ++ "value" ++ "_" = "_value_" := rfl
  have part : computedPart? (.member x) (.enumeration x.enumeration) "value" m =
      (.done (some (.text x.text)), m) := by
    unfold computedPart?
    simp only [notClass, notDict, Bool.false_eq_true, if_false]
    rw [bind_of_done own, field, holds]
    rfl
  apply getAttribute_of_done
  rw [lookUpByClass_of_untouched usual cls (usual_of_enumeration _)]
  unfold lookUp lookUpInObject
  simp only [classOf_bind, read_bind, cls, value.entryOf?, entryOf?_value]
  change (computedPart? (.member x) (.enumeration x.enumeration) "value" >>= _) m = _
  rw [bind_of_done part]
  rfl

theorem getAttribute_value_of_untouched (attached : m.attached = [])
    (usual : m.Untouched (special "getattribute")) (value : m.Untouched "value") (x : Member) :
    getAttribute call (.member x) "value" m = (.done (.text x.text), m) := by
  have own : ownFields (.member x) m = (.done (memberFields x), m) := by
    unfold ownFields
    dsimp only
    rw [read_bind, attached]
    rfl
  exact getAttribute_value_of_own own rfl usual value

/-- On an honest machine a member tells its text. -/
theorem getAttribute_value (honest : m.Honest) (x : Member) :
    getAttribute call (.member x) "value" m = (.done (.text x.text), m) := by
  obtain ⟨fields, own, holds⟩ := exists_ownFields_member honest x
  exact getAttribute_value_of_own own holds (honest.names _ (by simp [reportNames]))
    (honest.names _ (by simp [reportNames]))

/-- Each checkpoint tells its own text. -/
def TellsCheckpoints (call : Caller) (m : Machine) : Prop :=
  ∀ c, getAttribute call (.member (.checkpoint c)) "value" m = (.done (.text c.text), m)

/-- On an honest machine the checkpoints tell their texts. -/
theorem tellsCheckpoints_of_honest (honest : m.Honest) : TellsCheckpoints call m :=
  fun c => getAttribute_value honest (.checkpoint c)

theorem tellsCheckpoints_of_intact (intact : m.Intact) : TellsCheckpoints call m :=
  tellsCheckpoints_of_honest intact.honest

theorem tellsCheckpoints_of_plain (plain : m.Plain) : TellsCheckpoints call m :=
  tellsCheckpoints_of_intact plain.intact

/-- On a plain machine settings are in effect, and they are as they were built. -/
theorem settled_of_plain (plain : m.Plain) :
    ∃ i, m.settled? = some (i, m) ∧ m.asksForEvents i = m.putsOnSpan := by
  obtain ⟨i, current⟩ := Option.isSome_iff_exists.1 plain.settings
  refine ⟨i, by simp [Machine.settled?, current], ?_⟩
  simp [Machine.asksForEvents, Machine.putsOnSpan, plain.attachedTo, Fields.get?, current]

/-- A text is answered as it is. -/
theorem answer_text (s : String) (m : Machine) :
    answer call (.text s) m = (.done (.text s), m) := by
  have depth : min reportDepth (m.heap.size + 4) = min (reportDepth - 1) (m.heap.size + 3) + 1 := by
    unfold reportDepth
    omega
  unfold answer
  rw [depth]
  rfl

/-- The words for a value are its answer. -/
theorem inWords_of_done {v : Value} {a : Answer} {n : Machine}
    (h : answer call v m = (.done a, n)) : inWords call v m = (.done a, m) := by
  unfold inWords
  rw [read_apply, h]

/-- Texts are put into words one after the other. -/
theorem inWords_texts (entries : List (String × String)) (m : Machine) :
    ((entries.map fun (p : String × String) => (Value.text p.1, Value.text p.2)).mapM
      fun (k, v) => do
        let key ← inWords call k
        return (key, ← inWords call v)) m =
      (.done (entries.map fun (p : String × String) => (Answer.text p.1, Answer.text p.2)), m) := by
  induction entries with
  | nil => rfl
  | cons p rest ih =>
    rw [List.map_cons, List.mapM_cons]
    simp only [bind_assoc]
    rw [bind_of_done (inWords_of_done (answer_text p.1 m)),
      bind_of_done (inWords_of_done (answer_text p.2 m)), pure_bind, bind_of_done ih]
    rfl

/-- An event about texts is added to the span if it records, and nothing else happens. -/
theorem addSpanEvent_texts (call : Caller) (m : Machine) (entries : List (String × String)) :
    (do
      let attributes ← allocValue (.dict (entries.map fun p => (.text p.1, .text p.2)))
      addSpanEvent call (.text violationEvent) attributes : Act Unit) m =
      (.done (), m.withSpanEvent entries) := by
  rw [bind_of_done (allocValue_apply _ m)]
  unfold addSpanEvent Machine.withSpanEvent Machine.spanEvent
  rw [read_bind]
  change (match m.span with | .recording => _ | _ => _ : Act Unit) _ = _
  cases m.span with
  | recording =>
    dsimp only
    rw [bind_of_done (inWords_of_done (answer_text violationEvent _))]
    simp only [load_bind, Machine.cell_push_size]
    rw [bind_of_done (inWords_texts entries _)]
    rfl
  | none => rfl
  | nonRecording => rfl

/-- Puts entries about a violation on the span. -/
def putOnSpan (call : Caller) (fields : Fields) : Act Unit := do
  let attributes ← allocValue (.dict (fields.map fun (name, v) => (.text name, v)))
  addSpanEvent call (.text violationEvent) attributes

/-- A violation is put on the span if the settings in effect wish it. -/
theorem emitViolation_eq {kind : Kind} {message : Value} {own : List (String × String)} {i : Nat}
    {n : Machine} (legible : Legible call f kind message own) (tells : m.Tells e)
    (cell : m.cell e = .fault f) (settled : m.settled? = some (i, n)) :
    emitViolation call (.ref e) m =
      if n.asksForEvents i then putOnSpan call (violationFields kind message own) n
      else (.done (), n) := by
  have tells' : n.Tells e := tells.settled settled
  have cell' : n.cell e = .fault f := (Machine.cell_of_settled settled e).trans cell
  unfold emitViolation
  rw [bind_of_done (getConfig_of_settled settled), bind_of_done (getAttribute_flag tells'.honest i),
    bind_of_done (truth_bool call _ n)]
  cases n.asksForEvents i with
  | false => rfl
  | true =>
    have told := legible.own tells' cell'
    rw [if_pos rfl, if_pos rfl, bind_of_done (legible.kind tells' cell'),
      bind_of_done (getAttribute_value tells'.honest _),
      bind_of_done (legible.message tells' cell')]
    cases isInvariant : n.isSubclass f.cls (.known (.fault .invariantError)) with
    | false =>
      rw [isInvariant, if_neg nofun] at told
      subst told
      simp only [read_bind, classOf_fault cell', isInvariant, Bool.false_eq_true, if_false,
        pure_bind]
      rfl
    | true =>
      rw [isInvariant, if_pos rfl] at told
      obtain ⟨subject, c, rfl, whose, checkpoint⟩ := told
      simp only [read_bind, classOf_fault cell', isInvariant, if_true]
      rw [bind_of_done whose, bind_of_done checkpoint,
        bind_of_done (getAttribute_value tells'.honest _)]
      rfl

/-- Without settings a violation is not put on the span, and a new fault says why. -/
theorem emitViolation_of_unsettled (call : Caller) (v : Value) (unsettled : m.settled? = none) :
    ∃ failure, emitViolation call v m = (.raised m.heap.size, m.push (.fault failure)) ∧
      failure.cls = .known (.fault .validationError) := by
  obtain ⟨failure, fails, cls⟩ := exists_getConfig_of_unsettled unsettled
  exact ⟨failure, bind_of_raised fails _, cls⟩

/-- A report shows the message, records a warning, and then the violation is put on the span. -/
theorem reportViolation_bind {kind : Kind} {message : Value} {own : List (String × String)}
    (legible : Legible call f kind message own) (tells : m.Tells e) (cell : m.cell e = .fault f) :
    reportViolation call (.ref e) m = (do
      let s ← plainText call message
      log .warning .assertions ("Contract " ++ kind.text ++ " violated: " ++ s)
      emitViolation call (.ref e) : Act Unit) m := by
  unfold reportViolation
  rw [bind_of_done (legible.kind tells cell), bind_of_done (getAttribute_value tells.honest _),
    bind_of_done (legible.message tells cell), bind_of_done (plainText_text call _ m)]
  rfl

theorem reportViolation_eq {kind : Kind} {message : Value} {own : List (String × String)}
    {s : String} {n : Machine} (legible : Legible call f kind message own) (tells : m.Tells e)
    (cell : m.cell e = .fault f) (shows : plainText call message m = (.done s, n)) :
    reportViolation call (.ref e) m =
      emitViolation call (.ref e) (n.warned ("Contract " ++ kind.text ++ " violated: " ++ s)) :=
  (reportViolation_bind legible tells cell).trans (bind_of_done shows _)

/-- The report of a violation whose message is a text, where settings are or can be put into
effect. -/
theorem reportViolation_of_settled {kind : Kind} {own : List (String × String)} {i : Nat}
    {n : Machine} (legible : Legible call f kind (.text message) own) (tells : m.Tells e)
    (cell : m.cell e = .fault f) (settled : m.settled? = some (i, n)) :
    let warned := n.warned ("Contract " ++ kind.text ++ " violated: " ++ message)
    reportViolation call (.ref e) m = (.done (), if n.asksForEvents i then
      warned.withSpanEvent ([("dbc.kind", kind.text), ("dbc.message", message),
        ("dbc.profile", Profile.checked.text)] ++ own) else warned) := by
  intro warned
  let start := m.warned ("Contract " ++ kind.text ++ " violated: " ++ message)
  have tells' : start.Tells e := tells.extend rfl rfl
  have settled' : start.settled? = some (i, warned) := by
    refine (m.settled?_trace _).trans ?_
    rw [settled, Option.map_some]
    have trace : n.trace = m.trace := by rw [(Machine.rest_of_settled settled).1]
    unfold warned Machine.warned
    rw [trace]
  rw [reportViolation_eq legible tells cell (plainText_text call message m),
    emitViolation_eq legible tells' (by exact cell) settled']
  have wish : warned.asksForEvents i = n.asksForEvents i := rfl
  rw [wish]
  cases n.asksForEvents i with
  | false => rfl
  | true =>
    have put := addSpanEvent_texts call warned ([("dbc.kind", kind.text), ("dbc.message", message),
      ("dbc.profile", Profile.checked.text)] ++ own)
    have entries : (violationFields kind (.text message) own).map
        (fun p => ((Value.text p.1, p.2) : Value × Value)) =
        ([("dbc.kind", kind.text), ("dbc.message", message),
          ("dbc.profile", Profile.checked.text)] ++ own).map
          fun p => (Value.text p.1, Value.text p.2) := by
      simp [violationFields]
    rw [if_pos rfl, if_pos rfl]
    unfold putOnSpan
    rw [entries]
    exact put

/-- Without settings the report ends after the warning, and a new fault says why. -/
theorem reportViolation_of_unsettled {kind : Kind} {own : List (String × String)}
    (legible : Legible call f kind (.text message) own) (tells : m.Tells e)
    (cell : m.cell e = .fault f) (unsettled : m.settled? = none) :
    ∃ failure, reportViolation call (.ref e) m = (.raised m.heap.size,
        (m.warned ("Contract " ++ kind.text ++ " violated: " ++ message)).push (.fault failure)) ∧
      failure.cls = .known (.fault .validationError) := by
  have unsettled' : (m.warned ("Contract " ++ kind.text ++ " violated: " ++ message)).settled? =
      none :=
    (m.settled?_trace _).trans (by rw [unsettled]; rfl)
  obtain ⟨failure, fails, cls⟩ := emitViolation_of_unsettled call (.ref e) unsettled'
  refine ⟨failure, ?_, cls⟩
  rw [reportViolation_eq legible tells cell (plainText_text call message m), fails]
  rfl

/-- The report of a violation on a plain machine. -/
theorem reportViolation_of_plain {kind : Kind} {own : List (String × String)}
    (legible : Legible call f kind (.text message) own) (plain : m.Plain)
    (cell : m.cell e = .fault f) :
    reportViolation call (.ref e) m = (.done (),
      m.reported ("Contract " ++ kind.text ++ " violated: " ++ message)
        ([("dbc.kind", kind.text), ("dbc.message", message),
          ("dbc.profile", Profile.checked.text)] ++ own)) := by
  obtain ⟨i, settled, wish⟩ := settled_of_plain plain
  rw [reportViolation_of_settled legible (plain.intact.tells cell) cell settled, wish]
  rfl

/-- The report of a violation. -/
theorem reportViolation_apply {kind : Kind} {own : List (String × String)}
    (legible : Legible call f kind (.text message) own) (plain : m.Plain)
    (cell : m.cell e = .fault f) :
    ∃ entries, reportViolation call (.ref e) m = (.done (),
      m.reported ("Contract " ++ kind.text ++ " violated: " ++ message) entries) :=
  ⟨_, reportViolation_of_plain legible plain cell⟩

/-- A new violation stands in a new cell. -/
theorem newViolation_apply (side : Side) (message : String) (m : Machine) :
    newViolation side.faultClass (.text message) m =
      (.done m.heap.size, m.push (.fault (side.violation message))) :=
  rfl

/-- The violation of an invariant is made from its subject and its detail. -/
theorem newInvariantError_brokenBy {n : Machine} {detail : Value} {shownAs : String}
    (tells : TellsCheckpoints call m) (read : shown call detail m = (.done shownAs, n))
    (name : String) (c : Checkpoint) (cause : Value) :
    newInvariantError call (.text name) (.member (.checkpoint c)) detail cause m =
      (.done n.heap.size, n.push (.fault (brokenBy name c detail shownAs cause))) := by
  have told (s : String) (m : Machine) : shown call (.text s) m = (.done s, m) := rfl
  unfold newInvariantError invariantFields invariantMessage
  simp only [bind_assoc]
  rw [bind_of_done (told name m), bind_of_done (tells c), bind_of_done (told _ m),
    bind_of_done read]
  rfl

/-- A check that fails raises its violation, which stands in a new cell, after a report of it. -/
theorem failCheck_eq (call : Caller) (plain : m.Plain) (free : m.handling = none) (side : Side)
    (message : String) :
    ∃ entries, failCheck call side (.text message) m = (.raised m.heap.size,
      (m.push (.fault (side.violation message))).reported
        ("Contract " ++ side.kind.text ++ " violated: " ++ message) entries) := by
  have made := Machine.Grows.push [] m (.fault (side.violation message))
  obtain ⟨entries, reported⟩ := reportViolation_apply (legible_violation call side message)
    (plain.grows made) (Machine.cell_push_size m _)
  refine ⟨entries, ?_⟩
  unfold failCheck
  rw [bind_of_done (newViolation_apply side message m), bind_of_done reported]
  exact raise_of_handling ((Machine.handling_reported (m.push _) _ _).trans free) m.heap.size

/-- A check that fails raises its violation. -/
theorem failCheck_apply (plain : m.Plain) (checked : m.active = .checked)
    (free : m.handling = none) (side : Side) (message : String) :
    ∃ e n, failCheck call side (.text message) m = (.raised e, n) ∧ m.Grows [] n ∧
      n.cell e = .fault (side.violation message) := by
  obtain ⟨entries, failed⟩ := failCheck_eq call plain free side message
  have grew := Machine.grows_reported (m := m.push (.fault (side.violation message)))
    (by exact checked) ("Contract " ++ side.kind.text ++ " violated: " ++ message) entries
  refine ⟨m.heap.size, _, failed, (Machine.Grows.push [] m _).trans grew, ?_⟩
  rw [grew.cell _ (by simp) (by simp), Machine.cell_push_size]

end Act

end Covenant
