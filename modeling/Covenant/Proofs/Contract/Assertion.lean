import Covenant.Proofs.Contract.Report
import Covenant.Proofs.Contract.Unwinding
import Covenant.Proofs.Machine.Links
import Covenant.Script.Call

/-!
# Assertions report what they raise

`asks` is what an assertion does before it can fail: it takes its arguments apart, asks the
condition or the validator, and formats the message. All that is left to do after it is to raise the
violation if there is a message (`callAssertion_eq`), so an assertion that holds, or that ends with
a fault before its condition has turned out false, leaves the machine as that part has left it.

The violation is reported before it is raised (`reported_iff_raised`): the record is the first thing
after the message has been shown, then comes the event where the settings in effect wish it and the
span records, and then the violation. Both carry its kind and its message. Only where no settings
can be built is there a record without a violation (`unreadable_settings_hide_violation`).
-/

namespace Covenant

/-- The warning that a side records of a violation whose message is shown as a text. -/
def Side.warning (side : Side) (shownAs : String) : String :=
  "Contract " ++ side.kind.text ++ " violated: " ++ shownAs

/-- What the current span takes in of the violation of a failed check: an event with the kind, the
message and the profile if it records, and nothing else. -/
def Machine.violationEvent (m : Machine) (kind : Kind) (message : Answer) : List Entry :=
  match m.span with
  | .recording => [.event (.text Act.violationEvent) [(.text "dbc.kind", .text kind.text),
      (.text "dbc.message", message), (.text "dbc.profile", .text Profile.checked.text)]]
  | _ => []

/-- The machine on which the entries about a violation stand in a dictionary. -/
def Machine.withEntries (m : Machine) (kind : Kind) (message : Value) : Machine :=
  m.push (.dict ((violationFields kind message []).map fun (name, v) => (.text name, v)))

/-- The machine after the report of a violation with the message `v`: a warning is recorded, and
where the settings `i` wish it, entries about the violation are put on the span. -/
def Machine.afterReport (m : Machine) (side : Side) (v : Value) (s : String) (a : Answer)
    (i : Nat) : Machine :=
  let warned := m.warned (side.warning s)
  if m.asksForEvents i then
    { warned.withEntries side.kind v with trace := m.violationEvent side.kind a ++ warned.trace }
  else warned

namespace Act

variable {call : Caller} {side : Side} {v : Value} {s : String} {a : Answer} {m k p q : Machine}
  {e : Ref} {i : Nat}

/-! ## Asking, and then failing -/

/-- Asks whether something holds: nothing comes of it if it does, or else the message. -/
def messageUnless (holds : Act Bool) (message : Act Value) : Act (Option Value) := do
  if ← holds then return none else return some (← message)

/-- What an assertion does before it can fail: nothing comes of it if what is asserted holds, or
else the message of the violation. -/
def asks (call : Caller) (side : Side) (shape : Shape) (args : List Value) (named : Fields) :
    Act (Option Value) := do
  let title := routineName (.assertion side shape)
  match shape with
  | .plain => do
    let a ← matched (.exactly title [.placed "condition_or_value", .placed "message_or_validator",
      ⟨"message", true, true⟩]) args named
    match a.values[2]?.join with
    | none =>
      if (a.value 1).isText then messageUnless (truth call (a.value 0)) (pure (a.value 1))
      else
        fail .typeError (side.verb ++ "(condition, message) expects a str message, got " ++
          (← typeName (a.value 1)) ++ "; the validator form is " ++ side.verb ++
          "(value, validator, message)")
    | some message =>
      if message.isText then do
        let predicate ← asPredicate call (a.value 1)
        let verdict ← call predicate [a.value 0] []
        messageUnless (truth call verdict) (pure message)
      else
        fail .typeError (side.verb ++ "(value, validator, message) expects a str message, got " ++
          (← typeName message))
  | .formatted => do
    let a ← matched ⟨title, [.placed "condition", .placed "template"], true, true⟩ args named
    messageUnless (truth call (a.value 0)) (fillIn call (a.value 1) a.rest a.others)
  | .context => do
    let a ← matched (.exactly title [.placed "condition", .placed "expr_text"]) args named
    messageUnless (truth call (a.value 0)) do
      return .text (side.title ++ " failed: " ++ (← shown call (a.value 1)))

/-- Raises the violation if there is a message for it. -/
def failIf (call : Caller) (side : Side) : Option Value → Act Unit
  | none => pure ()
  | some message => failCheck call side message

/-- What holds is left alone, and what does not fails with its message. -/
theorem messageUnless_bind (holds : Act Bool) (message : Act Value) :
    (messageUnless holds message >>= failIf call side) =
      (do if ← holds then pure () else failCheck call side (← message)) := by
  unfold messageUnless
  rw [bind_assoc]
  congr 1
  funext b
  cases b with
  | true => exact pure_bind _ _
  | false =>
    simp only [Bool.false_eq_true, if_false, bind_assoc, pure_bind]
    rfl

section

variable {α β γ : Type}

/-- What follows a failure is not done. -/
theorem failText_bind (text : Act String) (cls : FaultClass) (g : String → String) (f : α → Act β) :
    ((text >>= fun s => (fail cls (g s) : Act α)) >>= f) = (text >>= fun s => fail cls (g s)) := by
  rw [bind_assoc]
  congr 1
  funext s
  exact fail_bind _ _ f

/-- What is done after an action can be done in two parts. -/
theorem bind_of_parts {x : Act α} {f : α → Act γ} {g : α → Act β} {h : β → Act γ}
    (parts : ∀ a, f a = g a >>= h) : x >>= f = (x >>= g) >>= h := by
  rw [bind_assoc]
  exact congrArg _ (funext parts)

end

/-- An assertion asks, and then fails if it has a reason to. -/
theorem callAssertion_eq (call : Caller) (side : Side) (shape : Shape) (args : List Value)
    (named : Fields) :
    callAssertion call side shape args named =
      asks call side shape args named >>= failIf call side := by
  unfold callAssertion asks
  cases shape with
  | plain =>
    refine bind_of_parts fun a => ?_
    cases a.values[2]?.join with
    | none =>
      dsimp only
      unfold checkCondition
      split
      · rw [messageUnless_bind]
        simp only [pure_bind]
      · rw [failText_bind]
    | some message =>
      dsimp only
      unfold checkValue
      split
      · simp only [bind_assoc, messageUnless_bind, pure_bind]
      · rw [failText_bind]
  | formatted =>
    refine bind_of_parts fun a => ?_
    rw [messageUnless_bind]
    rfl
  | context =>
    refine bind_of_parts fun a => ?_
    rw [messageUnless_bind]
    simp only [bind_assoc, pure_bind]
    rfl

/-! ## The report of a failed check -/

/-- Entries about a violation are put on the span if it records, and nothing else happens. -/
theorem putOnSpan_violationFields {kind : Kind}
    (answers : m.span = .recording →
      answer call v (m.withEntries kind v) = (.done a, m.withEntries kind v)) :
    putOnSpan call (violationFields kind v []) m = (.done (),
      { m.withEntries kind v with trace := m.violationEvent kind a ++ m.trace }) := by
  unfold putOnSpan
  rw [bind_of_done (allocValue_apply _ m)]
  unfold addSpanEvent Machine.violationEvent
  rw [read_bind]
  change (match m.span with | .recording => _ | _ => _ : Act Unit) (m.withEntries kind v) = _
  cases span : m.span with
  | none => rfl
  | nonRecording => rfl
  | recording =>
    have told (s : String) : inWords call (.text s) (m.withEntries kind v) =
        (.done (.text s), m.withEntries kind v) := inWords_of_done (answer_text s _)
    have stands : (m.withEntries kind v).cell m.heap.size = .dict
        [(.text "dbc.kind", .text kind.text), (.text "dbc.message", v),
          (.text "dbc.profile", .text Profile.checked.text)] :=
      Machine.cell_push_size m _
    dsimp only
    rw [bind_of_done (told _)]
    simp only [load_bind, stands, List.mapM_cons, List.mapM_nil, bind_assoc, pure_bind]
    rw [bind_of_done (told _), bind_of_done (told _), bind_of_done (told _),
      bind_of_done (inWords_of_done (answers span)), bind_of_done (told _), bind_of_done (told _)]
    rfl

/-- The violation that a check raises on a machine `q` can be reported: `p` is the machine on which
its message has been shown as `s`, and `k` the one with the settings `i` in effect. If an event is
due, the message is answered as `a`. -/
structure Reportable (call : Caller) (side : Side) (v : Value) (q : Machine) (s : String)
    (a : Answer) (p : Machine) (i : Nat) (k : Machine) : Prop where
  before : q.Intact
  shows : plainText call v (q.push (.fault (side.violationOf v))) = (.done s, p)
  after : p.Intact
  kept : p.cell q.heap.size = .fault (side.violationOf v)
  settled : p.settled? = some (i, k)
  answers : k.asksForEvents i = true → k.span = .recording →
    answer call v ((k.warned (side.warning s)).withEntries side.kind v) =
      (.done a, (k.warned (side.warning s)).withEntries side.kind v)

/-- What is recorded when such a violation is reported, latest first. -/
def reportEntries (side : Side) (s : String) (a : Answer) (i : Nat) (k : Machine) : List Entry :=
  (if k.asksForEvents i then k.violationEvent side.kind a else []) ++
    [.log .warning .assertions (side.warning s)]

/-- A text is shown and answered as it is. -/
theorem reportable_text (side : Side) (intact : q.Intact)
    (settled : (q.push (.fault (side.violation s))).settled? = some (i, k)) :
    Reportable call side (.text s) q s (.text s) (q.push (.fault (side.violation s))) i k where
  before := intact
  shows := plainText_text call s _
  after := intact.push _
  kept := Machine.cell_push_size q _
  settled := settled
  answers _ _ := answer_text s _

/-- The report of a violation that can be reported, as a whole. -/
theorem Reportable.report_eq (can : Reportable call side v q s a p i k) :
    reportViolation call (.ref q.heap.size) (q.push (.fault (side.violationOf v))) =
      (.done (), k.afterReport side v s a i) := by
  have legible := legible_violationOf call side v
  let warned := k.warned (side.warning s)
  have warns := reportViolation_eq legible (can.before.tells_push _) (Machine.cell_push_size q _)
    can.shows
  have tells : (p.warned (side.warning s)).Tells q.heap.size :=
    (can.after.tells can.kept).extend rfl rfl
  have trace : k.trace = p.trace := by rw [(Machine.rest_of_settled can.settled).1]
  have settled : (p.warned (side.warning s)).settled? = some (i, warned) := by
    refine (p.settled?_trace _).trans ?_
    rw [can.settled, Option.map_some]
    unfold warned Machine.warned
    rw [trace]
  have emits := emitViolation_eq legible tells (by exact can.kept) settled
  unfold Machine.afterReport
  cases wish : k.asksForEvents i with
  | false =>
    have quiet : warned.asksForEvents i = false := wish
    rw [quiet, if_neg nofun] at emits
    exact warns.trans emits
  | true =>
    have asked : warned.asksForEvents i = true := wish
    have put := putOnSpan_violationFields (m := warned) (can.answers wish)
    rw [asked, if_pos rfl, put] at emits
    exact warns.trans emits

/-- The report of a violation that can be reported records just that, and the violation stands. -/
theorem Reportable.reported (can : Reportable call side v q s a p i k) :
    ∃ n, reportViolation call (.ref q.heap.size) (q.push (.fault (side.violationOf v))) =
        (.done (), n) ∧
      n.trace = reportEntries side s a i k ++ p.trace ∧
      n.cell q.heap.size = .fault (side.violationOf v) := by
  have trace : k.trace = p.trace := by rw [(Machine.rest_of_settled can.settled).1]
  have stands : k.cell q.heap.size = .fault (side.violationOf v) :=
    (Machine.cell_of_settled can.settled _).trans can.kept
  refine ⟨_, can.report_eq, ?_, ?_⟩
  · unfold reportEntries Machine.afterReport
    rw [← trace]
    cases k.asksForEvents i with
    | false => rfl
    | true =>
      rw [if_pos rfl, if_pos rfl, List.append_assoc]
      rfl
  · unfold Machine.afterReport
    cases k.asksForEvents i with
    | false => exact stands
    | true => exact (Machine.cell_push_of_lt (Machine.lt_size_of_cell stands nofun)).trans stands

/-- A violation that can be reported is raised after its report. -/
theorem Reportable.failCheck (can : Reportable call side v q s a p i k) : ∃ n context,
    failCheck call side v q = (.raised q.heap.size, n) ∧
      n.trace = reportEntries side s a i k ++ p.trace ∧
      n.cell q.heap.size = .fault { side.violationOf v with context } := by
  obtain ⟨k', reported, trace, stands⟩ := can.reported
  obtain ⟨n, context, raised, rest, cell⟩ := exists_raise Unit stands
  have made : newViolation side.faultClass v q =
      (.done q.heap.size, q.push (.fault (side.violationOf v))) := rfl
  refine ⟨n, context, ?_, by rw [rest]; exact trace, cell⟩
  exact (bind_of_done made _).trans ((bind_of_done reported _).trans raised)

/-- What showing the message raises leaves a failed check. -/
theorem failCheck_of_unshown (intact : q.Intact)
    (fails : plainText call v (q.push (.fault (side.violationOf v))) = (.raised e, m)) :
    failCheck call side v q = (.raised e, m) := by
  have made : newViolation side.faultClass v q =
      (.done q.heap.size, q.push (.fault (side.violationOf v))) := rfl
  have unreported := (reportViolation_bind (legible_violationOf call side v)
    (intact.tells_push _) (Machine.cell_push_size q _)).trans (bind_of_raised fails _)
  exact (bind_of_done made _).trans (bind_of_raised unreported _)

/-- Without settings a failed check ends after the warning, with a fault that says so. -/
theorem failCheck_of_unsettled (intact : q.Intact)
    (shows : plainText call v (q.push (.fault (side.violationOf v))) = (.done s, p))
    (unsettled : p.settled? = none) : ∃ failure, failure.cls = .known (.fault .validationError) ∧
      failCheck call side v q =
        (.raised p.heap.size, (p.warned (side.warning s)).push (.fault failure)) := by
  have made : newViolation side.faultClass v q =
      (.done q.heap.size, q.push (.fault (side.violationOf v))) := rfl
  have warned := reportViolation_eq (legible_violationOf call side v) (intact.tells_push _)
    (Machine.cell_push_size q _) shows
  have unsettled' : (p.warned (side.warning s)).settled? = none :=
    (p.settled?_trace _).trans (by rw [unsettled]; rfl)
  obtain ⟨failure, fails, cls⟩ := emitViolation_of_unsettled call (.ref q.heap.size) unsettled'
  exact ⟨failure, cls, (bind_of_done made _).trans (bind_of_raised (warned.trans fails) _)⟩

/-! ## Calls of assertions -/

/-- The call of an assertion asks, fails if it has a reason to, and gives nothing. -/
theorem callRoutine_assertion (call : Caller) (side : Side) (shape : Shape) (args : List Value)
    (named : Fields) :
    callRoutine call (.assertion side shape) args named =
      asks call side shape args named >>= fun found =>
        failIf call side found >>= fun _ => pure .null := by
  have comes : callRoutine call (.assertion side shape) args named =
      callAssertion call side shape args named >>= fun _ => pure .null := rfl
  rw [comes, callAssertion_eq, bind_assoc]

/-- An assertion that has nothing to report ends as its asking has ended, on the very same machine.
One that has found its condition false makes a violation of its side with the message, and if that
can be reported, it is reported and raised: the warning with the kind and the message is recorded
once, then the event, if settings in effect wish it and the span records, and nothing besides. The
message is shown before, and if that fails nothing is recorded. Where no settings can be built, the
warning is recorded, and the fault that says so is raised in place of the violation. -/
theorem reported_iff_raised (call : Caller) (side : Side) (shape : Shape) (args : List Value)
    (named : Fields) (m : Machine) :
    let run := callRoutine call (.assertion side shape) args named m
    let asked := asks call side shape args named m
    (∀ n, asked = (.done none, n) → run = (.done .null, n)) ∧
    (∀ e n, asked = (.raised e, n) → run = (.raised e, n)) ∧
    (∀ n, asked = (.exhausted, n) → run = (.exhausted, n)) ∧
    ∀ v q, asked = (.done (some v), q) →
      let violation := Cell.fault (side.violationOf v)
      (∀ s a p i k, Reportable call side v q s a p i k → ∃ n context,
        run = (.raised q.heap.size, n) ∧ n.trace = reportEntries side s a i k ++ p.trace ∧
        n.cell q.heap.size = .fault { side.violationOf v with context }) ∧
      (∀ x n, q.Intact → plainText call v (q.push violation) = (.raised x, n) →
        run = (.raised x, n)) ∧
      ∀ s p, q.Intact → plainText call v (q.push violation) = (.done s, p) → p.settled? = none →
        ∃ failure, failure.cls = .known (.fault .validationError) ∧
          run = (.raised p.heap.size, (p.warned (side.warning s)).push (.fault failure)) := by
  intro run asked
  have ran := congrFun (callRoutine_assertion call side shape args named) m
  refine ⟨fun n ended => ?_, fun e n ended => ?_, fun n ended => ?_, fun v q ended => ?_⟩
  · exact ran.trans (bind_of_done ended _)
  · exact ran.trans (bind_of_raised ended _)
  · exact ran.trans (bind_of_exhausted ended _)
  · have failed : run = (failCheck call side v >>= fun _ => pure .null) q :=
      ran.trans (bind_of_done ended _)
    refine ⟨fun s a p i k can => ?_, fun x n intact fails => ?_, fun s p intact shows none => ?_⟩
    · obtain ⟨n, context, raised, trace, cell⟩ := can.failCheck
      exact ⟨n, context, failed.trans (bind_of_raised raised _), trace, cell⟩
    · exact failed.trans (bind_of_raised (failCheck_of_unshown intact fails) _)
    · obtain ⟨failure, cls, raised⟩ := failCheck_of_unsettled intact shows none
      exact ⟨failure, cls, failed.trans (bind_of_raised raised _)⟩

/-- A machine on which settings are in effect that ask for events, and whose span records. -/
def watched : Machine :=
  { threeFaults with current := some 0, span := .recording }

/-- A precondition that does not hold is reported by a warning and an event, and raised. -/
theorem reported_iff_raised_watched : ∃ n context,
    callRoutine (callWithin 1) (.assertion .pre .plain) [.bool false, .text "no funds"] [] watched =
      (.raised 5, n) ∧
    n.trace = [.event (.text Act.violationEvent) [(.text "dbc.kind", .text "precondition"),
        (.text "dbc.message", .text "no funds"), (.text "dbc.profile", .text "checked")],
      .log .warning .assertions "Contract precondition violated: no funds"] ∧
    n.cell 5 = .fault { Side.pre.violation "no funds" with context } := by
  have plain : watched.Plain := ⟨rfl, rfl, rfl, fun _ mem => absurd mem List.not_mem_nil⟩
  have can : Reportable (callWithin 1) .pre (.text "no funds") watched _ _ _ 0 _ :=
    reportable_text .pre plain.intact rfl
  have asked : asks (callWithin 1) .pre .plain [.bool false, .text "no funds"] [] watched =
      (.done (some (.text "no funds")), watched) := rfl
  obtain ⟨-, -, -, fails⟩ := reported_iff_raised (callWithin 1) .pre .plain
    [.bool false, .text "no funds"] [] watched
  exact (fails _ _ asked).1 _ _ _ _ _ can

/-- A machine without settings, in surroundings that name a profile that there is not. -/
def misconfigured : Machine :=
  { threeFaults with surroundings := ⟨[("DBCORE_PROFILE", "bogus")], none⟩ }

/-- A precondition that does not hold is reported there by a warning, and what is raised is the
fault about the settings. -/
theorem unreadable_settings_hide_violation : ∃ n,
    callRoutine (callWithin 1) (.assertion .pre .plain) [.bool false, .text "m"] [] misconfigured =
      (.raised 6, n) ∧
    n.faultClassAt 6 = .validationError ∧
    n.trace = [.log .warning .assertions "Contract precondition violated: m"] := by
  let failed := misconfigured.push (.fault (Side.pre.violation "m"))
  have intact : misconfigured.Intact :=
    ⟨fun _ _ _ => rfl, fun _ mem => absurd mem List.not_mem_nil,
      fun _ mem => absurd mem List.not_mem_nil, fun _ mem => absurd mem List.not_mem_nil⟩
  have unsettled : failed.settled? = none := Option.isNone_iff_eq_none.1 (by decide +kernel)
  have shows : plainText (callWithin 1) (.text "m") failed = (.done "m", failed) := rfl
  obtain ⟨failure, cls, raised⟩ := failCheck_of_unsettled intact shows unsettled
  refine ⟨(failed.warned (Side.pre.warning "m")).push (.fault failure), ?_,
    Machine.faultClassAt_of_cell (Machine.cell_push_size _ _) cls, rfl⟩
  have asked : asks (callWithin 1) .pre .plain [.bool false, .text "m"] [] misconfigured =
      (.done (some (.text "m")), misconfigured) := rfl
  rw [callRoutine_assertion, bind_of_done asked]
  exact bind_of_raised raised _

end Act

end Covenant
