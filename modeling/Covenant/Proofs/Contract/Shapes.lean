import Covenant.Proofs.Contract.Assertion
import Covenant.Proofs.Contract.Decoration
import Covenant.Proofs.Contract.Lookup

/-!
# The shapes of an assertion

Whatever its shape, an assertion comes to a condition with a message. The form with a validator
settles first which function stands behind the validator (`Machine.predicate?`), applies it to the
value, and goes on as the form with a condition does on the verdict (`validator_shapes_collapse`).
The form with a template asks the condition first, and goes on as the form with a message does once
the template has been filled in (`template_is_filled_in_late`).

What is wrong with the arguments is told before anything is asked of them. A fault of reading `run`
that is not about a missing attribute leaves the assertion as it is, and where a violation cannot be
reported something else is raised in its place (`validators_can_end_otherwise`).
-/

namespace Covenant

namespace Machine

/-- The function behind a validator for which `run` is what it has under that name: its `run` if
that can be called, or else itself. There is none behind a class with a `run` that can be called. -/
def predicate? (m : Machine) (validator : Value) (run : Option Value) : Option Value :=
  match validator, run.filter m.isCallable with
  | .cls _, some _ => none
  | _, some f => some f
  | _, none => if m.isCallable validator then some validator else none

/-- What is said of a validator behind which there is no function. -/
def unfitText (m : Machine) (validator : Value) : String :=
  match validator with
  | .cls c => "Validator " ++ m.className c ++ " is a class; pass an instance"
  | v => "Validator must be callable or expose a 'run' method, got " ++ m.typeName v

end Machine

/-- What is said of a message, of the given type, that is no text beside a condition. -/
def Side.conditionText (side : Side) (type : String) : String :=
  side.verb ++ "(condition, message) expects a str message, got " ++ type ++
    "; the validator form is " ++ side.verb ++ "(value, validator, message)"

/-- What is said of a message, of the given type, that is no text beside a validator. -/
def Side.validatorText (side : Side) (type : String) : String :=
  side.verb ++ "(value, validator, message) expects a str message, got " ++ type

namespace Act

/-- A call on a machine ends with a new fault about a wrong type, and does nothing else. -/
def Refused (text : String) (m : Machine) (ended : Outcome Value × Machine) : Prop :=
  ∃ n context, ended = (.raised m.heap.size, n) ∧ n = { m with heap := n.heap } ∧
    n.cell m.heap.size =
      .fault { Fault.fresh (.known (.fault .typeError)) [.text text] [] with context }

variable {call : Caller} {side : Side} {v x message : Value} {run : Option Value} {m n : Machine}

/-- A failure about a wrong type does nothing else, and what was to follow is not done. -/
theorem refused_of_fail {text : String} {α : Type} {f : α → Act Value} :
    Refused text m (((fail .typeError text : Act α) >>= f) m) := by
  rw [fail_bind]
  exact exists_fail Value .typeError text m

/-! ## Validators -/

/-- A validator that is no class stands for itself if it can be called. -/
theorem itself_eq (other : ∀ c, x ≠ .cls c) :
    asPredicate.itself x m = match (if m.isCallable x then some x else none) with
      | some p => (.done p, m)
      | none => (fail .typeError (m.unfitText x) : Act Value) m := by
  unfold asPredicate.itself
  rw [bind_of_done (isCallable_apply x m)]
  cases m.isCallable x with
  | true => rfl
  | false => cases x <;> first | rfl | exact absurd rfl (other _)

/-- Where `run` has been read, the function behind a validator is settled without any call. -/
theorem asPredicate_eq (found : getAttribute? call x "run" m = (.done run, n)) :
    asPredicate call x m = match n.predicate? x run with
      | some p => (.done p, n)
      | none => (fail .typeError (n.unfitText x) : Act Value) n := by
  unfold asPredicate Machine.predicate?
  rw [bind_of_done found]
  cases run with
  | none =>
    cases x with
    | cls c => rfl
    | _ => exact itself_eq nofun
  | some f =>
    have asked := isCallable_apply f n
    rw [Option.filter_some]
    cases callable : n.isCallable f with
    | true =>
      rw [callable] at asked
      cases x <;> exact bind_of_done asked _
    | false =>
      rw [callable] at asked
      cases x with
      | cls c => exact bind_of_done asked _
      | _ => exact (bind_of_done asked _).trans (itself_eq nofun)

/-- The form with a condition checks that. -/
theorem callRoutine_condition (call : Caller) (side : Side) (c message : Value) :
    callRoutine call (.assertion side .plain) [c, message] [] =
      checkCondition call side c message >>= fun _ => pure .null :=
  rfl

/-- The form with a validator checks the value. -/
theorem callRoutine_validator (call : Caller) (side : Side) (v x message : Value) :
    callRoutine call (.assertion side .plain) [v, x, message] [] =
      checkValue call side v x message >>= fun _ => pure .null :=
  rfl

/-- A message that is no text is refused beside a condition, whatever that is. -/
theorem condition_refused (other : message.isText = false) (c : Value) :
    Refused (side.conditionText (m.typeName message)) m
      (callRoutine call (.assertion side .plain) [c, message] [] m) := by
  rw [callRoutine_condition, checkCondition, if_neg (by simp [other])]
  exact refused_of_fail

/-- A message that is no text is refused beside a validator, whatever that is. -/
theorem validator_refused (other : message.isText = false) :
    Refused (side.validatorText (m.typeName message)) m
      (callRoutine call (.assertion side .plain) [v, x, message] [] m) := by
  rw [callRoutine_validator, checkValue, if_neg (by simp [other])]
  exact refused_of_fail

/-- With a message that is a text, the form with a condition asks that once. -/
theorem condition_bind (text : message.isText = true) (c : Value) :
    callRoutine call (.assertion side .plain) [c, message] [] =
      truth call c >>= fun holds =>
        if holds then pure .null else failCheck call side message >>= fun _ => pure .null := by
  simp only [callRoutine_condition, checkCondition, text, if_true, bind_assoc]
  congr 1
  funext holds
  cases holds <;> rfl

/-- With a message that is a text, the form with a validator settles the function behind that, and
goes on with what the function gives as the form with a condition does. -/
theorem validator_bind (text : message.isText = true) :
    callRoutine call (.assertion side .plain) [v, x, message] [] =
      asPredicate call x >>= fun p => call p [v] [] >>= fun verdict =>
        callRoutine call (.assertion side .plain) [verdict, message] [] := by
  simp only [callRoutine_validator, callRoutine_condition, checkCondition, checkValue, text,
    if_true, bind_assoc]

/-- A function behind the validator is called, and its verdict is the condition. -/
theorem validator_of_predicate {p : Value} (text : message.isText = true)
    (found : getAttribute? call x "run" m = (.done run, n)) (behind : n.predicate? x run = some p) :
    callRoutine call (.assertion side .plain) [v, x, message] [] m =
      (call p [v] [] >>= fun verdict =>
        callRoutine call (.assertion side .plain) [verdict, message] []) n := by
  have settled := asPredicate_eq found
  rw [behind] at settled
  rw [validator_bind text]
  exact bind_of_done settled _

/-- Without a function behind it the validator is refused. -/
theorem validator_of_unfit (text : message.isText = true)
    (found : getAttribute? call x "run" m = (.done run, n)) (unfit : n.predicate? x run = none) :
    Refused (n.unfitText x) n (callRoutine call (.assertion side .plain) [v, x, message] [] m) := by
  have settled := asPredicate_eq found
  obtain ⟨k, context, raised, rest, stands⟩ := exists_fail Value .typeError (n.unfitText x) n
  rw [unfit] at settled
  rw [validator_bind text, bind_of_raised (settled.trans raised)]
  exact ⟨k, context, rfl, rest, stands⟩

/-- What is asked of the arguments comes first: a message that is no text is refused before the
validator is resolved and before anything is asked, whatever the condition. Then `run` of the
validator is read, and a fault of that leaves. The function behind the validator is settled without
any call, and where there is none the validator is refused. Else the function is called once, with
the value, and the assertion goes on with the verdict as its condition: so an object whose `run` is
a function, that function itself, and the condition that it gives come to the same. The condition is
asked once; a fault of that leaves, nothing comes of it if it holds, and if it does not, the
violation with the message is raised after its report. -/
theorem validator_shapes_collapse (call : Caller) (side : Side) (v x message : Value)
    (m : Machine) :
    let checks (args : List Value) := callRoutine call (.assertion side .plain) args []
    (message.isText = false →
      (∀ c, Refused (side.conditionText (m.typeName message)) m (checks [c, message] m)) ∧
      Refused (side.validatorText (m.typeName message)) m (checks [v, x, message] m)) ∧
    (message.isText = true →
      (∀ e n, getAttribute? call x "run" m = (.raised e, n) →
        checks [v, x, message] m = (.raised e, n)) ∧
      (∀ n, getAttribute? call x "run" m = (.exhausted, n) →
        checks [v, x, message] m = (.exhausted, n)) ∧
      (∀ run n, getAttribute? call x "run" m = (.done run, n) →
        (n.predicate? x run = none → Refused (n.unfitText x) n (checks [v, x, message] m)) ∧
        ∀ p, n.predicate? x run = some p →
          checks [v, x, message] m =
            (call p [v] [] >>= fun verdict => checks [verdict, message]) n ∧
          ∀ run', getAttribute? call p "run" n = (.done run', n) → n.predicate? p run' = some p →
            checks [v, x, message] m = checks [v, p, message] n) ∧
      ∀ verdict n,
        (∀ e q, truth call verdict n = (.raised e, q) →
          checks [verdict, message] n = (.raised e, q)) ∧
        (∀ q, truth call verdict n = (.exhausted, q) →
          checks [verdict, message] n = (.exhausted, q)) ∧
        (∀ q, truth call verdict n = (.done true, q) →
          checks [verdict, message] n = (.done .null, q)) ∧
        ∀ q, truth call verdict n = (.done false, q) → ∀ s a p i k,
          Reportable call side message q s a p i k → ∃ n' context,
            checks [verdict, message] n = (.raised q.heap.size, n') ∧
            n'.trace = reportEntries side s a i k ++ p.trace ∧
            n'.cell q.heap.size = .fault { side.violationOf message with context }) := by
  intro checks
  refine ⟨fun other => ⟨condition_refused other, validator_refused other⟩, fun text => ?_⟩
  have settles : checks [v, x, message] m = (asPredicate call x >>= fun p => call p [v] [] >>=
      fun verdict => checks [verdict, message]) m := congrFun (validator_bind text) m
  refine ⟨fun e n fails => ?_, fun n fails => ?_, fun run n found => ?_, fun verdict n => ?_⟩
  · exact settles.trans (bind_of_raised (bind_of_raised fails _) _)
  · exact settles.trans (bind_of_exhausted (bind_of_exhausted fails _) _)
  · refine ⟨validator_of_unfit text found, fun p behind => ⟨?_, fun run' found' itself => ?_⟩⟩
    · exact validator_of_predicate text found behind
    · exact (validator_of_predicate text found behind).trans
        (validator_of_predicate text found' itself).symm
  · have asks : checks [verdict, message] n = (truth call verdict >>= fun holds =>
        if holds then pure .null else failCheck call side message >>= fun _ => pure .null) n :=
      congrFun (condition_bind text verdict) n
    refine ⟨fun e q fails => ?_, fun q fails => ?_, fun q holds => ?_, fun q fails => ?_⟩
    · exact asks.trans (bind_of_raised fails _)
    · exact asks.trans (bind_of_exhausted fails _)
    · exact asks.trans (bind_of_done holds _)
    · intro s a p i k can
      obtain ⟨n', context, raised, trace, cell⟩ := can.failCheck
      exact ⟨n', context,
        asks.trans ((bind_of_done fails _).trans (bind_of_raised raised _)), trace, cell⟩

/-- A machine after it has been asked for `run` of a function that has none. -/
def unanswered : Machine :=
  (getAttribute? (callWithin 1) (.routine .length) "run" watched).2

/-- The text "empty" is the message where a text has no length. -/
theorem validator_shapes_collapse_length : ∃ n context,
    callRoutine (callWithin 1) (.assertion .pre .plain)
        [.text "", .routine .length, .text "empty"] [] watched = (.raised 6, n) ∧
      n.trace = [.event (.text violationEvent) [(.text "dbc.kind", .text "precondition"),
          (.text "dbc.message", .text "empty"), (.text "dbc.profile", .text "checked")],
        .log .warning .assertions "Contract precondition violated: empty"] ∧
      n.cell 6 = .fault { Side.pre.violation "empty" with context } := by
  have plain : unanswered.Plain := ⟨rfl, rfl, rfl, fun _ mem => absurd mem List.not_mem_nil⟩
  have can : Reportable (callWithin 1) .pre (.text "empty") unanswered _ _ _ 0 _ :=
    reportable_text .pre plain.intact rfl
  obtain ⟨-, -, found, asked⟩ := (validator_shapes_collapse (callWithin 1) .pre (.text "")
    (.routine .length) (.text "empty") watched).2 rfl
  have applied := ((found none unanswered rfl).2 (.routine .length) rfl).1
  have counted : callWithin 1 (.routine .length) [.text ""] [] unanswered =
      (.done (.int 0), unanswered) := rfl
  obtain ⟨n, context, raised, trace, cell⟩ :=
    (asked (.int 0) unanswered).2.2.2 unanswered rfl _ _ _ _ _ can
  exact ⟨n, context, applied.trans ((bind_of_done counted _).trans raised), trace, cell⟩

/-- A machine with an object of a class that answers the question for any attribute that it does not
have with a fault about a value. -/
def unanswering : Machine :=
  { threeFaults with
    heap := #[.scope [] none, .closure "__getattr__" ["self", "name"]
      [.raise (.call (.name "ValueError") [] []) none] 0, .object (.made 0) []]
    classes := #[⟨"C", "C", none, [("__getattr__", .ref 1)], []⟩] }

/-- The object cannot be called, and what leaves is no fault about its type; and where settings are
out of range, the length of an empty text is falsy, and what leaves is no violation. -/
theorem validators_can_end_otherwise :
    (unanswering.isCallable (.ref 2) = false ∧
      ∃ e n, callRoutine (callWithin 3) (.assertion .pre .plain) [.int 1, .ref 2, .text "m"] []
          unanswering = (.raised e, n) ∧ n.faultClassAt e = .valueError) ∧
    ∃ e n, callRoutine (callWithin 1) (.assertion .pre .plain)
        [.text "", .routine .length, .text "m"] [] misconfigured = (.raised e, n) ∧
      n.faultClassAt e = .validationError := by
  refine ⟨⟨rfl, _, _, rfl, by decide +kernel⟩, ?_⟩
  let q := (getAttribute? (callWithin 1) (.routine .length) "run" misconfigured).2
  have applied : callRoutine (callWithin 1) (.assertion .pre .plain)
      [.text "", .routine .length, .text "m"] [] misconfigured =
      callRoutine (callWithin 1) (.assertion .pre .plain) [.int 0, .text "m"] [] q :=
    validator_of_predicate (n := q) (p := .routine .length) rfl rfl rfl
  let failed := q.push (.fault (Side.pre.violation "m"))
  have intact : q.Intact :=
    ⟨fun _ _ _ => rfl, fun _ mem => absurd mem List.not_mem_nil,
      fun _ mem => absurd mem List.not_mem_nil, fun _ mem => absurd mem List.not_mem_nil⟩
  have unsettled : failed.settled? = none := Option.isNone_iff_eq_none.1 (by decide +kernel)
  have shows : plainText (callWithin 1) (.text "m") failed = (.done "m", failed) := rfl
  obtain ⟨failure, cls, raised⟩ := failCheck_of_unsettled intact shows unsettled
  have asked : callRoutine (callWithin 1) (.assertion .pre .plain) [.int 0, .text "m"] [] q =
      (failCheck (callWithin 1) .pre (.text "m") >>= fun _ => pure .null) q :=
    congrFun (condition_bind rfl (.int 0)) q
  exact ⟨failed.heap.size, (failed.warned (Side.pre.warning "m")).push (.fault failure),
    applied.trans (asked.trans (bind_of_raised raised _)),
    Machine.faultClassAt_of_cell (Machine.cell_push_size _ _) cls⟩

/-! ## Templates -/

/-- The arguments of the form with a template: after the condition and the template come those that
fill it in, and their names are free. -/
theorem matched_formatted (title : String) (c template : Value) (args : List Value) (named : Fields)
    (m : Machine) :
    matched ⟨title, [.placed "condition", .placed "template"], true, true⟩ (c :: template :: args)
      named m = (.done ⟨[some c, some template], args, named⟩, m) := by
  let s : Signature := ⟨title, [.placed "condition", .placed "template"], true, true⟩
  have other : ∀ q ∈ named, s.place? q.1 = none := by
    intro q _
    simp [s, Signature.place?, Parameter.placed]
  have each : [c, template].length = s.parameters.length := rfl
  exact matched_others rfl each (.inl rfl) other m

/-- The form with a template asks the condition once, and fills the template in only if that does
not hold. -/
theorem formatted_bind (call : Caller) (side : Side) (c template : Value) (args : List Value)
    (named : Fields) :
    callRoutine call (.assertion side .formatted) (c :: template :: args) named =
      truth call c >>= fun holds =>
        if holds then pure .null
        else fillIn call template args named >>= fun message =>
          failCheck call side message >>= fun _ => pure .null := by
  have comes : callRoutine call (.assertion side .formatted) (c :: template :: args) named =
      (matched ⟨routineName (.assertion side .formatted), [.placed "condition", .placed "template"],
        true, true⟩ (c :: template :: args) named >>= fun a =>
          checkFormatted call side (a.value 0) (a.value 1) a.rest a.others) >>= fun _ =>
            pure .null := rfl
  have checked : (checkFormatted call side c template args named >>= fun _ => pure Value.null) =
      truth call c >>= fun holds =>
        if holds then pure .null
        else fillIn call template args named >>= fun message =>
          failCheck call side message >>= fun _ => pure .null := by
    rw [checkFormatted, bind_assoc]
    congr 1
    funext holds
    cases holds with
    | true => rfl
    | false => simp only [Bool.false_eq_true, if_false, bind_assoc]
  funext m
  rw [comes, bind_assoc, bind_of_done (matched_formatted _ c template args named m)]
  exact congrFun checked m

/-- With a message that is a text, a condition that is false fails with it. -/
theorem condition_of_false (text : message.isText = true) :
    callRoutine call (.assertion side .plain) [.bool false, message] [] =
      failCheck call side message >>= fun _ => pure .null := by
  rw [condition_bind text]
  rfl

/-- The condition of the form with a template is asked once. If it holds, nothing else happens,
whatever the template and the arguments. If it does not, the template is filled in once, with the
arguments, of any names: a fault of that leaves at once, so there is no report, and on a text the
assertion goes on as the form with a message does on a false condition. -/
theorem template_is_filled_in_late (call : Caller) (side : Side) (c template : Value)
    (args : List Value) (named : Fields) (m : Machine) :
    let run := callRoutine call (.assertion side .formatted) (c :: template :: args) named m
    (∀ e n, truth call c m = (.raised e, n) → run = (.raised e, n)) ∧
    (∀ n, truth call c m = (.exhausted, n) → run = (.exhausted, n)) ∧
    (∀ n, truth call c m = (.done true, n) → run = (.done .null, n)) ∧
    ∀ q, truth call c m = (.done false, q) →
      (∀ e n, fillIn call template args named q = (.raised e, n) → run = (.raised e, n)) ∧
      (∀ n, fillIn call template args named q = (.exhausted, n) → run = (.exhausted, n)) ∧
      ∀ message n, fillIn call template args named q = (.done message, n) →
        message.isText = true →
          run = callRoutine call (.assertion side .plain) [.bool false, message] [] n := by
  intro run
  have asks := congrFun (formatted_bind call side c template args named) m
  refine ⟨fun e n fails => ?_, fun n fails => ?_, fun n holds => ?_, fun q fails => ?_⟩
  · exact asks.trans (bind_of_raised fails _)
  · exact asks.trans (bind_of_exhausted fails _)
  · exact asks.trans (bind_of_done holds _)
  · have fills := asks.trans (bind_of_done fails _)
    refine ⟨fun e n fails => ?_, fun n fails => ?_, fun message n filled text => ?_⟩
    · exact fills.trans (bind_of_raised fails _)
    · exact fills.trans (bind_of_exhausted fails _)
    · rw [condition_of_false text]
      exact fills.trans (bind_of_done filled _)

/-- An argument can be called like a parameter. -/
theorem template_is_filled_in_late_by_name :
    callRoutine (callWithin 1) (.assertion .post .formatted)
        [.bool false, .text "{template}: {0}", .text "none"] [("template", .text "left")] watched =
      callRoutine (callWithin 1) (.assertion .post .plain) [.bool false, .text "left: none"] []
        watched :=
  ((template_is_filled_in_late (callWithin 1) .post (.bool false) (.text "{template}: {0}")
    [.text "none"] [("template", .text "left")] watched).2.2.2 watched rfl).2.2
      (.text "left: none") watched rfl rfl

end Act

end Covenant
