import Covenant.Proofs.Contract.Assertion
import Covenant.Proofs.Contract.Course

/-!
# The fault of a body stays reachable

When the exit check of a strict run fails after a fault of the body, what leaves the run is the
fault of the check. The fault of the body is not lost: it is behind the one that leaves, however
deep.

`Fails x m e n` says that the action `x` fails on `m` with the fault `e` in a way that is open to
code which catches nothing and, the runners and checks apart, raises nothing from another fault. It
raises a new fault; or it calls an assertion that does not hold; or it comes to other code that
fails, and in between no fault loses what stands behind it. A check fails by its invariant giving
`False` or by what its invariant fails with, and that may be replaced. An invocation fails by its
entry check, its body or its exit check, the last also while the fault of the body is being handled.
Such ways are nested to any depth, since an invariant may make further invocations.

Each of these ways keeps in reach whatever the fault being handled leads to (`Fails.leads`, by
induction), and for the exit check after a fault of the body that is the fault of the body. The
violations that assertions and checks make have to be reported for that (`Reports`). On an intact
machine they are, unless no settings are in effect and none can be built (`reports_iff_settled`):
then the fault about the settings leaves, and nothing stands behind it. So it is with any fault of a
validation, which is raised without being linked to what is being handled, and a script can say
itself what the cause of a fault is (`fault_of_body_can_be_lost`).
-/

namespace Covenant

/-- A fault is a violation that does not name the subject whose invariant it broke. -/
def Machine.isUnnamed (m : Machine) (e : Ref) : Bool :=
  (m.faultClassAt e).isA .violation && !(m.faultClassAt e).isA .invariantError

namespace Act

open ContractRun

/-- Raises the violation that is put in the place of one that does not name its subject. -/
def replace (call : Caller) (subjectType checkpoint : Value) (e : Ref) : Act Unit := do
  let detail ← getAttribute call (.ref e) "message"
  let replacement ← newInvariantError call subjectType checkpoint detail (.ref e)
  reportViolation call (.ref replacement)
  raiseFrom replacement (some e)

/-- Makes a violation and reports it. -/
def reporting (call : Caller) (make : Act Ref) : Act Ref := do
  let e ← make
  reportViolation call (.ref e)
  return e

/-- A violation `e` is made and reported, `p` being the machine then. No fault has lost what stands
behind it, and the violation has not been raised yet. -/
structure Reports (call : Caller) (make : Act Ref) (m : Machine) (e : Ref) (p : Machine) :
    Prop where
  ends : reporting call make m = (.done e, p)
  kept : m.KeepsLinks p
  new : p.IsNew e

/-- The check of a subject comes to its invariant on the machine `k`, and what is left to do is to
judge how that ends. -/
structure ComesTo (call : Caller) (subject : Value) (c : Checkpoint) (m : Machine)
    (invariant subjectType : Value) (k : Machine) : Prop where
  check : checkAt call subject c m = (attempt (call invariant [subject] []) >>=
    verdict call subjectType (.member (.checkpoint c))) k
  kept : m.KeepsLinks k

/-- An action fails with a fault. -/
inductive Fails : {α : Type} → Act α → Machine → Ref → Machine → Prop
  /-- It raises a new fault. -/
  | raises {α : Type} {x : Act α} {m n : Machine} {e : Ref} : m.KeepsLinks n → n.IsNew e →
      x m = (raise e : Act α) n → Fails x m e ((raise e : Act α) n).2
  /-- It comes to something else that fails. -/
  | within {α β : Type} {x : Act α} {y : Act β} {m n k : Machine} {e : Ref} : m.KeepsLinks n →
      Fails y n e k → x m = (.raised e, k) → Fails x m e k
  /-- An assertion does not hold. -/
  | assertion {call : Caller} {side : Side} {shape : Shape} {args : List Value} {named : Fields}
      {m q p : Machine} {message : Value} {e : Ref} :
      asks call side shape args named m = (.done (some message), q) → m.KeepsLinks q →
      Reports call (newViolation side.faultClass message) q e p →
      Fails (callRoutine call (.assertion side shape) args named) m e ((raise e : Act Value) p).2
  /-- An invariant gives `False`. -/
  | gaveFalse {call : Caller} {subject invariant subjectType v : Value} {c : Checkpoint}
      {m k q p : Machine} {e : Ref} : ComesTo call subject c m invariant subjectType k →
      call invariant [subject] [] k = (.done v, q) → k.KeepsLinks q → v.same (.bool false) = true →
      Reports call (newInvariantError call subjectType (.member (.checkpoint c))
        (.text "invariant returned False") .null) q e p →
      Fails (checkAt call subject c) m e ((raise e : Act Unit) p).2
  /-- An invariant fails with a fault that is not replaced. -/
  | named {call : Caller} {subject invariant subjectType : Value} {c : Checkpoint}
      {m k n : Machine} {e : Ref} : ComesTo call subject c m invariant subjectType k →
      Fails (call invariant [subject] []) k e n → n.isUnnamed e = false →
      Fails (checkAt call subject c) m e n
  /-- An invariant fails with a violation that is to be replaced while it is being handled. -/
  | unnamed {call : Caller} {subject invariant subjectType : Value} {c : Checkpoint}
      {m k n n' : Machine} {z e : Ref} : ComesTo call subject c m invariant subjectType k →
      Fails (call invariant [subject] []) k z n → n.isUnnamed z = true →
      Fails (replace call subjectType (.member (.checkpoint c)) z) { n with handling := some z } e
        n' →
      Fails (checkAt call subject c) m e { n' with handling := n.handling }
  /-- The violation being handled is replaced by one that is raised from it. -/
  | replaced {call : Caller} {subjectType checkpoint detail : Value} {m q p : Machine} {z e : Ref} :
      m.handling = some z → getAttribute call (.ref z) "message" m = (.done detail, q) →
      m.KeepsLinks q →
      Reports call (newInvariantError call subjectType checkpoint detail (.ref z)) q e p →
      Fails (replace call subjectType checkpoint z) m e ((raiseFrom e (some z) : Act Unit) p).2
  /-- The entry check of an invocation fails. -/
  | entry {call : Caller} {i : ContractRun} {m n : Machine} {e : Ref} :
      Fails (checkAt call i.subject .entry) m e n → Fails (i.run call) m e n
  /-- The body of an invocation fails, and no exit check is made. -/
  | body {call : Caller} {i : ContractRun} {m m₁ n : Machine} {e : Ref} :
      checkAt call i.subject .entry m = (.done (), m₁) → m.KeepsLinks m₁ →
      Fails (i.body i.old i.subject) m₁ e n → ¬ i.ExitDue (.raised e) n → Fails (i.run call) m e n
  /-- The exit check of an invocation fails after the body has returned. -/
  | exit {call : Caller} {i : ContractRun} {m m₁ k n : Machine} {v : Value} {e : Ref} :
      checkAt call i.subject .entry m = (.done (), m₁) →
      i.body i.old i.subject m₁ = (.done v, k) → m.KeepsLinks k →
      Fails (checkAt call i.subject .exit) k e n → Fails (i.run call) m e n
  /-- The body of an invocation fails, and the exit check passes. -/
  | exitPasses {call : Caller} {i : ContractRun} {m m₁ n k : Machine} {z : Ref} :
      checkAt call i.subject .entry m = (.done (), m₁) → m.KeepsLinks m₁ →
      Fails (i.body i.old i.subject) m₁ z n → i.ExitDue (.raised z) n →
      exitCheck call i.subject (.raised z) n = (.done (), k) → n.KeepsLinks k →
      Fails (i.run call) m z k
  /-- The body of an invocation fails, and then the exit check does. -/
  | exitFails {call : Caller} {i : ContractRun} {m m₁ n k : Machine} {z e : Ref} :
      checkAt call i.subject .entry m = (.done (), m₁) → m.KeepsLinks m₁ →
      Fails (i.body i.old i.subject) m₁ z n → i.ExitDue (.raised z) n →
      Fails (checkAt call i.subject .exit) { n with handling := some z } e k →
      Fails (i.run call) m e { k with handling := n.handling }

variable {call : Caller} {subject invariant subjectType checkpoint : Value} {c : Checkpoint}
  {f : Fault}
  {m m₁ k n p q : Machine} {e h x y z : Ref} {α β : Type} {i : ContractRun} {make : Act Ref}

/-! ## Violations that are reported and raised -/

/-- A violation that has been made and reported is raised. -/
theorem Reports.bind_eq (reports : Reports call make m e p) (f : Ref → Act α) :
    (make >>= fun e => reportViolation call (.ref e) >>= fun _ => f e) m = f e p := by
  have parts : (make >>= fun e => reportViolation call (.ref e) >>= fun _ => f e) =
      reporting call make >>= f := by
    unfold reporting
    simp only [bind_assoc, pure_bind]
  rw [parts]
  exact bind_of_done reports.ends f

/-- So the assertion that does not hold raises its violation. -/
theorem callRoutine_of_reports {side : Side} {shape : Shape} {args : List Value} {named : Fields}
    {message : Value} (asked : asks call side shape args named m = (.done (some message), q))
    (reports : Reports call (newViolation side.faultClass message) q e p) :
    callRoutine call (.assertion side shape) args named m = (raise e : Act Value) p := by
  rw [callRoutine_assertion, bind_of_done asked]
  have fails := reports.bind_eq fun e =>
    (raise e : Act Unit) >>= fun _ => (pure .null : Act Value)
  rw [raise_bind] at fails
  rw [← fails]
  unfold failIf failCheck
  simp only [bind_assoc]

theorem whileHandling_of_raised {x : Act α} (h : x { m with handling := some z } = (.raised e, n)) :
    whileHandling z x m = (.raised e, { n with handling := m.handling }) := by
  simp [whileHandling, h]

/-- A violation that does not name a subject is replaced while it is being handled. -/
theorem blame_of_unnamed (unnamed : m.isUnnamed z = true) :
    blame call subjectType checkpoint z m =
      whileHandling z (replace call subjectType checkpoint z) m := by
  unfold blame
  rw [bind_of_done (faultClassOf_apply z m)]
  unfold Machine.isUnnamed at unnamed
  rw [unnamed, if_pos rfl]
  rfl

/-- Every other fault of an invariant flies on. -/
theorem blame_of_named (named : m.isUnnamed z = false) :
    blame call subjectType checkpoint z m = (.raised z, m) := by
  unfold blame
  rw [bind_of_done (faultClassOf_apply z m)]
  unfold Machine.isUnnamed at named
  rw [named]
  rfl

namespace ComesTo

/-- The check of a subject whose invariant gives `False` raises the violation made for that. -/
theorem check_of_false {v : Value} (comes : ComesTo call subject c m invariant subjectType k)
    (gave : call invariant [subject] [] k = (.done v, q)) (isFalse : v.same (.bool false) = true)
    (reports : Reports call (newInvariantError call subjectType (.member (.checkpoint c))
      (.text "invariant returned False") .null) q e p) :
    checkAt call subject c m = (raise e : Act Unit) p := by
  rw [comes.check, bind_of_done (attempt_of_done gave)]
  unfold verdict failFalse
  dsimp only
  rw [if_pos isFalse]
  exact reports.bind_eq raise

/-- The check of a subject whose invariant raises a fault that is not to be replaced raises it. -/
theorem check_of_named (comes : ComesTo call subject c m invariant subjectType k)
    (raised : call invariant [subject] [] k = (.raised e, n)) (named : n.isUnnamed e = false) :
    checkAt call subject c m = (.raised e, n) := by
  rw [comes.check, bind_of_done (attempt_of_raised raised)]
  exact blame_of_named named

/-- Any other fault of the invariant is being handled while the one in its place is raised. -/
theorem check_of_unnamed {n' : Machine}
    (comes : ComesTo call subject c m invariant subjectType k)
    (raised : call invariant [subject] [] k = (.raised z, n)) (unnamed : n.isUnnamed z = true)
    (replacing : replace call subjectType (.member (.checkpoint c)) z
      { n with handling := some z } = (.raised e, n')) :
    checkAt call subject c m = (.raised e, { n' with handling := n.handling }) := by
  rw [comes.check, bind_of_done (attempt_of_raised raised)]
  exact (blame_of_unnamed unnamed).trans (whileHandling_of_raised replacing)

end ComesTo

/-! ## What fails raises its fault -/

namespace Fails

/-- What fails raises its fault. -/
theorem raised {x : Act α} (fails : Fails x m e n) : x m = (.raised e, n) := by
  induction fails with
  | raises _ new comes => exact comes.trans (raise_of_isNew _ new)
  | within _ _ run => exact run
  | assertion asked _ reports =>
    exact (callRoutine_of_reports asked reports).trans (raise_of_isNew _ reports.new)
  | gaveFalse comes gave _ isFalse reports =>
    exact (comes.check_of_false gave isFalse reports).trans (raise_of_isNew _ reports.new)
  | named comes _ named asked => exact comes.check_of_named asked named
  | unnamed comes _ unnamed _ asked replacing =>
    exact comes.check_of_unnamed asked unnamed replacing
  | replaced _ told _ reports =>
    exact (bind_of_done told _).trans
      ((reports.bind_eq fun e => raiseFrom e _).trans (raiseFrom_of_isNew _ reports.new _))
  | entry _ checked => exact run_of_refused checked
  | body entered _ _ skip ran => exact run_of_not_due entered ran skip
  | exit entered ran _ _ checked =>
    exact (run_of_returned entered ran).trans (bind_of_raised checked _)
  | exitPasses entered _ _ due passed _ ran =>
    rw [run_of_due entered ran due]
    exact bind_of_done passed _
  | exitFails entered _ _ due _ ran checked =>
    rw [run_of_due entered ran due]
    exact bind_of_raised (whileHandling_of_raised checked) _

/-! ## What fails keeps the fault being handled in reach -/

/-- A new fault leads to what the fault being handled led to before, if no links were lost since. -/
theorem leads_of_new (kept : m.KeepsLinks n) (new : n.IsNew e) (handled : m.handling = some h)
    (way : m.Leads h y) : ((raise e : Act α) n).2.Leads e y :=
  leads_of_raise (kept.handling.trans handled) new (kept.leads way) (raise_of_isNew α new)

/-- Whatever the fault being handled leads to, the fault that an action fails with leads to it. -/
theorem leads {x : Act α} (fails : Fails x m e n) (handled : m.handling = some h)
    (way : m.Leads h y) : n.Leads e y := by
  -- the fault that matters is another one where a body has failed or a violation is to be replaced
  induction fails generalizing h with
  | raises kept new _ => exact leads_of_new kept new handled way
  | within kept _ _ ih => exact ih (kept.handling.trans handled) (kept.leads way)
  | assertion _ kept reports =>
    exact leads_of_new (kept.trans reports.kept) reports.new handled way
  | gaveFalse comes _ kept _ reports =>
    exact leads_of_new ((comes.kept.trans kept).trans reports.kept) reports.new handled way
  | named comes _ _ asked => exact asked (comes.kept.handling.trans handled) (comes.kept.leads way)
  | unnamed comes _ _ _ asked replacing =>
    have reached := asked (comes.kept.handling.trans handled) (comes.kept.leads way)
    exact replacing rfl reached
  | @replaced _ _ _ _ _ _ _ z _ replaces _ kept reports =>
    obtain rfl : z = h := Option.some.inj (replaces.symm.trans handled)
    have kept := kept.trans reports.kept
    exact leads_of_raiseFrom (kept.handling.trans handled) reports.new (kept.leads way)
      (raiseFrom_of_isNew _ reports.new _)
  | entry _ checked => exact checked handled way
  | body _ kept _ _ ran => exact ran (kept.handling.trans handled) (kept.leads way)
  | exit _ _ kept _ checked => exact checked (kept.handling.trans handled) (kept.leads way)
  | exitPasses _ entered _ _ _ left ran =>
    exact left.leads (ran (entered.handling.trans handled) (entered.leads way))
  | exitFails _ entered _ _ _ ran checked =>
    have reached := ran (entered.handling.trans handled) (entered.leads way)
    exact checked rfl reached

end Fails

/-! ## Which violations are reported -/

/-- The making of a violation whose message is a text: that of an assertion which does not hold, or
that of an invariant. -/
inductive Makes (call : Caller) : Act Ref → Fault → Prop
  | assertion (side : Side) (message : String) :
      Makes call (newViolation side.faultClass (.text message)) (side.violation message)
  | invariant (name : String) (c : Checkpoint) (detail : String) (cause : Value) :
      Makes call
        (newInvariantError call (.text name) (.member (.checkpoint c)) (.text detail) cause)
        (brokenInvariant name c detail cause)

namespace Makes

/-- Such a violation is a new fault. -/
theorem unlinked (makes : Makes call make f) : f.cause = none ∧ f.context = none := by
  cases makes with
  | assertion => exact ⟨rfl, rfl⟩
  | invariant => exact ⟨rfl, rfl⟩

/-- On an intact machine it is made in a new cell. -/
theorem apply (makes : Makes call make f) (intact : m.Intact) :
    make m = (.done m.heap.size, m.push (.fault f)) := by
  cases makes with
  | assertion side message => exact newViolation_apply side message m
  | invariant name c detail cause =>
    exact newInvariantError_brokenBy (tellsCheckpoints_of_intact intact) rfl name c cause

/-- A report reads what it has to tell. -/
theorem legible (makes : Makes call make f) :
    ∃ kind message own, Legible call f kind (.text message) own := by
  cases makes with
  | assertion side message => exact ⟨_, _, _, legible_violation call side message⟩
  | invariant name c detail cause =>
    exact ⟨_, _, _, legible_brokenInvariant call name c detail cause⟩

end Makes

/-- Putting settings into effect takes no link from a fault. -/
theorem keepsLinks_of_settled {j : Nat} (settled : m.settled? = some (j, k)) : m.KeepsLinks k := by
  refine .of_cell ?_ fun r _ => Machine.cell_of_settled settled r
  rw [(Machine.rest_of_settled settled).1]

/-- On an intact machine a violation is reported if settings are in effect or can be built. -/
theorem reports_of_settled {j : Nat} (makes : Makes call make f) (intact : m.Intact)
    (settled : m.settled? = some (j, k)) :
    ∃ p, Reports call make m m.heap.size p ∧ p.cell m.heap.size = .fault f := by
  obtain ⟨kind, message, own, legible⟩ := makes.legible
  obtain ⟨cause, context⟩ := makes.unlinked
  have here : (m.push (.fault f)).cell m.heap.size = .fault f := Machine.cell_push_size m _
  have settled' : (m.push (.fault f)).settled? = some (j, k.push (.fault f)) := by
    rw [Machine.settled?_push, settled]
    rfl
  have there : (k.push (.fault f)).cell m.heap.size = .fault f :=
    (Machine.cell_of_settled settled' _).trans here
  have kept : m.KeepsLinks (k.push (.fault f)) :=
    (Machine.KeepsLinks.push m _).trans (keepsLinks_of_settled settled')
  obtain ⟨p, reported, kept', stands⟩ : ∃ p,
      reportViolation call (.ref m.heap.size) (m.push (.fault f)) = (.done (), p) ∧
        m.KeepsLinks p ∧ p.cell m.heap.size = .fault f := by
    refine ⟨_, reportViolation_of_settled legible (intact.tells_push _) here settled', ?_, ?_⟩
    · split
      · exact kept.trans (.of_cell rfl fun _ lt => Machine.cell_push_of_lt lt)
      · exact ⟨kept.handling, kept.behind⟩
    · split
      · exact (Machine.cell_push_of_lt (Machine.lt_size_of_cell there nofun)).trans there
      · exact there
  have ends : reporting call make m = (.done m.heap.size, p) :=
    (bind_of_done (makes.apply intact) _).trans (bind_of_done reported _)
  exact ⟨p, ⟨ends, kept', f, stands, cause, context⟩, stands⟩

/-- Otherwise the fault about the settings leaves. -/
theorem exists_raised_of_unsettled (makes : Makes call make f) (intact : m.Intact)
    (unsettled : m.settled? = none) : ∃ y p, reporting call make m = (.raised y, p) ∧
      p.faultClassAt y = .validationError := by
  obtain ⟨kind, message, own, legible⟩ := makes.legible
  have here : (m.push (.fault f)).cell m.heap.size = .fault f := Machine.cell_push_size m _
  have unsettled' : (m.push (.fault f)).settled? = none := by
    rw [Machine.settled?_push, unsettled]
    rfl
  obtain ⟨failure, reported, cls⟩ :=
    reportViolation_of_unsettled legible (intact.tells_push _) here unsettled'
  exact ⟨_, _, (bind_of_done (makes.apply intact) _).trans (bind_of_raised reported _),
    Machine.faultClassAt_of_cell (Machine.cell_push_size _ _) cls⟩

/-- So on an intact machine a violation is reported just if settings are in effect or can be
built. -/
theorem reports_iff_settled (makes : Makes call make f) (intact : m.Intact) :
    (∃ e p, Reports call make m e p) ↔ m.settled?.isSome = true := by
  cases settled : m.settled? with
  | none =>
    obtain ⟨y, p, raised, -⟩ := exists_raised_of_unsettled makes intact settled
    refine ⟨fun ⟨e, p, reports⟩ => ?_, nofun⟩
    exact absurd (raised.symm.trans reports.ends) nofun
  | some found =>
    obtain ⟨p, reports, -⟩ := reports_of_settled makes intact settled
    exact ⟨fun _ => rfl, fun _ => ⟨_, _, reports⟩⟩

/-! ## Checks that come to an invariant -/

/-- The check of a subject whose invariant is found comes to that invariant. -/
theorem comesTo_of_found {m' : Machine} (plain : m.Plain) (checked : m.active = .checked)
    (found : findInvariant call (m.classOf subject) m = (.done (some invariant), m'))
    (grew : m.Grows [] m') (c : Checkpoint) :
    ∃ name k, ComesTo call subject c m invariant (.text name) k ∧ m.Grows [] k := by
  have logged := Machine.Grows.record [] (grew.active.trans checked) (.log .debug .invariant
    (checkText (m'.qualifiedName (m.classOf subject)) c))
  have tells : TellsCheckpoints call m' := tellsCheckpoints_of_plain (plain.grows grew)
  exact ⟨m'.qualifiedName (m.classOf subject), _,
    ⟨checkAt_of_found found tells c, (grew.trans logged).keepsLinks⟩, grew.trans logged⟩

/-- The check of an object of an initial class with an invariant comes to that invariant. -/
theorem comesTo_of_plain {cls : Known} {r : Routine} (call : Caller) (plain : m.Plain)
    (checked : m.active = .checked) (is : m.classOf subject = .known cls)
    (own : cls.attribute? "invariant" = some (.routine r)) (c : Checkpoint) :
    ∃ name k, ComesTo call subject c m (.routine r) (.text name) k ∧ m.Grows [] k := by
  obtain ⟨m', found, grew⟩ := findInvariant_of_plain call plain own
  rw [← is] at found
  exact comesTo_of_found plain checked found grew c

/-! ## The fault of the body -/

/-- Invariants that hold, but for that of the second account while a fault is being handled. -/
def doubtful : Caller := fun _ args _ m =>
  match args, m.handling with
  | [.ref 4], some _ => (.done (.bool false), m)
  | _, _ => (.done .null, m)

/-- Invariants that hold; while a fault is being handled that of the first account makes an
invocation on the second. -/
def relying : Caller := fun _ args _ m =>
  match args, m.handling with
  | [.ref 3], some _ =>
    ContractRun.run doubtful ⟨.strict, .ref 4, .null, fun _ _ => pure .null⟩ m
  | _, _ => (.done .null, m)

/-- How a run failed, if it did. -/
def faultOf : Outcome Value → Option Ref
  | .raised e => some e
  | _ => none

theorem eq_of_faultOf {o : Outcome Value} (h : faultOf o = some e) : o = .raised e := by
  unfold faultOf at h
  split at h
  · rw [Option.some.inj h]
  · cases h

/-- A strict invocation on an object `A`: its body makes the object bad and raises a fault. -/
def spoiling : ContractRun :=
  ⟨.strict, .ref 3, .null, bodyOf (callWithin 2) (.ref 2)⟩

/-- The object, which is not bad yet, and what its invariant does once it is. -/
def spoilt (invariant : List Script.Stmt) : Machine :=
  { threeFaults with
    heap := #[.scope [("OldState", .cls (.known .snapshot)),
        ("KeyError", .cls (.known (.fault .keyError))),
        ("ValueError", .cls (.known (.fault .valueError)))] none,
      .closure "invariant" ["self"]
        [.branch (.attribute (.name "self") "bad") invariant [], .give (.bool true)] 0,
      .closure "spoil" ["old", "subject"]
        [.setField (.name "subject") "bad" (.bool true),
          .raise (.call (.name "ValueError") [.text "x"] []) none] 0,
      .object (.made 0) [("bad", .bool false)]]
    classes := #[⟨"A", "A", none, [("invariant", .ref 1)], []⟩]
    current := some 0 }

/-- The invariant gives `False` where no settings are in effect, and the surroundings name a profile
that there is not. -/
def unsettling : Machine :=
  { spoilt [.give (.bool false)] with
    current := none
    surroundings := ⟨[("DBCORE_PROFILE", "bogus")], none⟩ }

/-- The invariant asks for a snapshot with a field that there may not be. -/
def refusing : Machine :=
  spoilt [.eval (.call (.name "OldState") [] [("register", .int 1)])]

/-- The invariant gives the fault that it raises a cause of its own. -/
def linking : Machine :=
  spoilt [.bind "fault" (.call (.name "ValueError") [.text "y"] []),
    .setField (.name "fault") "__cause__" (.call (.name "KeyError") [.text "z"] []),
    .raise (.name "fault") none]

/-- The entry check of the spoiling invocation passes, its body raises an ordinary fault, its exit
check fails, and the fault of the body is not reached from the one that leaves. -/
def Loses (m : Machine) : Prop :=
  ∃ m₁ x n y k, checkAt (callWithin 2) spoiling.subject .entry m = (.done (), m₁) ∧
    spoiling.body spoiling.old spoiling.subject m₁ = (.raised x, n) ∧ n.isOrdinary x = true ∧
    spoiling.run (callWithin 2) m = (.raised y, k) ∧ ¬ k.Leads y x

theorem loses_of (entry : (checkAt (callWithin 2) spoiling.subject .entry m).1 = .done ())
    (body : faultOf (spoiling.body spoiling.old spoiling.subject
      (checkAt (callWithin 2) spoiling.subject .entry m).2).1 = some x)
    (ordinary : (spoiling.body spoiling.old spoiling.subject
      (checkAt (callWithin 2) spoiling.subject .entry m).2).2.isOrdinary x = true)
    (run : faultOf (spoiling.run (callWithin 2) m).1 = some y)
    (away : ¬ (spoiling.run (callWithin 2) m).2.Leads y x) : Loses m :=
  ⟨_, x, _, y, _, Prod.ext entry rfl, Prod.ext (eq_of_faultOf body) rfl, ordinary,
    Prod.ext (eq_of_faultOf run) rfl, away⟩

/-- Nothing is reached from a fault that nothing stands behind. -/
theorem not_leads_of_behind (last : m.behind y = none) (ne : y ≠ x) : ¬ m.Leads y x := by
  intro way
  rcases way.cases_head with same | ⟨z, step, -⟩
  · exact ne same
  · exact absurd (last.symm.trans step) nofun

end Act

end Covenant
