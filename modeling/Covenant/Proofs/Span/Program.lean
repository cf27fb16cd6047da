import Covenant.Proofs.Session.Launch
import Covenant.Proofs.Span.Guarded
import Covenant.Session.Script

/-!
# Programs and the span

A program is run in a process of its own, and what each of its steps shows is its outcome, what was
recorded and the objects that there are then (`Launch.run`). Under whichever span that happens, the
program is the same: the steps end in the same way and leave the same machine, and what has been
recorded differs in the events alone (`Launch.run_under`).

Events show under a span that records and under no other (`Launch.no_events_under`). If a step adds
none itself (`AddsNoEvents`), each event that it shows comes from the report of a violation
(`AddsNoEvents.fromReports`), and if it leaves reports alone as well (`LeavesReportsAlone`),
directly after the warning of the same violation (`exists_warning_before`).
-/

namespace Covenant

namespace Act

instance (f : Value) (args : List Value) (named : Fields) :
    Impartial .freely (Act.call f args named) := by
  unfold Act.call
  infer_instance

end Act

namespace Session

open Act Script

variable {α : Type} {s : Span}

/-! ## What is shown without events -/

/-- The report without the events. -/
def Report.withoutEvents (r : Report α) : Report α :=
  { r with trace := r.trace.filter (!·.isEvent) }

/-- The step without the events. -/
def Step.withoutEvents (step : Step) : Step :=
  { step with report := step.report.withoutEvents }

theorem Report.not_isEvent_of_mem {r : Report α} {e : Entry} (mem : e ∈ r.withoutEvents.trace) :
    e.isEvent = false := by
  simpa using (List.mem_filter.1 mem).2

/-- A trace is reported in the order in which things happened. -/
theorem reverse_trace_under (m : Machine) (s : Span) :
    (m.under s).trace.reverse = m.trace.reverse.filter (!·.isEvent) :=
  (List.filter_reverse ..).symm

/-! ## Two runs -/

/-- What is observed of an action differs in the events alone. -/
theorem observe_under {x : Act α} [impartial : Impartial .freely x] (m : Machine)
    (quiet : s ≠ .recording) :
    observe x (m.under s) = ((observe x m).1.withoutEvents, (observe x m).2.under s) := by
  have ran := impartial.indifferent { m with trace := [] } s quiet
  unfold observe
  -- observing starts without entries, under either span
  rw [show { m.under s with trace := [] } = Machine.under { m with trace := [] } s from rfl, ran]
  rcases x { m with trace := [] } with ⟨o, n⟩
  cases o with
  | done a => simp [Report.withoutEvents, reverse_trace_under]
  | exhausted => simp [Report.withoutEvents, reverse_trace_under]
  | raised e =>
    have told := (inferInstance : Impartial .freely (faultAnswer Act.call e)).indifferent n s quiet
    dsimp only
    rw [told]
    rcases faultAnswer Act.call e n with ⟨o, k⟩
    cases o <;> simp [Report.withoutEvents, reverse_trace_under]

theorem silently_under {x : Act α} [impartial : Impartial .freely x] (m : Machine)
    (quiet : s ≠ .recording) :
    silently x (m.under s) = ((silently x m).1, (silently x m).2.under s) := by
  unfold silently
  rw [impartial.indifferent m s quiet]
  rcases x m with ⟨o, n⟩
  cases o <;> rfl

/-! ### Programs -/

instance (e : Expr) : Impartial .freely (evaluate e) := by
  unfold evaluate
  infer_instance

instance (s : Stmt) : Impartial .freely (runStatement s) := by
  unfold runStatement
  split <;> infer_instance

instance (v : Value) : Impartial .freely (objectFields? v) := by
  unfold objectFields?
  split
  · refine .seq inferInstance fun _ => ?_
    split
    · exact .seq (.read fun _ _ => by simp) inferInstance
    · infer_instance
  · infer_instance

instance (fields : Fields) : Impartial .freely (objectsAmong fields) := by
  induction fields with
  | nil => exact .pure []
  | cons p rest ih =>
    unfold objectsAmong
    refine .seq inferInstance fun _ => ?_
    split <;> infer_instance

instance : Impartial .freely globalObjects := by
  unfold globalObjects
  refine .seq inferInstance fun _ => ?_
  split <;> infer_instance

/-- Carries out one step of a program and shows what came of it. -/
def runStep (s : Stmt) : StateM Machine Step := do
  let report ← observeValue (runStatement s)
  return ⟨report, (← silently globalObjects).getD []⟩

theorem runStep_apply (stmt : Stmt) (m : Machine) :
    runStep stmt m =
      let (report, n) := observeValue (runStatement stmt) m
      let (objects, k) := silently globalObjects n
      (⟨report, objects.getD []⟩, k) :=
  rfl

theorem report_runStep (stmt : Stmt) (m : Machine) :
    (runStep stmt m).1.report = (observeValue (runStatement stmt) m).1 :=
  rfl

/-- A program is run step by step. -/
theorem runProgram_cons (stmt : Stmt) (rest : List Stmt) (m : Machine) :
    runProgram (stmt :: rest) m =
      let (step, n) := runStep stmt m
      let (steps, k) := runProgram rest n
      (step :: steps, k) := by
  rw [show runProgram (stmt :: rest) = (stmt :: rest).mapM runStep from rfl, List.mapM_cons]
  rfl

theorem runStep_under (stmt : Stmt) (m : Machine) (quiet : s ≠ .recording) :
    runStep stmt (m.under s) = ((runStep stmt m).1.withoutEvents, (runStep stmt m).2.under s) := by
  rw [runStep_apply, runStep_apply, observeValue, observe_under m quiet]
  dsimp only
  rw [silently_under _ quiet]
  rfl

/-- The steps of a program differ in the events alone. -/
theorem runProgram_under (steps : List Stmt) (m : Machine) (quiet : s ≠ .recording) :
    runProgram steps (m.under s) =
      ((runProgram steps m).1.map Step.withoutEvents, (runProgram steps m).2.under s) := by
  induction steps generalizing m with
  | nil => rfl
  | cons stmt rest ih =>
    rw [runProgram_cons, runProgram_cons, runStep_under stmt m quiet]
    dsimp only
    rw [ih]
    rfl

/-! ### Processes -/

namespace Launch

variable (l : Launch)

/-- Runs a program in a new process: what its steps show and the machine that they leave, or the
fault that kept the process from starting. -/
def run (steps : List Stmt) : Except FaultAnswer (List Step × Machine) :=
  l.start.map (runProgram steps)

theorem run_of_start {l : Launch} {m : Machine} (started : l.start = .ok m) (steps : List Stmt) :
    l.run steps = .ok (runProgram steps m) := by
  unfold run
  rw [started]
  rfl

/-- The same process under another span. -/
def under (s : Span) : Launch :=
  { l with span := s }

instance : Impartial .freely bindPrimitives := by
  unfold bindPrimitives
  refine .seq inferInstance fun _ => ?_
  exact .update (fun _ _ => rfl) (fun _ => rfl) fun _ => ⟨rfl, rfl, Nat.le_refl _⟩

theorem start_eq_map :
    l.start = (observe bindPrimitives l.blank).1.result.map
      fun _ => { (observe bindPrimitives l.blank).2 with trace := [] } := by
  rcases observed : observe bindPrimitives l.blank with ⟨⟨result, trace⟩, m⟩
  unfold start
  rw [show (observe bindPrimitives).run l.blank = (⟨result, trace⟩, m) from observed]
  cases result <;> rfl

/-- A process starts the same way under every span. -/
theorem start_under (quiet : s ≠ .recording) :
    (l.under s).start = (l.under .recording).start.map (·.under s) := by
  have blank : (l.under s).blank = (l.under .recording).blank.under s := rfl
  rw [start_eq_map, start_eq_map, blank, observe_under _ quiet]
  dsimp only [Report.withoutEvents]
  cases (observe bindPrimitives (l.under .recording).blank).1.result <;> rfl

/-- A program runs the same way under every span, and what it shows differs in the events alone. -/
theorem run_under (steps : List Stmt) (quiet : s ≠ .recording) :
    (l.under s).run steps = ((l.under .recording).run steps).map fun (shown, m) =>
      (shown.map Step.withoutEvents, m.under s) := by
  unfold run
  rw [l.start_under quiet]
  cases (l.under .recording).start with
  | error f => rfl
  | ok m => exact congrArg Except.ok (runProgram_under steps m quiet)

/-- No events show under a span that does not record. -/
theorem no_events_under (steps : List Stmt) (quiet : s ≠ .recording) {shown : List Step}
    {m : Machine} (ran : (l.under s).run steps = .ok (shown, m)) :
    ∀ step ∈ shown, ∀ e ∈ step.report.trace, e.isEvent = false := by
  rw [l.run_under steps quiet] at ran
  cases recorded : (l.under .recording).run steps with
  | error f => rw [recorded] at ran; cases ran
  | ok r =>
    rw [recorded] at ran
    cases ran
    intro step mem e among
    obtain ⟨full, -, rfl⟩ := List.mem_map.1 mem
    exact Report.not_isEvent_of_mem among

end Launch

/-! ## One run -/

section Calls

variable (call : Caller)

/-- Carries out one statement, with `call` for the calls that it makes. -/
def runStatementBy (stmt : Stmt) : Act Value := do
  match stmt with
  | .eval e => evalExpr call globalScope e
  | stmt => do
    let _ ← execStmt call globalScope stmt
    return .null

/-- Runs an action and observes it, with `call` for the calls made while its fault is put into
words. -/
def observeBy (x : Act α) : StateM Machine (Report α) := fun m =>
  match x { m with trace := [] } with
  | (.done a, m) => (⟨.ok a, m.trace.reverse⟩, m)
  | (.exhausted, m) => (⟨.error depthFault, m.trace.reverse⟩, m)
  | (.raised e, m) =>
    match faultAnswer call e m with
    | (.done f, m) => (⟨.error f, m.trace.reverse⟩, m)
    | (_, m) => (⟨.error depthFault, m.trace.reverse⟩, m)

/-- Runs a statement and observes the value that it gives. -/
def observeStatementBy (stmt : Stmt) : StateM Machine (Report Answer) :=
  observeBy call do answer call (← runStatementBy call stmt)

variable {call} {way : Way} [∀ f args named, Impartial way (call f args named)]

instance [way.Loose] (stmt : Stmt) : Impartial way (runStatementBy call stmt) := by
  unfold runStatementBy
  split <;> infer_instance

/-- What is observed starts without entries, so it is good if what the action adds is. -/
theorem good_observeBy [loose : way.Loose] {x : Act α} [impartial : Impartial way x] (m : Machine) :
    way.Good (observeBy call x m).1.trace.reverse := by
  obtain ⟨new, added, good, -⟩ := impartial.adds { m with trace := [] } (loose.holds _)
  rw [List.append_nil] at added
  unfold observeBy
  rcases ran : x { m with trace := [] } with ⟨o, n⟩
  rw [ran] at added
  change n.trace = new at added
  cases o with
  | done a => simpa [added] using good
  | exhausted => simpa [added] using good
  | raised e =>
    have told : Impartial way (faultAnswer call e) := inferInstance
    obtain ⟨later, more, goodToo, -⟩ := told.adds n (loose.holds _)
    have both : way.Good (faultAnswer call e n).2.trace := by
      rw [more, added]
      exact goodToo.append good
    dsimp only
    rcases put : faultAnswer call e n with ⟨o, k⟩
    rw [put] at both
    cases o <;> simpa using both

end Calls

/-- Whether a statement adds no events itself: the same is recorded if a call that adds events ends
it. The calls are those of programs in all else, so it is so where no such call is made. -/
def AddsNoEvents (stmt : Stmt) (m : Machine) : Prop :=
  (observeStatementBy (callAbstaining callDepth) stmt m).1.trace =
    (observeValue (runStatement stmt) m).1.trace

/-- Whether a statement leaves reports alone as well: the same is recorded if a call ends it that is
made on a machine that is not calm or leaves it so, or that reports what need not be found. -/
def LeavesReportsAlone (stmt : Stmt) (m : Machine) : Prop :=
  (observeStatementBy (callGuarded callDepth) stmt m).1.trace =
    (observeValue (runStatement stmt) m).1.trace

/-- The events of a statement that adds none itself come from reports of violations. -/
theorem AddsNoEvents.fromReports {stmt : Stmt} {m : Machine} (none : AddsNoEvents stmt m) :
    FromReports false (observeValue (runStatement stmt) m).1.trace.reverse := by
  have good : Way.abstaining.Good
      (observeStatementBy (callAbstaining callDepth) stmt m).1.trace.reverse := good_observeBy m
  rwa [none] at good

/-- If it leaves reports alone these are direct. -/
theorem LeavesReportsAlone.fromReports {stmt : Stmt} {m : Machine}
    (alone : LeavesReportsAlone stmt m) :
    FromReports true (observeValue (runStatement stmt) m).1.trace.reverse := by
  have good : Way.guarded.Good
      (observeStatementBy (callGuarded callDepth) stmt m).1.trace.reverse := good_observeBy m
  rwa [alone] at good

/-- In the order in which things happened an event comes right after the warning of the same
violation, if reports are direct. -/
theorem exists_warning_before {trace : List Entry} (reports : FromReports true trace.reverse)
    {earlier later : List Entry} {name : Answer} {data : List (Answer × Answer)}
    (here : trace = earlier ++ .event name data :: later) :
    ∃ before text, earlier = before ++ [.log .warning .assertions text] ∧
      TellsOfSame text name data := by
  have back : trace.reverse = later.reverse ++ .event name data :: earlier.reverse := by
    rw [here]
    simp
  obtain ⟨text, before, first, tells⟩ := reports.exists_warning back
  refine ⟨before.reverse, text, ?_, tells⟩
  rw [← List.reverse_reverse earlier, first, List.reverse_cons]

/-- What a step of a program shows is what comes of it after the steps before. -/
theorem getElem?_runProgram (steps : List Stmt) (m : Machine) (i : Nat) :
    (runProgram steps m).1[i]? =
      steps[i]?.map fun stmt => (runStep stmt (runProgram (steps.take i) m).2).1 := by
  induction steps generalizing m i with
  | nil => rfl
  | cons stmt rest ih =>
    rw [runProgram_cons]
    cases i with
    | zero => rfl
    | succ i =>
      -- the steps before include the first, which both runs carry out
      rw [List.take_succ_cons, runProgram_cons]
      exact ih (runStep stmt m).2 i

namespace Launch

variable {l : Launch} {steps : List Stmt} {i : Nat} {stmt : Stmt} {shown taken : List Step}
  {m before : Machine}

/-- What a step shows is observed of its statement after the steps before. -/
theorem exists_step (ran : l.run steps = .ok (shown, m)) (here : steps[i]? = some stmt)
    (first : l.run (steps.take i) = .ok (taken, before)) :
    ∃ step, shown[i]? = some step ∧
      step.report = (observeValue (runStatement stmt) before).1 := by
  cases started : l.start with
  | error f =>
    unfold run at ran
    rw [started] at ran
    cases ran
  | ok n =>
    rw [run_of_start started] at ran first
    have all : runProgram steps n = (shown, m) := Except.ok.inj ran
    have before : runProgram (steps.take i) n = (taken, before) := Except.ok.inj first
    have step := getElem?_runProgram steps n i
    rw [all, before, here] at step
    exact ⟨_, step, rfl⟩

end Launch

end Session

end Covenant
