import Covenant.Proofs.Contract.Broken
import Covenant.Script.Call

/-!
# The innermost invariant is blamed

The invariant of a subject may check the invariants of others, directly or by making invocations on
them, and these may do so again. `RestsOn` is one step of such a chain from a check to the check
that it rests on; the invariant in between may do anything before and after, but catches nothing.

If the check at the end of a chain raises the violation of an invariant, the one at its start raises
the same violation: `blame` lets it pass, so no further violation is made or reported on the way
(`RestsOn.raised`, and for whole chains `Rests.raised`). The violation is made where the innermost
invariant fails (`Station.Breaks.raised`). An invocation whose entry check stands on such a chain
ends with that violation whatever its body is.

For that the failure needs a text, and there have to be settings that say whether events are wished;
where something is in the way of the report, what is raised is that
(`other_faults_of_broken_invariants`).
-/

namespace Covenant

/-- A check that is about to be made: of which subject, at which checkpoint, on which machine, and
how functions are called meanwhile. -/
structure Station where
  call : Caller
  subject : Value
  checkpoint : Checkpoint
  machine : Machine

/-- The machine on which an exit check is made after a body has ended in some way: a fault of the
body is being handled. -/
def Machine.atExit (m : Machine) : Outcome Value → Machine
  | .raised x => { m with handling := some x }
  | _ => m

/-- What is being handled is no report. -/
theorem invariantReports_atExit (m : Machine) (o : Outcome Value) :
    (m.atExit o).invariantReports = m.invariantReports := by
  cases o <;> rfl

namespace Station

open Act

/-- The class of the subject. -/
def cls (s : Station) : ClassRef :=
  s.machine.classOf s.subject

/-- How the check ends. -/
def check (s : Station) : Outcome Unit × Machine :=
  checkAt s.call s.subject s.checkpoint s.machine

/-- The check finds an invariant, and `m` is the machine after looking for it. -/
structure Finds (s : Station) (invariant : Value) (m : Machine) : Prop where
  found : findInvariant s.call s.cls s.machine = (.done (some invariant), m)
  tells : TellsCheckpoints s.call m

/-- The machine on which the invariant is run, `m` being the one after looking for it. -/
def announced (s : Station) (m : Machine) : Machine :=
  m.announce s.cls s.checkpoint

/-- Runs an invariant on the subject. -/
def ask (s : Station) (invariant : Value) : Act Value :=
  s.call invariant [s.subject] []

/-- A check rests on another one: its invariant comes to that other check, be it a check by itself,
the entry check of an invocation, or the exit check of an invocation whose body has ended, and
catches nothing. Up to there it has reported no violated invariant, as the report of one is followed
by the violation. -/
inductive RestsOn : Station → Station → Prop
  | check {s t : Station} {invariant : Value} {m : Machine} {rest : Unit → Act Value} :
      s.Finds invariant m →
      s.ask invariant (s.announced m) =
        (checkAt t.call t.subject t.checkpoint >>= rest) t.machine →
      t.machine.invariantReports = s.machine.invariantReports → RestsOn s t
  | entry {s : Station} {invariant : Value} {m k : Machine} {call : Caller} {i : ContractRun}
      {rest : Value → Act Value} :
      s.Finds invariant m → s.ask invariant (s.announced m) = (i.run call >>= rest) k →
      k.invariantReports = s.machine.invariantReports → RestsOn s ⟨call, i.subject, .entry, k⟩
  | exit {s : Station} {invariant : Value} {m k k₁ n : Machine} {call : Caller} {i : ContractRun}
      {rest : Value → Act Value} {o : Outcome Value} :
      s.Finds invariant m → s.ask invariant (s.announced m) = (i.run call >>= rest) k →
      checkAt call i.subject .entry k = (.done (), k₁) → i.body i.old i.subject k₁ = (o, n) →
      i.ExitDue o n → n.invariantReports = s.machine.invariantReports →
      RestsOn s ⟨call, i.subject, .exit, n.atExit o⟩

/-- A chain of checks, each of which rests on the next. -/
def Rests : Station → Station → Prop :=
  Relation.ReflTransGen RestsOn

/-- The invariant of a subject fails, `m` being the machine after looking for it, either by a
violation that does not name a subject yet or by giving `False`. The detail of the failure, its text
and the violation behind it are given; `q` is the machine after reading them, and scripts have left
alone there what a report asks for. -/
inductive Breaks (s : Station) (invariant : Value) (m : Machine) :
    Value → String → Option Ref → Machine → Prop
  | violated {v : Ref} {detail : Value} {shownAs : String} {n p q : Machine} :
      s.ask invariant (s.announced m) = (.raised v, n) → n.isUnnamed v = true →
      getAttribute s.call (.ref v) "message" { n with handling := some v } = (.done detail, p) →
      TellsCheckpoints s.call p → shown s.call detail p = (.done shownAs, q) → q.Intact →
      Breaks s invariant m detail shownAs (some v) q
  | gaveFalse {v : Value} {q : Machine} :
      s.ask invariant (s.announced m) = (.done v, q) → v.same (.bool false) = true → q.Intact →
      Breaks s invariant m (.text "invariant returned False") "invariant returned False" none q

/-- The violation that a broken invariant raises. -/
def violation (s : Station) (m : Machine) (detail : Value) (shownAs : String) (cause : Option Ref) :
    Fault :=
  { brokenBy (m.qualifiedName s.cls) s.checkpoint detail shownAs (cause.elim .null .ref) with
    cause, suppressed := cause.isSome }

variable {s t first last : Station} {invariant detail : Value} {m n q k : Machine} {e : Ref}
  {shownAs : String} {cause : Option Ref} {i : Nat}

/-- A check that has found an invariant comes down to judging how it ends. -/
theorem Finds.check_eq (found : s.Finds invariant m) : s.check =
    (attempt (s.ask invariant) >>=
      verdict s.call (.text (m.qualifiedName s.cls)) (.member (.checkpoint s.checkpoint)))
      (s.announced m) :=
  checkAt_of_found found.found found.tells s.checkpoint

/-! ## Violations that name their subject -/

/-- A violation that names its subject comes out of a check as it came out of the invariant. -/
theorem Finds.raised (found : s.Finds invariant m)
    (raises : s.ask invariant (s.announced m) = (.raised e, n))
    (named : (n.faultClassAt e).isA .invariantError = true) : s.check = (.raised e, n) := by
  have passes : n.isUnnamed e = false := by simp [Machine.isUnnamed, named]
  rw [found.check_eq, bind_of_done (attempt_of_raised raises)]
  exact blame_of_named passes

/-- What a due exit check raises leaves the invocation. -/
theorem run_of_exit_raised {call : Caller} {i : ContractRun} {k k₁ : Machine} {o : Outcome Value}
    (entry : checkAt call i.subject .entry k = (.done (), k₁))
    (body : i.body i.old i.subject k₁ = (o, m)) (due : i.ExitDue o m)
    (fails : checkAt call i.subject .exit (m.atExit o) = (.raised e, n)) :
    ∃ h, i.run call k = (.raised e, { n with handling := h }) := by
  rw [ContractRun.run_of_due entry body due]
  unfold endChecked
  cases o with
  | done v => exact ⟨n.handling, bind_of_raised fails _⟩
  | raised x => exact ⟨m.handling, bind_of_raised (whileHandling_of_raised fails) _⟩
  | exhausted => exact due.elim

/-- The class of a fault does not depend on what is being handled. -/
theorem faultClassAt_handling (n : Machine) (h : Option Ref) (e : Ref) :
    Machine.faultClassAt { n with handling := h } e = n.faultClassAt e :=
  Machine.faultClass_of_classes (m := n) (n := { n with handling := h }) rfl (n.faultAt e).cls

/-- A violation that names its subject passes a check that rests on the one which raises it. -/
theorem RestsOn.raised (step : RestsOn s t) (fails : t.check = (.raised e, n))
    (named : (n.faultClassAt e).isA .invariantError = true) :
    ∃ h, s.check = (.raised e, { n with handling := h }) := by
  cases step with
  | check found asks _ =>
    exact ⟨n.handling, found.raised (asks.trans (bind_of_raised fails _)) named⟩
  | entry found asks _ =>
    have run := ContractRun.run_of_refused fails
    exact ⟨n.handling, found.raised (asks.trans (bind_of_raised run _)) named⟩
  | exit found asks entry body due _ =>
    obtain ⟨h, run⟩ := run_of_exit_raised entry body due fails
    rw [← faultClassAt_handling n h] at named
    exact ⟨h, found.raised (asks.trans (bind_of_raised run _)) named⟩

/-- It passes a whole chain of checks. -/
theorem Rests.raised (chain : Rests first last) (fails : last.check = (.raised e, n))
    (named : (n.faultClassAt e).isA .invariantError = true) :
    ∃ h, first.check = (.raised e, { n with handling := h }) := by
  induction chain using Relation.ReflTransGen.head_induction_on with
  | refl => exact ⟨n.handling, fails⟩
  | head step _ ih =>
    obtain ⟨h, inner⟩ := ih
    rw [← faultClassAt_handling n h] at named
    obtain ⟨h', outer⟩ := step.raised inner named
    exact ⟨h', outer⟩

/-- No violated invariant is reported on the way down a chain. -/
theorem Rests.invariantReports (chain : Rests first last) :
    last.machine.invariantReports = first.machine.invariantReports := by
  induction chain using Relation.ReflTransGen.head_induction_on with
  | refl => rfl
  | head step _ ih =>
    rw [ih]
    cases step with
    | check _ _ quiet => exact quiet
    | entry _ _ quiet => exact quiet
    | exit _ _ _ _ _ quiet => exact (invariantReports_atExit _ _).trans quiet

/-! ## The violation of the innermost invariant -/

/-- The check of an invariant that fails raises a new violation, which names the subject and the
checkpoint, after one report, if there are settings to report by. -/
theorem Breaks.raised (found : s.Finds invariant m)
    (broken : s.Breaks invariant m detail shownAs cause q) (settled : q.settled? = some (i, k)) :
    ∃ n context, s.check = (.raised q.heap.size, n) ∧
      n.cell q.heap.size = .fault { s.violation m detail shownAs cause with context } ∧
      n.trace = invariantEntries (m.qualifiedName s.cls) s.checkpoint shownAs i k ++ q.trace := by
  suffices ends : EndsBroken s.check (s.violation m detail shownAs cause) (m.qualifiedName s.cls)
      s.checkpoint shownAs q from ends.raised i k settled
  cases broken with
  | @violated v _ _ n _ _ raises unnamed told tells shows intact =>
    rw [found.check_eq, bind_of_done (attempt_of_raised raises)]
    exact endsBroken_blame unnamed told tells shows intact _ _
  | @gaveFalse v _ gave isFalse intact =>
    rw [found.check_eq, bind_of_done (attempt_of_done gave)]
    unfold verdict
    dsimp only
    rw [if_pos isFalse]
    exact endsBroken_failFalse s.call intact _ _

/-! ## Chains of any length -/

/-- If the innermost of a chain of checks finds its invariant broken, and there are settings to
report by, those in effect or such as the surroundings give, the violation that leaves the outermost
check is the one made for the innermost: it names the innermost subject and checkpoint, and carries
its detail and its cause. Nothing but one report is recorded after the invariant has failed, so
beside what that invariant has reported itself it is the only report of a violated invariant. An
invocation whose entry check is in the chain ends so whatever its body is. -/
theorem innermost_invariant_is_blamed (chain : Rests first last) (found : last.Finds invariant m)
    (broken : last.Breaks invariant m detail shownAs cause q) (settled : q.settled? = some (i, k)) :
    let report := invariantEntries (m.qualifiedName last.cls) last.checkpoint shownAs i k
    ∃ n context, first.check = (.raised q.heap.size, n) ∧
      n.cell q.heap.size = .fault { last.violation m detail shownAs cause with context } ∧
      n.trace = report ++ q.trace ∧
      (∀ own, q.invariantReports = own ++ last.machine.invariantReports →
        n.invariantReports = report ++ (own ++ first.machine.invariantReports)) ∧
      ∀ s, Rests first s → Rests s last → s.checkpoint = .entry → ∀ mode old body, ∃ h,
        ContractRun.run s.call ⟨mode, s.subject, old, body⟩ s.machine =
          (.raised q.heap.size, { n with handling := h }) := by
  intro report
  obtain ⟨n, context, fails, cell, trace⟩ := broken.raised found settled
  have named : (n.faultClassAt q.heap.size).isA .invariantError = true := by
    rw [Machine.faultClassAt_of_cell cell rfl]
    rfl
  obtain ⟨h, raised⟩ := chain.raised fails named
  refine ⟨{ n with handling := h }, context, raised, cell, trace, fun own reported => ?_, ?_⟩
  · change n.trace.filter Entry.reportsInvariant = _
    rw [trace, List.filter_append, filter_invariantEntries, ← chain.invariantReports]
    exact congrArg _ reported
  · intro s _ below entry mode old body
    obtain ⟨h', refused⟩ := below.raised fails named
    unfold check at refused
    rw [entry] at refused
    exact ⟨h', ContractRun.run_of_refused (i := ⟨mode, s.subject, old, body⟩) refused⟩

/-! ## Three accounts -/

/-- Three accounts, whose invariant has been looked up, the violation of a precondition, and a span
that records. -/
def threeAccounts : Machine :=
  { threeFaults with
    heap := #[.object (.known .account) [], .object (.known .account) [],
      .object (.known .account) [], .fault (Side.pre.violation "no funds")]
    lookups := [(.known .account, some (.routine .accountInvariant))]
    current := some 0
    span := .recording }

/-- Invariants that hold, but for that of the third account, which raises the violation. -/
def innermost : Caller := fun _ args _ m =>
  match args with
  | [.ref 2] => (.raised 3, m)
  | _ => (.done .null, m)

/-- Invariants that hold; that of the second account checks the third. -/
def inBetween : Caller := fun _ args _ m =>
  match args with
  | [.ref 1] => (checkAt innermost (.ref 2) .exit >>= fun _ => pure .null) m
  | _ => (.done .null, m)

/-- Invariants that hold; that of the first account makes an invocation on the second. -/
def outermost : Caller := fun _ args _ m =>
  match args with
  | [.ref 0] =>
    (ContractRun.run inBetween ⟨.strict, .ref 1, .null, fun _ _ => pure .null⟩ >>= pure) m
  | _ => (.done .null, m)

/-- The exit check of the first account ends with the violation made for the third, after one
warning and one event. -/
theorem innermost_invariant_is_blamed_three_accounts :
    let first : Station := ⟨outermost, .ref 0, .exit, threeAccounts⟩
    ∃ n context, first.check = (.raised 4, n) ∧
      n.cell 4 = .fault { brokenBy "BankAccount" .exit (.text "no funds") "no funds" (.ref 3) with
        cause := some 3, suppressed := true, context } ∧
      n.invariantReports.length = 2 := by
  intro first
  let second : Station := ⟨inBetween, .ref 1, .entry, first.announced first.machine⟩
  let third : Station := ⟨innermost, .ref 2, .exit, second.announced second.machine⟩
  have known : ∀ found ∈ threeAccounts.lookups, Machine.IsNative found := by
    rintro found mem k same
    rw [List.mem_singleton.1 mem] at same ⊢
    cases same
    rfl
  have plain (e : Option Ref) (trace : List Entry) :
      Machine.Plain { threeAccounts with handling := e, trace } :=
    ⟨rfl, rfl, rfl, known⟩
  have finds (s : Station) (trace : List Entry) (cls : s.cls = .known .account)
      (machine : s.machine = { threeAccounts with trace }) :
      s.Finds (.routine .accountInvariant) s.machine := by
    refine ⟨?_, by rw [machine]; exact tellsCheckpoints_of_plain (plain none trace)⟩
    rw [cls, machine]
    rfl
  -- the invariant of the first account comes to the second, and that one to the third
  have chain : Rests first third :=
    .tail (.single (.entry (i := ⟨.strict, .ref 1, .null, fun _ _ => pure .null⟩)
      (finds first _ rfl rfl) rfl rfl)) (.check (finds second _ rfl rfl) rfl rfl)
  let failed : Machine := { third.announced third.machine with handling := some 3 }
  have told : getAttribute innermost (.ref 3) "message" failed =
      (.done (.text "no funds"), failed) :=
    getAttribute_fault_field (k := .fault .preconditionError) (plain _ _) rfl rfl rfl rfl rfl
  have broken : third.Breaks (.routine .accountInvariant) third.machine (.text "no funds")
      "no funds" (some 3) failed :=
    .violated rfl (by with_unfolding_all decide) told (tellsCheckpoints_of_plain (plain _ _)) rfl
      (plain _ _).intact
  obtain ⟨n, context, raised, cell, -, reports, -⟩ :=
    innermost_invariant_is_blamed chain (finds third _ rfl rfl) broken rfl
  exact ⟨n, context, raised, cell, by rw [reports [] rfl]; rfl⟩

/-! ## Violations that cannot be reported -/

/-- The entry check of an object whose invariant does what is given, on a machine that also has a
number with too many digits for a text, and a value that cannot be told true or false. -/
def doomed (invariant : List Script.Stmt) : Station where
  call := callWithin 3
  subject := .ref 2
  checkpoint := .entry
  machine := { threeFaults with
    heap := #[.scope [("PreconditionError", .cls (.known (.fault .preconditionError))),
        ("many", .int (.ofNat (Nat.pow 10 4300)))] none,
      .closure "invariant" ["self"] invariant 0, .object (.made 0) [],
      .probe ⟨"flag", .fail "no flag", .give "", .give "", .give ""⟩]
    classes := #[⟨"A", "A", none, [("invariant", .ref 1)], []⟩]
    current := some 0 }

/-- The check of an object whose invariant raises a violation with that number as its message. -/
def wordless : Station :=
  doomed [.raise (.call (.name "PreconditionError") [.name "many"] []) none]

/-- The check of an object whose invariant gives `False`. -/
def refuted : Station :=
  doomed [.give (.bool false)]

/-- The same where no settings are in effect, and the surroundings name a profile that is none. -/
def unsettled : Station :=
  { refuted with machine := { refuted.machine with
    current := none
    surroundings := ⟨[("DBCORE_PROFILE", "bogus")], none⟩ } }

/-- The same where a script has put that value in the place of the wish for events. -/
def undecided : Station :=
  { refuted with machine := { refuted.machine with
    attached := [(.config 0, [("emit_span_events", .ref 3)])] } }

/-- A violation whose message has no text ends a check with the fault about that; and if an
invariant gives `False`, the check ends with what is wrong with the settings, or with the wish for
events, where that keeps the violation from being reported. -/
theorem other_faults_of_broken_invariants :
    (wordless.check.1 = .raised 6 ∧ wordless.check.2.faultClassAt 6 = .valueError) ∧
    (unsettled.check.1 = .raised 6 ∧ unsettled.check.2.faultClassAt 6 = .validationError) ∧
    (undecided.check.1 = .raised 6 ∧ undecided.check.2.faultClassAt 6 = .valueError) := by
  refine ⟨⟨?_, ?_⟩, ⟨?_, ?_⟩, ?_, ?_⟩
  all_goals decide +kernel

end Station

end Covenant
