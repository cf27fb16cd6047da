import Covenant.Proofs.Contract.Bracket

/-!
# The course of one invocation

An invocation makes the entry check, runs its body on the machine which that check leaves, and makes
at most one exit check. Whether it makes one is a matter of how the body ended and of the mode
(`ContractRun.ExitDue`), and the check is made on the machine that the body left, while the fault of
the body, if there is one, counts as being handled (`exitCheck`). A check that fails puts its own
fault in the place of what the body ended with; one that passes changes nothing about it
(`endChecked`).

`ContractRun.run_of_due` and `ContractRun.run_of_not_due` say this of both modes at once. The modes
part only where the body raises an ordinary fault (`ContractRun.RaisesOrdinary`): everywhere else
the two runs are the same, and there the strict one is the error-tolerant one with an exit check
after it.
-/

namespace Covenant

namespace Act

/-- Ends as given. -/
def endAs (o : Outcome Value) : Act Value :=
  fun m => (o, m)

/-- The exit check after a body that ended in a given way. A fault of the body is being handled
meanwhile. -/
def exitCheck (call : Caller) (subject : Value) : Outcome Value → Act Unit
  | .raised e => whileHandling e (checkAt call subject .exit)
  | _ => checkAt call subject .exit

/-- Makes the exit check after an end, which stays as it is if the check passes. -/
def endChecked (call : Caller) (subject : Value) (o : Outcome Value) : Act Value := do
  exitCheck call subject o
  endAs o

end Act

namespace ContractRun

open Act

/-- An end of the body after which the exit check is made: it returned, or it raised an exception
that is no violation and the mode is strict. -/
def ExitDue (i : ContractRun) : Outcome Value → Machine → Prop
  | .done _, _ => True
  | .raised e, n => i.mode = .strict ∧
      (n.faultClassAt e).isA .exception = true ∧ (n.faultClassAt e).isA .violation = false
  | .exhausted, _ => False

/-- The body is run and raises the ordinary fault `x` on `n`. -/
def RaisesOrdinary (call : Caller) (i : ContractRun) (m : Machine) (x : Ref) (n : Machine) : Prop :=
  ∃ m₁, checkAt call i.subject .entry m = (.done (), m₁) ∧
    i.body i.old i.subject m₁ = (.raised x, n) ∧ n.isOrdinary x = true

variable {call : Caller} {i : ContractRun} {m m₁ n k : Machine} {o : Outcome Value} {e x : Ref}

theorem exitDue_raised_iff :
    i.ExitDue (.raised e) n ↔ i.mode = .strict ∧ n.isOrdinary e = true := by
  simp [ExitDue, Machine.isOrdinary]

/-! ## The entry check -/

/-- What an invocation does before its body is the entry check and nothing else. -/
theorem run_eq_entry_bind (call : Caller) (i : ContractRun) :
    ∃ rest : Act Value, i.run call = (checkAt call i.subject .entry >>= fun _ => rest) := by
  unfold run runIn
  cases i.mode with
  | strict => exact ⟨_, rfl⟩
  | errorTolerant => exact ⟨_, rfl⟩

/-- An entry check that fails ends the invocation. -/
theorem run_of_refused (entry : checkAt call i.subject .entry m = (.raised e, m₁)) :
    i.run call m = (.raised e, m₁) := by
  obtain ⟨rest, eq⟩ := run_eq_entry_bind call i
  rw [eq, bind_of_raised entry]

/-- An entry check for which there is not enough depth ends the invocation. -/
theorem run_of_entry_exhausted (entry : checkAt call i.subject .entry m = (.exhausted, m₁)) :
    i.run call m = (.exhausted, m₁) := by
  obtain ⟨rest, eq⟩ := run_eq_entry_bind call i
  rw [eq, bind_of_exhausted entry]

/-! ## The body and the exit check -/

/-- A body for which there is not enough depth ends the invocation. -/
theorem run_of_body_exhausted (entry : checkAt call i.subject .entry m = (.done (), m₁))
    (body : i.body i.old i.subject m₁ = (.exhausted, n)) : i.run call m = (.exhausted, n) := by
  unfold run runIn
  cases i.mode with
  | strict =>
    have caught : attempt (i.body i.old i.subject) m₁ = (.exhausted, n) := by
      simp [attempt, body]
    unfold runStrict
    dsimp only
    rw [bind_of_done entry, bind_of_exhausted caught]
  | errorTolerant =>
    unfold runErrorTolerant
    dsimp only
    rw [bind_of_done entry, bind_of_exhausted body]

/-- What becomes of a result of the body. -/
theorem run_of_returned {v : Value} (entry : checkAt call i.subject .entry m = (.done (), m₁))
    (body : i.body i.old i.subject m₁ = (.done v, n)) :
    i.run call m = endChecked call i.subject (.done v) n := by
  unfold run runIn
  cases i.mode with
  | strict =>
    unfold runStrict
    dsimp only
    rw [bind_of_done entry, bind_of_done (attempt_of_done body)]
    rfl
  | errorTolerant =>
    unfold runErrorTolerant
    dsimp only
    rw [bind_of_done entry, bind_of_done body]
    rfl

/-- Where the exit check is due it is made on the machine that the body left. -/
theorem run_of_due (entry : checkAt call i.subject .entry m = (.done (), m₁))
    (body : i.body i.old i.subject m₁ = (o, n)) (due : i.ExitDue o n) :
    i.run call m = endChecked call i.subject o n := by
  cases o with
  | done v => exact run_of_returned entry body
  | raised e =>
    obtain ⟨strict, ordinary⟩ := exitDue_raised_iff.1 due
    rw [run_of_raised entry body]
    unfold leave
    rw [strict]
    dsimp only
    rw [bind_of_done (isOrdinary_apply e n), ordinary, if_pos rfl]
    rfl
  | exhausted => exact due.elim

/-- Where the exit check is not due the invocation ends as its body did. -/
theorem run_of_not_due (entry : checkAt call i.subject .entry m = (.done (), m₁))
    (body : i.body i.old i.subject m₁ = (o, n)) (skip : ¬ i.ExitDue o n) :
    i.run call m = (o, n) := by
  cases o with
  | done v => exact absurd trivial skip
  | raised e =>
    rw [run_of_raised entry body]
    cases mode : i.mode with
    | errorTolerant => exact leave_errorTolerant mode
    | strict =>
      refine leave_of_not_ordinary i (Bool.eq_false_iff.2 fun ordinary => skip ?_)
      exact exitDue_raised_iff.2 ⟨mode, ordinary⟩
  | exhausted => exact run_of_body_exhausted entry body

/-- The body has a say in the run only by what it does with the old state and the subject on the
machine that the entry check leaves. -/
theorem run_congr_body (entry : checkAt call i.subject .entry m = (.done (), m₁)) {body : Body}
    (same : body i.old i.subject m₁ = i.body i.old i.subject m₁) :
    ContractRun.run call { i with body } m = i.run call m := by
  obtain ⟨o, n, ran⟩ : ∃ o n, i.body i.old i.subject m₁ = (o, n) := ⟨_, _, rfl⟩
  have ranToo : body i.old i.subject m₁ = (o, n) := same.trans ran
  by_cases due : i.ExitDue o n
  · rw [run_of_due entry ran due]
    exact run_of_due (i := { i with body }) entry ranToo due
  · rw [run_of_not_due entry ran due]
    exact run_of_not_due (i := { i with body }) entry ranToo due

/-! ## The two modes -/

/-- Where the body raises no ordinary fault the mode does not matter. -/
theorem run_mode_irrelevant (h : ∀ x n, ¬ i.RaisesOrdinary call m x n) (mode : Mode) :
    ContractRun.run call { i with mode } m = i.run call m := by
  obtain ⟨r, m₁, entry⟩ : ∃ r m₁, checkAt call i.subject .entry m = (r, m₁) := ⟨_, _, rfl⟩
  cases r with
  | raised e =>
    rw [run_of_refused entry]
    exact run_of_refused (i := { i with mode }) entry
  | exhausted =>
    rw [run_of_entry_exhausted entry]
    exact run_of_entry_exhausted (i := { i with mode }) entry
  | done u =>
    obtain ⟨o, n, ran⟩ : ∃ o n, i.body i.old i.subject m₁ = (o, n) := ⟨_, _, rfl⟩
    have dueIff : ContractRun.ExitDue { i with mode } o n ↔ i.ExitDue o n := by
      cases o with
      | raised e =>
        have plain : ¬ n.isOrdinary e = true := fun ordinary =>
          h e n ⟨m₁, entry, ran, ordinary⟩
        simp [exitDue_raised_iff, plain]
      | _ => exact Iff.rfl
    by_cases due : i.ExitDue o n
    · rw [run_of_due entry ran due]
      exact run_of_due (i := { i with mode }) entry ran (dueIff.2 due)
    · rw [run_of_not_due entry ran due]
      exact run_of_not_due (i := { i with mode }) entry ran (due ∘ dueIff.1)

/-- An ordinary fault of the body leaves an error-tolerant run as it is and is followed by an exit
check in a strict one. -/
theorem runs_of_raisesOrdinary (h : i.RaisesOrdinary call m x n) :
    runErrorTolerant call i.subject i.old i.body m = (.raised x, n) ∧
      runStrict call i.subject i.old i.body m = endChecked call i.subject (.raised x) n := by
  obtain ⟨m₁, entry, body, ordinary⟩ := h
  constructor
  · refine run_of_not_due (i := { i with mode := .errorTolerant }) entry body ?_
    simp [exitDue_raised_iff]
  · exact run_of_due (i := { i with mode := .strict }) entry body
      (exitDue_raised_iff.2 ⟨rfl, ordinary⟩)

/-- The course of an invocation and the agreement of the two modes. An entry check that fails ends
the run whatever the body is. After one that passes the body is run once, on what that check leaves.
The exit check is made if it is due and not otherwise, on the very machine that the body left; if it
fails, its fault is the outcome, and else what the body ended with is, the same value or the same
fault. Strict and error-tolerant runs end alike, on the same machine with the same trace, unless the
body raises an ordinary fault; then the strict run is the error-tolerant one followed by one exit
check. -/
theorem invocation_is_bracketed (call : Caller) (i : ContractRun) (m : Machine) :
    (∀ e m₁, checkAt call i.subject .entry m = (.raised e, m₁) →
      ∀ body, ContractRun.run call { i with body } m = (.raised e, m₁)) ∧
    (∀ m₁, checkAt call i.subject .entry m = (.done (), m₁) →
      (∀ body : Body, body i.old i.subject m₁ = i.body i.old i.subject m₁ →
        ContractRun.run call { i with body } m = i.run call m) ∧
      ∀ o n, i.body i.old i.subject m₁ = (o, n) →
        (¬ i.ExitDue o n → i.run call m = (o, n)) ∧
        (i.ExitDue o n → i.run call m = endChecked call i.subject o n ∧
          (∀ y k, exitCheck call i.subject o n = (.raised y, k) → i.run call m = (.raised y, k)) ∧
          ∀ k, exitCheck call i.subject o n = (.done (), k) → i.run call m = (o, k))) ∧
    ((∀ x n, ¬ i.RaisesOrdinary call m x n) →
      runStrict call i.subject i.old i.body m = runErrorTolerant call i.subject i.old i.body m) ∧
    (∀ x n, i.RaisesOrdinary call m x n →
      runErrorTolerant call i.subject i.old i.body m = (.raised x, n) ∧
        runStrict call i.subject i.old i.body m = endChecked call i.subject (.raised x) n) := by
  refine ⟨fun e m₁ entry body => ?_, fun m₁ entry => ⟨fun body same => ?_, fun o n ran => ?_⟩,
    fun h => ?_, fun x n h => runs_of_raisesOrdinary h⟩
  · exact run_of_refused (i := { i with body }) entry
  · exact run_congr_body entry same
  · refine ⟨run_of_not_due entry ran, fun due => ?_⟩
    rw [run_of_due entry ran due]
    exact ⟨rfl, fun y k failed => bind_of_raised failed _, fun k passed => bind_of_done passed _⟩
  · have strict := run_mode_irrelevant h .strict
    have tolerant := run_mode_irrelevant h .errorTolerant
    exact strict.trans tolerant.symm

/-- The invocation on the second account whose body raises the ordinary fault: an error-tolerant run
ends with that fault, and a strict one with the violation that its exit check raises. -/
theorem invocation_is_bracketed_second_account :
    let i : ContractRun := ⟨.strict, .ref 4, .null, fun _ _ => rethrow 0⟩
    let entered := (checkAt brittle (.ref 4) .entry threeFaults).2
    i.RaisesOrdinary brittle threeFaults 0 entered ∧
      runErrorTolerant brittle (.ref 4) .null i.body threeFaults = (.raised 0, entered) ∧
      ∃ k, runStrict brittle (.ref 4) .null i.body threeFaults = (.raised 2, k) := by
  intro i entered
  have entry : checkAt brittle (.ref 4) .entry threeFaults = (.done (), entered) :=
    Prod.ext (by decide +kernel) rfl
  have raises : i.RaisesOrdinary brittle threeFaults 0 entered :=
    ⟨entered, entry, rfl, by decide +kernel⟩
  obtain ⟨-, course, -, modes⟩ := invocation_is_bracketed brittle i threeFaults
  have due : i.ExitDue (.raised 0) entered := exitDue_raised_iff.2 ⟨rfl, by decide +kernel⟩
  have failed : (exitCheck brittle (.ref 4) (.raised 0) entered).1 = .raised 2 := by decide +kernel
  exact ⟨raises, (modes 0 entered raises).1, _,
    (((course entered entry).2 _ _ rfl).2 due).2.1 2 _ (Prod.ext failed rfl)⟩

end ContractRun

end Covenant
