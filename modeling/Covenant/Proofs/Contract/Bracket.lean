import Covenant.Contract.Method
import Covenant.Proofs.Contract.Agreement
import Covenant.Proofs.Contract.Unwinding

/-!
# Bodies between checks that pass

A check of a subject looks its invariant up and, if there is one, records whose invariant is checked
where before it comes to it (`checkAt_of_found`); without one it records nothing
(`checkAt_of_none`). The checks of an invariant that holds do nothing else (`checkAt_of_holds`),
also while a fault is in flight; `ChecksPass` says that this stays so for as long as no cell is
written to. A body that agrees with a calculation therefore agrees with it also between the checks,
in either mode, if the invariant holds before it and, should the calculation give a result, after it
(`runUnder_agrees`). Where the calculation gives a fault the body wrote to no cell, so the exit
check of a strict run passes as the entry check did.
-/

namespace Covenant

/-- The text that is recorded of a check. -/
def checkText (subject : String) (c : Checkpoint) : String :=
  "Checking invariant of " ++ subject ++ " on " ++ c.text

/-- The same machine with the record of the check of a subject of a class. -/
def Machine.announce (m : Machine) (cls : ClassRef) (c : Checkpoint) : Machine :=
  { m with trace := .log .debug .invariant (checkText (m.qualifiedName cls) c) :: m.trace }

namespace Act

variable {call : Caller} {m n : Machine} {k : Known} {r : Routine} {subject old : Value}
  {body : Body} {written : List Ref} {p : Profile}

/-! ## One check -/

/-- What comes of the end of an invariant. -/
def verdict (call : Caller) (subjectType checkpoint : Value) : Except Ref Value → Act Unit
  | .error e => blame call subjectType checkpoint e
  | .ok outcome =>
    if outcome.same (.bool false) then failFalse call subjectType checkpoint else pure ()

/-- Where an invariant is found, the check is recorded, and what is left to do is to judge how the
invariant ends. -/
theorem checkAt_of_found {invariant : Value}
    (found : findInvariant call (m.classOf subject) m = (.done (some invariant), n))
    (tells : TellsCheckpoints call n) (c : Checkpoint) :
    checkAt call subject c m =
      (attempt (call invariant [subject] []) >>=
        verdict call (.text (n.qualifiedName (m.classOf subject))) (.member (.checkpoint c)))
        (n.announce (m.classOf subject) c) := by
  unfold checkAt checkInvariant
  rw [classOf_bind, bind_of_done found]
  dsimp only
  rw [read_bind, bind_of_done (tells c), bind_of_done (plainText_text call _ n)]
  rfl

/-- Where none is found, looking for it is all. -/
theorem checkAt_of_none (found : findInvariant call (m.classOf subject) m = (.done none, n))
    (c : Checkpoint) : checkAt call subject c m = (.done (), n) := by
  unfold checkAt checkInvariant
  rw [classOf_bind, bind_of_done found]
  rfl

/-- An invariant that holds lets the check pass. -/
theorem checkAt_of_found_holds {invariant : Value} {k : Machine} {v : Value} {c : Checkpoint}
    (found : findInvariant call (m.classOf subject) m = (.done (some invariant), n))
    (tells : TellsCheckpoints call n)
    (holds : call invariant [subject] [] (n.announce (m.classOf subject) c) = (.done v, k))
    (good : v.same (.bool false) = false) : checkAt call subject c m = (.done (), k) := by
  rw [checkAt_of_found found tells c, bind_of_done (attempt_of_done holds)]
  unfold verdict
  dsimp only
  rw [good]
  rfl

/-- The invariant of an initial class is the one that it has from the start. Looking for it changes
nothing but what has been looked up. -/
theorem findInvariant_of_plain (call : Caller) (plain : m.Plain)
    (own : k.attribute? "invariant" = some (.routine r)) :
    ∃ lookups, findInvariant call (.known k) m = (.done (some (.routine r)), { m with lookups }) ∧
      m.Grows [] { m with lookups } := by
  unfold findInvariant
  rw [read_bind]
  cases found : m.lookups.find? (·.1 == .known k) with
  | some entry =>
    have native := plain.lookups entry (List.mem_of_find?_eq_some found) k
      (by simpa using List.find?_some found)
    exact ⟨m.lookups, by rw [← own, ← native]; rfl, .refl [] m⟩
  | none =>
    have current : currentInvariant? call (.known k) m = (.done (some (.routine r)), m) := by
      simp only [currentInvariant?, inherited?, bind_assoc, read_bind, plain.classAttribute?, own]
      rfl
    dsimp only
    rw [bind_of_done current]
    refine ⟨_, rfl, .look [] m ?_⟩
    rintro d ⟨⟩
    exact own.symm

/-- The check of an invariant of an initial class that holds records itself, and changes nothing
else but what has been looked up. -/
theorem checkAt_announces (plain : m.Plain) (checked : m.active = .checked)
    (cls : m.classOf subject = .known k) (own : k.attribute? "invariant" = some (.routine r))
    (holds : ∀ n, m.Grows [] n → call (.routine r) [subject] [] n = (.done .null, n))
    (c : Checkpoint) :
    ∃ lookups, checkAt call subject c m =
        (.done (), Machine.announce { m with lookups } (m.classOf subject) c) ∧
      m.Grows [] (Machine.announce { m with lookups } (m.classOf subject) c) := by
  obtain ⟨lookups, found, grew⟩ := findInvariant_of_plain call plain own
  rw [← cls] at found
  have announced := grew.trans (.record [] (grew.active.trans checked)
    (.log .debug .invariant (checkText (m.qualifiedName (m.classOf subject)) c)))
  exact ⟨lookups, checkAt_of_found_holds found (tellsCheckpoints_of_plain (plain.grows grew))
    (holds _ announced) rfl, announced⟩

/-- The check of an invariant that holds passes. -/
theorem checkAt_of_holds (plain : m.Plain) (checked : m.active = .checked)
    (cls : m.classOf subject = .known k) (own : k.attribute? "invariant" = some (.routine r))
    (holds : ∀ n, m.Grows [] n → call (.routine r) [subject] [] n = (.done .null, n))
    (c : Checkpoint) : ∃ n, checkAt call subject c m = (.done (), n) ∧ m.Grows [] n := by
  obtain ⟨lookups, passed, grew⟩ := checkAt_announces plain checked cls own holds c
  exact ⟨_, passed, grew⟩

/-- The checks of a subject pass, also later on and while a fault is being handled, as long as no
cell is written to. -/
def ChecksPass (call : Caller) (subject : Value) (m : Machine) : Prop :=
  ∀ (n : Machine) (e : Option Ref) (c : Checkpoint), m.Grows [] n →
    ∃ k, checkAt call subject c { n with handling := e } = (.done (), k) ∧
      Machine.Grows [] { n with handling := e } k

/-- A check at a time when nothing has changed. -/
theorem ChecksPass.now (pass : ChecksPass call subject m) (c : Checkpoint) :
    ∃ k, checkAt call subject c m = (.done (), k) ∧ m.Grows [] k :=
  pass m m.handling c (.refl [] m)

/-- A check while a fault is in flight. -/
theorem ChecksPass.whileHandling (pass : ChecksPass call subject m) (grew : m.Grows [] n) (e : Ref)
    (c : Checkpoint) :
    ∃ k, Act.whileHandling e (checkAt call subject c) n = (.done (), k) ∧ n.Grows [] k := by
  obtain ⟨k, passed, grows⟩ := pass n (some e) c grew
  exact ⟨{ k with handling := n.handling }, by simp [Act.whileHandling, passed],
    grows.whileHandling⟩

/-! ## A whole run -/

/-- What an invocation gives whose body gives a result between checks that pass. -/
theorem run_of_done {i : ContractRun} {m₁ m₂ : Machine} {v : Value}
    (entry : checkAt call i.subject .entry m = (.done (), m₁))
    (body : i.body i.old i.subject m₁ = (.done v, m₂))
    (exit : checkAt call i.subject .exit m₂ = (.done (), n)) : i.run call m = (.done v, n) := by
  unfold ContractRun.run runIn
  cases i.mode with
  | strict =>
    unfold runStrict
    dsimp only
    rw [bind_of_done entry, bind_of_done (attempt_of_done body)]
    exact bind_of_done exit _
  | errorTolerant =>
    unfold runErrorTolerant
    dsimp only
    rw [bind_of_done entry, bind_of_done body, bind_of_done exit]
    rfl

/-- A fault leaves an invocation as it is if the checks of its subject pass. -/
theorem leave_of_checksPass {i : ContractRun} (pass : ChecksPass call i.subject m)
    (grew : m.Grows [] n) (e : Ref) : ∃ k, i.leave call e n = (.raised e, k) ∧ n.Grows [] k := by
  cases mode : i.mode with
  | errorTolerant => exact ⟨n, leave_errorTolerant mode, .refl [] n⟩
  | strict =>
    cases ordinary : n.isOrdinary e with
    | false => exact ⟨n, leave_of_not_ordinary i ordinary, .refl [] n⟩
    | true =>
      obtain ⟨k, passed, grows⟩ := pass.whileHandling grew e .exit
      exact ⟨k, leave_of_passed mode ordinary passed, grows⟩

/-- A run under a contract whose mode is given as a member is the run of an invocation. -/
theorem runUnder_checked (mode : Mode) :
    runUnder call .checked subject old body (.member (.mode mode)) m =
      ContractRun.run call ⟨mode, subject, old, body⟩ m := by
  cases mode <;> rfl

/-- A strict run in a process is a run under the profile of the process. -/
theorem runActive_eq (ready : m.Ready p) (subject old : Value) (body : Body) :
    runActive call subject old body m =
      runUnder call p subject old body (.member (.mode .strict)) m := by
  unfold runActive
  rw [read_bind, ready.active]
  cases p <;> rfl

/-- A contracted method is run with the snapshot that is taken first. -/
theorem callMethod_of_done {method take : Function} {mode : Value} {args : List Value}
    {named : Fields} (took : take (subject :: args) named m = (.done old, n)) :
    callMethod call p method (some take) mode subject args named m =
      runUnder call p subject old (fun old subject => method (subject :: old :: args) named) mode
        n :=
  bind_of_done took _

/-- A body that agrees with a calculation agrees with it under a contract that holds. -/
theorem runUnder_agrees {β : Type} {calculation : Except Fault β}
    {post : β → Value → Machine → Prop} (mode : Mode)
    (entry : p = .checked → ChecksPass call subject m)
    (agrees : ∀ n, m.Grows [] n → Agrees n written (body old subject n) calculation post)
    (exit : p = .checked → ∀ b v n, calculation = .ok b → m.Grows written n → post b v n →
      ChecksPass call subject n)
    (stable : ∀ b v n k, m.Grows written n → n.Grows [] k → post b v n → post b v k) :
    Agrees m written (runUnder call p subject old body (.member (.mode mode)) m) calculation
      post := by
  cases p with
  | unchecked => exact agrees m (.refl [] m)
  | checked =>
    rw [runUnder_checked]
    obtain ⟨m₁, entered, grew⟩ := (entry rfl).now .entry
    have ran := agrees m₁ grew
    cases calculation with
    | ok b =>
      obtain ⟨v, m₂, gave, wrote, holds⟩ := ran
      have all := grew.weaken.trans wrote
      obtain ⟨n, left, grows⟩ := (exit rfl b v m₂ rfl all holds).now .exit
      exact .of_done (run_of_done (i := ⟨mode, subject, old, body⟩) entered gave left)
        (all.trans grows.weaken) (stable b v m₂ n all grows holds)
    | error f =>
      obtain ⟨e, m₂, raised, wrote, cell⟩ := ran
      have all := grew.trans wrote
      obtain ⟨n, left, grows⟩ :=
        leave_of_checksPass (i := ⟨mode, subject, old, body⟩) (entry rfl) all e
      have out := (run_of_raised (i := ⟨mode, subject, old, body⟩) entered raised).trans left
      exact .of_raised out (all.trans grows) (grows.cell_eq cell nofun List.not_mem_nil)

end Act

end Covenant
