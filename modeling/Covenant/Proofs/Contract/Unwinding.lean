import Covenant.Proofs.Machine.Fault

/-!
# Unwinding through nested contracts

A fault that the innermost of several nested invocations raises passes the others on its way out.
`RaisedWithin` says that a stack of invocations has been entered one within the other and that the
innermost body then raises; the bodies in between may do anything before and after the invocation
that they make, but catch nothing. `unwind` is what happens from there on, one invocation after the
other (`ContractRun.leave`), and `RaisedWithin.run_eq` says that nothing else does.

Which exit checks are made on the way is a matter of the modes and of the fault alone: none if the
fault is not ordinary (`unwind_of_not_ordinary`), and else those of the strict invocations from the
innermost on (`exitChecks`), for as long as what is in flight stays ordinary (`Passage`,
`unwind_of_passage`). A check that fails replaces the fault in flight, so the violation of an
invariant ends the checking for all invocations further out (`unwind_of_violated`).
-/

namespace Covenant

/-- A body to be run under a contract. -/
structure ContractRun where
  mode : Mode
  subject : Value
  old : Value
  body : Body

namespace ContractRun

/-- Runs the body under its contract. -/
def run (call : Caller) (i : ContractRun) : Act Value :=
  Act.runIn call i.mode i.subject i.old i.body

/-- What a fault that comes out of the body meets before it leaves the invocation. -/
def leave (call : Caller) (i : ContractRun) (e : Ref) : Act Value :=
  match i.mode with
  | .strict => do
    if ← Act.isOrdinary e then Act.whileHandling e (Act.checkAt call i.subject .exit)
    Act.rethrow e
  | .errorTolerant => Act.rethrow e

end ContractRun

namespace Act

/-- The invocations of a stack, outermost first, have been entered one within the other, and the
innermost body raises `x` on the machine `n`. Every entry check passes. A body further out comes to
the point where it makes the next invocation, and what it does after that (`rest`) has no say in
what becomes of a fault. -/
inductive RaisedWithin (call : Caller) (x : Ref) (n : Machine) : List ContractRun → Machine → Prop
  | innermost {i : ContractRun} {m m₁ : Machine} :
      checkAt call i.subject .entry m = (.done (), m₁) →
      i.body i.old i.subject m₁ = (.raised x, n) → RaisedWithin call x n [i] m
  | within {i j : ContractRun} {stack : List ContractRun} {m m₁ m₂ : Machine}
      (rest : Value → Act Value) :
      checkAt call i.subject .entry m = (.done (), m₁) →
      i.body i.old i.subject m₁ = (j.run call >>= rest) m₂ →
      RaisedWithin call x n (j :: stack) m₂ → RaisedWithin call x n (i :: j :: stack) m

/-- The way of a fault out of a stack of invocations, outermost first: the innermost is left first,
and what comes out of it meets the next one. -/
def unwind (call : Caller) : List ContractRun → Ref → Act Value
  | [], e => rethrow e
  | i :: inner, e => fun m =>
    match unwind call inner e m with
    | (.raised e, m) => i.leave call e m
    | r => r

/-- The subjects of the strict invocations of a stack, from the innermost on. -/
def exitChecks (stack : List ContractRun) : List Value :=
  ((stack.filter fun i => i.mode = .strict).map (·.subject)).reverse

/-- An ordinary fault in flight passes the exit checks of some subjects, and all of them pass. -/
inductive ExitsPass (call : Caller) (x : Ref) : List Value → Machine → Machine → Prop
  | nil {m : Machine} : ExitsPass call x [] m m
  | cons {s : Value} {rest : List Value} {m m₁ n : Machine} : m.isOrdinary x = true →
      whileHandling x (checkAt call s .exit) m = (.done (), m₁) → ExitsPass call x rest m₁ n →
      ExitsPass call x (s :: rest) m n

/-- A fault in flight comes through the exit checks of some subjects, each of which finds it
ordinary. A check that fails puts its own fault in the place of the one in flight. -/
inductive Passage (call : Caller) : List Value → Ref → Machine → Ref → Machine → Prop
  | nil {x : Ref} {m : Machine} : Passage call [] x m x m
  | passed {s : Value} {rest : List Value} {x y : Ref} {m m₁ n : Machine} :
      m.isOrdinary x = true → whileHandling x (checkAt call s .exit) m = (.done (), m₁) →
      Passage call rest x m₁ y n → Passage call (s :: rest) x m y n
  | replaced {s : Value} {rest : List Value} {x x' y : Ref} {m m₁ n : Machine} :
      m.isOrdinary x = true → whileHandling x (checkAt call s .exit) m = (.raised x', m₁) →
      Passage call rest x' m₁ y n → Passage call (s :: rest) x m y n

variable {call : Caller} {x y : Ref} {m m₁ n : Machine} {stack : List ContractRun}

/-! ## One invocation -/

/-- What leaves an invocation whose entry check passes and whose body raises. -/
theorem run_of_raised {i : ContractRun} {e : Ref}
    (entry : checkAt call i.subject .entry m = (.done (), m₁))
    (body : i.body i.old i.subject m₁ = (.raised e, n)) : i.run call m = i.leave call e n := by
  unfold ContractRun.run ContractRun.leave runIn
  cases i.mode with
  | strict =>
    have caught : attempt (i.body i.old i.subject) m₁ = (.done (.error e), n) := by
      simp [attempt, body]
    unfold runStrict
    dsimp only
    rw [bind_of_done entry, bind_of_done caught]
  | errorTolerant =>
    unfold runErrorTolerant
    dsimp only
    rw [bind_of_done entry, bind_of_raised body]
    rfl

/-- A fault that is not ordinary leaves every invocation at once. -/
theorem leave_of_not_ordinary (i : ContractRun) (h : n.isOrdinary x = false) :
    i.leave call x n = (.raised x, n) := by
  unfold ContractRun.leave
  cases i.mode with
  | strict =>
    dsimp only
    rw [bind_of_done (isOrdinary_apply x n), h]
    rfl
  | errorTolerant => rfl

/-- Every fault leaves an error-tolerant invocation at once. -/
theorem leave_errorTolerant {i : ContractRun} (h : i.mode = .errorTolerant) :
    i.leave call x n = (.raised x, n) := by
  unfold ContractRun.leave
  rw [h]
  rfl

/-- An ordinary fault leaves a strict invocation whose exit check passes. -/
theorem leave_of_passed {i : ContractRun} (strict : i.mode = .strict)
    (ordinary : m.isOrdinary x = true)
    (passed : whileHandling x (checkAt call i.subject .exit) m = (.done (), m₁)) :
    i.leave call x m = (.raised x, m₁) := by
  unfold ContractRun.leave
  rw [strict]
  dsimp only
  rw [bind_of_done (isOrdinary_apply x m), ordinary, if_pos rfl, bind_of_done passed]
  rfl

/-- If the exit check of a strict invocation fails, its own fault leaves in the place of an
ordinary one. -/
theorem leave_of_failed {i : ContractRun} (strict : i.mode = .strict)
    (ordinary : m.isOrdinary x = true)
    (failed : whileHandling x (checkAt call i.subject .exit) m = (.raised y, m₁)) :
    i.leave call x m = (.raised y, m₁) := by
  unfold ContractRun.leave
  rw [strict]
  dsimp only
  rw [bind_of_done (isOrdinary_apply x m), ordinary, if_pos rfl, bind_of_raised failed]

/-! ## The whole stack -/

/-- What leaves the inner invocations is what the outermost one has to do with. -/
theorem unwind_cons_of_raised (i : ContractRun) (inside : unwind call stack x n = (.raised y, m)) :
    unwind call (i :: stack) x n = i.leave call y m := by
  simp [unwind, inside]

/-- What leaves a stack left the invocations inside the outermost one first. -/
theorem unwind_cons_eq_raised {i : ContractRun}
    (h : unwind call (i :: stack) x n = (.raised y, m)) :
    ∃ e k, unwind call stack x n = (.raised e, k) ∧ i.leave call e k = (.raised y, m) := by
  unfold unwind at h
  split at h
  next e k inside => exact ⟨e, k, inside, h⟩
  next notRaised => exact absurd h (notRaised y m)

/-- What unwinding the fault of the innermost body leads to is how the outermost invocation
ends. -/
theorem RaisedWithin.run_eq {i : ContractRun} (h : RaisedWithin call x n (i :: stack) m)
    (out : unwind call (i :: stack) x n = (.raised y, m₁)) : i.run call m = (.raised y, m₁) := by
  induction stack generalizing i m y m₁ with
  | nil =>
    cases h with
    | innermost entry body => rw [run_of_raised entry body]; exact out
  | cons j stack ih =>
    cases h with
    | within rest entry body inner =>
      obtain ⟨e, k, inside, left⟩ := unwind_cons_eq_raised out
      rw [run_of_raised entry (body.trans (bind_of_raised (ih inner inside) rest)), left]

/-- Invocations further out have no say in a fault that is not ordinary when it comes to them. -/
theorem unwind_append_of_not_ordinary (outer : List ContractRun)
    (inside : unwind call stack x n = (.raised y, m)) (h : m.isOrdinary y = false) :
    unwind call (outer ++ stack) x n = (.raised y, m) := by
  induction outer with
  | nil => exact inside
  | cons i outer ih =>
    rw [List.cons_append, unwind_cons_of_raised i ih]
    exact leave_of_not_ordinary i h

/-- A fault that is not ordinary leaves the whole stack at once. -/
theorem unwind_of_not_ordinary (stack : List ContractRun) (h : n.isOrdinary x = false) :
    unwind call stack x n = (.raised x, n) := by
  have inside : unwind call [] x n = (.raised x, n) := rfl
  simpa using unwind_append_of_not_ordinary stack inside h

theorem exitChecks_cons_strict {i : ContractRun} (h : i.mode = .strict) :
    exitChecks (i :: stack) = exitChecks stack ++ [i.subject] := by
  simp [exitChecks, h]

theorem exitChecks_cons_errorTolerant {i : ContractRun} (h : i.mode = .errorTolerant) :
    exitChecks (i :: stack) = exitChecks stack := by
  simp [exitChecks, h]

/-- A passage through the checks of two runs of subjects comes to a point in between. -/
theorem Passage.of_append {first second : List Value}
    (h : Passage call (first ++ second) x m y n) :
    ∃ z k, Passage call first x m z k ∧ Passage call second z k y n := by
  induction first generalizing x m with
  | nil => exact ⟨x, m, .nil, h⟩
  | cons s first ih =>
    cases h with
    | passed ordinary check rest =>
      obtain ⟨z, k, before, after⟩ := ih rest
      exact ⟨z, k, .passed ordinary check before, after⟩
    | replaced ordinary check rest =>
      obtain ⟨z, k, before, after⟩ := ih rest
      exact ⟨z, k, .replaced ordinary check before, after⟩

/-- The fault leaves the stack as it comes through the exit checks of the strict invocations, and
no other check is made. -/
theorem unwind_of_passage (h : Passage call (exitChecks stack) x n y m) :
    unwind call stack x n = (.raised y, m) := by
  induction stack generalizing y m with
  | nil => cases h; rfl
  | cons i stack ih =>
    cases mode : i.mode with
    | strict =>
      rw [exitChecks_cons_strict mode] at h
      obtain ⟨z, k, before, last⟩ := h.of_append
      rw [unwind_cons_of_raised i (ih before)]
      cases last with
      | passed ordinary check rest => cases rest; exact leave_of_passed mode ordinary check
      | replaced ordinary check rest => cases rest; exact leave_of_failed mode ordinary check
    | errorTolerant =>
      rw [exitChecks_cons_errorTolerant mode] at h
      rw [unwind_cons_of_raised i (ih h)]
      exact leave_errorTolerant mode

/-- Checks that pass let the fault in flight through as it is. -/
theorem ExitsPass.passage {subjects : List Value} (h : ExitsPass call x subjects m n) :
    Passage call subjects x m x n := by
  induction h with
  | nil => exact .nil
  | cons ordinary check _ ih => exact .passed ordinary check ih

/-- If the exit check of a strict invocation fails because the invariant is violated, that
violation leaves the stack, whatever stands further out. -/
theorem unwind_of_violated {k : ContractRun} {inner : List ContractRun} {z : Ref}
    (outer : List ContractRun) (strict : k.mode = .strict)
    (before : Passage call (exitChecks inner) x n y m) (ordinary : m.isOrdinary y = true)
    (failed : whileHandling y (checkAt call k.subject .exit) m = (.raised z, m₁))
    (violated : (m₁.faultClassAt z).isA .invariantError = true) :
    unwind call (outer ++ k :: inner) x n = (.raised z, m₁) := by
  apply unwind_append_of_not_ordinary
  · rw [unwind_cons_of_raised k (unwind_of_passage before)]
    exact leave_of_failed strict ordinary failed
  · exact Machine.isOrdinary_eq_false_iff.2
      (.inl (FaultClass.isA_violation_of_isA_invariantError violated))

/-- The way of a fault `x` out of nested contracts, when the innermost body raises it on `n`. A
fault that is not ordinary leaves the outermost invocation at once, on the very machine on which it
was raised. An ordinary one meets the exit checks of the strict invocations, from the innermost on:
if they pass, it leaves on the machine that they end in; if the one of an invocation `k` fails
because the invariant is violated, that violation leaves, on the machine that this check ends in. -/
theorem nested_contracts_unwind {i : ContractRun}
    (nested : RaisedWithin call x n (i :: stack) m) :
    ((n.faultClassAt x).isA .violation = true ∨ (n.faultClassAt x).isA .exception = false →
      i.run call m = (.raised x, n)) ∧
    ((n.faultClassAt x).isA .exception = true ∧ (n.faultClassAt x).isA .violation = false →
      (∀ n', ExitsPass call x (exitChecks (i :: stack)) n n' → i.run call m = (.raised x, n')) ∧
      ∀ outer k inner y n₁ z n₂, i :: stack = outer ++ k :: inner → k.mode = .strict →
        Passage call (exitChecks inner) x n y n₁ → n₁.isOrdinary y = true →
        whileHandling y (checkAt call k.subject .exit) n₁ = (.raised z, n₂) →
        (n₂.faultClassAt z).isA .invariantError = true → i.run call m = (.raised z, n₂)) := by
  refine ⟨fun aborts => ?_, fun _ => ⟨fun n' pass => ?_, ?_⟩⟩
  · exact nested.run_eq (unwind_of_not_ordinary _ (Machine.isOrdinary_eq_false_iff.2 aborts))
  · exact nested.run_eq (unwind_of_passage pass.passage)
  · intro outer k inner y n₁ z n₂ split strict before ordinary failed violated
    have out := unwind_of_violated outer strict before ordinary failed violated
    rw [← split] at out
    exact nested.run_eq out

/-! ## Three invocations -/

/-- A machine with an ordinary fault, a precondition's and an invariant's violation, and two
accounts. -/
def threeFaults : Machine where
  heap := #[.fault (.fresh (.known (.fault .valueError)) [] []),
    .fault (.fresh (.known (.fault .preconditionError)) [] []),
    .fault (.fresh (.known (.fault .invariantError)) [] []),
    .object (.known .account) [], .object (.known .account) []]
  classes := #[]
  patches := []
  lookups := []
  remembered := []
  fitting := []
  attached := []
  handling := none
  configs := #[]
  current := none
  surroundings := ⟨[], none⟩
  optimized := false
  active := .checked
  span := .none
  trace := []
  showing := []
  marks := 0

/-- Invariants that hold, but for that of the second account while a fault is in flight. -/
def brittle : Caller := fun _ args _ m =>
  match args, m.handling with
  | [.ref 4], some _ => (.raised 2, m)
  | _, _ => (.done .null, m)

/-- A strict, an error-tolerant and a strict invocation one within the other, the first and the last
on given subjects; the innermost body raises a fault. -/
def threeDeep (outermost innermost : Value) (e : Ref) : ContractRun × List ContractRun :=
  let last : ContractRun := ⟨.strict, innermost, .null, fun _ _ => rethrow e⟩
  let middle : ContractRun := ⟨.errorTolerant, .ref 4, .null, fun _ _ => last.run brittle⟩
  (⟨.strict, outermost, .null, fun _ _ => middle.run brittle⟩, [middle, last])

/-- The machine after the entry checks of the three invocations. -/
def threeEntered (outermost innermost : Value) : Machine :=
  let enter (s : Value) (m : Machine) : Machine := (checkAt brittle s .entry m).2
  enter innermost (enter (.ref 4) (enter outermost threeFaults))

/-- Violations leave at once; an ordinary fault passes two exit checks; and where the innermost exit
check fails, its violation leaves. -/
theorem nested_contracts_unwind_three_deep :
    ((threeDeep (.ref 3) (.ref 3) 1).1.run brittle threeFaults =
      (.raised 1, threeEntered (.ref 3) (.ref 3))) ∧
    (∃ n', ExitsPass brittle 0 [.ref 3, .ref 3] (threeEntered (.ref 3) (.ref 3)) n' ∧
      (threeDeep (.ref 3) (.ref 3) 0).1.run brittle threeFaults = (.raised 0, n')) ∧
    ∃ n₂, (threeDeep (.ref 3) (.ref 4) 0).1.run brittle threeFaults = (.raised 2, n₂) := by
  have nested (b : Value) (e : Ref)
      (first : (checkAt brittle (.ref 3) .entry threeFaults).1 = .done ())
      (second : (checkAt brittle (.ref 4) .entry
        (checkAt brittle (.ref 3) .entry threeFaults).2).1 = .done ())
      (third : (checkAt brittle b .entry (checkAt brittle (.ref 4) .entry
        (checkAt brittle (.ref 3) .entry threeFaults).2).2).1 = .done ()) :
      RaisedWithin brittle e (threeEntered (.ref 3) b)
        ((threeDeep (.ref 3) b e).1 :: (threeDeep (.ref 3) b e).2) threeFaults := by
    refine .within pure (Prod.ext first rfl) ?_ (.within pure (Prod.ext second rfl) ?_
      (.innermost (Prod.ext third rfl) rfl))
    · rw [bind_pure]; rfl
    · rw [bind_pure]
  have passing (e : Ref) := nested (.ref 3) e (by decide +kernel) (by decide +kernel)
    (by decide +kernel)
  have failing := nested (.ref 4) 0 (by decide +kernel) (by decide +kernel) (by decide +kernel)
  have exits : ExitsPass brittle 0 [.ref 3, .ref 3] (threeEntered (.ref 3) (.ref 3))
      (whileHandling 0 (checkAt brittle (.ref 3) .exit) (whileHandling 0
        (checkAt brittle (.ref 3) .exit) (threeEntered (.ref 3) (.ref 3))).2).2 :=
    .cons (by decide +kernel) (Prod.ext (by decide +kernel) rfl)
      (.cons (by decide +kernel) (Prod.ext (by decide +kernel) rfl) .nil)
  have violated := ((nested_contracts_unwind failing).2 (by decide +kernel)).2
    [(threeDeep (.ref 3) (.ref 4) 0).1, ⟨.errorTolerant, .ref 4, .null, _⟩]
    ⟨.strict, .ref 4, .null, _⟩ [] 0 _ 2 _ rfl rfl .nil (by decide +kernel)
    (Prod.ext (by decide +kernel) rfl) (by decide +kernel)
  exact ⟨(nested_contracts_unwind (passing 1)).1 (by decide +kernel),
    ⟨_, exits, ((nested_contracts_unwind (passing 0)).2 (by decide +kernel)).1 _ exits⟩,
    _, violated⟩

end Act

end Covenant
