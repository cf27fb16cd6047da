import Covenant.Contract.Active
import Covenant.Proofs.Contract.Report
import Covenant.Script.Call

/-!
# Runs that agree with a calculation

What code under contract comes to can be calculated without a machine: a result, or the fault of
the first demand that is not met. `Act.Agrees` ties a run to such a calculation. Where the
calculation gives a result, so does the run, and it writes to given cells only; where it gives a
fault, the run raises that fault and writes to no cell at all. Agreement goes through sequences
(`Agrees.demand`), so that a body is followed check by check.

Each assertion agrees with a `demand`, which is met by everything in a process that does not check:
`assertThat_agrees`, `assertContext_agrees`, `assertFormatted_agrees` and, for the validator of
positive numbers, `assertPositive_agrees`. An assertion that holds passes on every machine
(`assertThat_of_true` and its like).
-/

namespace Covenant

/-- What a run can rely on in a process under a profile: the machine is plain, and no fault is being
handled. -/
structure Machine.Ready (m : Machine) (p : Profile) : Prop where
  plain : m.Plain
  free : m.handling = none
  active : m.active = p

/-- A machine that is ready grows to one that is. -/
theorem Machine.Ready.grows {m n : Machine} {p : Profile} {written : List Ref} (ready : m.Ready p)
    (h : m.Grows written n) : n.Ready p :=
  ⟨ready.plain.grows h, h.handling.trans ready.free, h.active.trans ready.active⟩

/-- Meets a demand, unless the process checks and it does not hold. -/
def demand (p : Profile) (ok : Bool) (f : Fault) : Except Fault Unit :=
  if p = .checked ∧ ok = false then .error f else .ok ()

@[simp] theorem demand_true (p : Profile) (f : Fault) : demand p true f = .ok () := by
  simp [demand]

@[simp] theorem demand_unchecked (ok : Bool) (f : Fault) : demand .unchecked ok f = .ok () := by
  simp [demand]

@[simp] theorem demand_false (f : Fault) : demand .checked false f = .error f := by
  simp [demand]

/-- A demand that is met holds, if the process checks. -/
theorem demand_eq_ok_iff {p : Profile} {ok : Bool} {f : Fault} :
    demand p ok f = .ok () ↔ (p = .checked → ok = true) := by
  cases p <;> cases ok <;> simp

/-- What comes after a demand gives its result if the demand is met. -/
theorem demand_bind_eq_ok_iff {β : Type} {p : Profile} {ok : Bool} {f : Fault}
    {k : Unit → Except Fault β} {b : β} :
    (demand p ok f >>= k) = .ok b ↔ (p = .checked → ok = true) ∧ k () = .ok b := by
  cases p <;> cases ok <;> simp [bind, Except.bind]

/-- A demand that is not met gives its fault. -/
theorem eq_of_demand_eq_error {p : Profile} {ok : Bool} {f g : Fault}
    (h : demand p ok f = .error g) : p = .checked ∧ ok = false ∧ f = g := by
  cases p <;> cases ok <;> simp at h ⊢
  exact h

namespace Act

/-- A run that starts on `m` agrees with a calculation: where that gives a result `b`, the run ends
with some `a` on some machine as `post` says, and wrote to no other cells than those in `written`;
where that gives a fault, the run raises it and wrote to none. -/
def Agrees {α β : Type} (m : Machine) (written : List Ref) (run : Outcome α × Machine)
    (calculation : Except Fault β) (post : β → α → Machine → Prop) : Prop :=
  match calculation with
  | .ok b => ∃ a n, run = (.done a, n) ∧ m.Grows written n ∧ post b a n
  | .error f => ∃ e n, run = (.raised e, n) ∧ m.Grows [] n ∧ n.cell e = .fault f

section Agreement

variable {α β γ δ : Type} {m n : Machine} {written : List Ref} {x : Act α} {g : α → Act γ}
  {run : Outcome α × Machine} {calculation : Except Fault β} {post mid : β → α → Machine → Prop}

/-- A run that comes after cells were added agrees from before on. -/
theorem Agrees.of_grows (grows : m.Grows [] n) (h : Agrees n written run calculation post) :
    Agrees m written run calculation post := by
  cases calculation with
  | ok b =>
    obtain ⟨a, k, ran, grew, holds⟩ := h
    exact ⟨a, k, ran, grows.weaken.trans grew, holds⟩
  | error f =>
    obtain ⟨e, k, ran, grew, cell⟩ := h
    exact ⟨e, k, ran, grows.trans grew, cell⟩

/-- What holds at the end may be said with other words. -/
theorem Agrees.imp (h : Agrees m written run calculation post)
    (weaker : ∀ b a n, m.Grows written n → post b a n → mid b a n) :
    Agrees m written run calculation mid := by
  cases calculation with
  | ok b =>
    obtain ⟨a, k, ran, grew, holds⟩ := h
    exact ⟨a, k, ran, grew, weaker b a k grew holds⟩
  | error f => exact h

/-- More cells may be said to be written to. -/
theorem Agrees.widen {more : List Ref} (h : Agrees m written run calculation post)
    (sub : written ⊆ more) : Agrees m more run calculation post := by
  cases calculation with
  | ok b =>
    obtain ⟨a, n, ran, grew, holds⟩ := h
    exact ⟨a, n, ran, grew.mono sub, holds⟩
  | error f => exact h

/-- A run that has given a result agrees with a calculation that gives one. -/
theorem Agrees.result {a : α} (h : Agrees m written run calculation post)
    (ran : run = (.done a, n)) :
    ∃ b, calculation = .ok b ∧ m.Grows written n ∧ post b a n := by
  cases calculation with
  | ok b =>
    obtain ⟨a', n', ran', grew, holds⟩ := h
    cases ran.symm.trans ran'
    exact ⟨b, rfl, grew, holds⟩
  | error f =>
    obtain ⟨e, n', raised, -⟩ := h
    cases ran.symm.trans raised

/-- What is said of the result is said of what the run gave. -/
theorem Agrees.ran (h : Agrees m written run calculation post) :
    Agrees m written run calculation fun b a n => run = (.done a, n) ∧ post b a n := by
  cases calculation with
  | ok b =>
    obtain ⟨a, n, ran, grew, holds⟩ := h
    exact ⟨a, n, ran, grew, ran, holds⟩
  | error f => exact h

/-- What a calculation gives may be put into another form. -/
theorem Agrees.mapped {f : β → δ} {last : δ → α → Machine → Prop}
    (h : Agrees m written run calculation post)
    (next : ∀ b a n, calculation = .ok b → m.Grows written n → post b a n → last (f b) a n) :
    Agrees m written run (calculation >>= fun b => .ok (f b)) last := by
  cases calculation with
  | ok b =>
    obtain ⟨a, n, ran, grew, holds⟩ := h
    exact ⟨a, n, ran, grew, next b a n rfl grew holds⟩
  | error f => exact h

/-- A run that writes to no cell, and then another. -/
theorem Agrees.bind {k : β → Except Fault δ} {last : δ → γ → Machine → Prop}
    (first : Agrees m [] (x m) calculation post)
    (second : ∀ b a n, m.Grows [] n → calculation = .ok b → post b a n →
      Agrees n written (g a n) (k b) last) :
    Agrees m written ((x >>= g) m) (calculation >>= k) last := by
  cases calculation with
  | ok b =>
    obtain ⟨a, n, ran, grew, holds⟩ := first
    rw [bind_of_done ran]
    exact (second b a n grew rfl holds).of_grows grew
  | error f =>
    obtain ⟨e, n, ran, grew, cell⟩ := first
    exact ⟨e, n, bind_of_raised ran g, grew, cell⟩

/-- What is done with the result of a run without a change of the machine. -/
theorem Agrees.followed {last : β → γ → Machine → Prop}
    (first : Agrees m written (x m) calculation post)
    (next : ∀ b a n, post b a n → ∃ c, g a n = (.done c, n) ∧ last b c n) :
    Agrees m written ((x >>= g) m) calculation last := by
  cases calculation with
  | ok b =>
    obtain ⟨a, n, ran, grew, holds⟩ := first
    obtain ⟨c, gave, holds⟩ := next b a n holds
    exact ⟨c, n, (bind_of_done ran g).trans gave, grew, holds⟩
  | error f =>
    obtain ⟨e, n, ran, grew, cell⟩ := first
    exact ⟨e, n, bind_of_raised ran g, grew, cell⟩

/-- A check, and then what is done if it passes. -/
theorem Agrees.demand {y : Act Unit} {g : Unit → Act γ} {p : Profile} {ok : Bool} {f : Fault}
    {k : Unit → Except Fault δ} {mid : Unit → Unit → Machine → Prop}
    {last : δ → γ → Machine → Prop}
    (first : Agrees m [] (y m) (demand p ok f) mid)
    (second : ∀ n, m.Grows [] n → mid () () n → (p = .checked → ok = true) →
      Agrees n written (g () n) (k ()) last) :
    Agrees m written ((y >>= g) m) (Covenant.demand p ok f >>= k) last :=
  first.bind fun _ _ n grew met holds => second n grew holds (demand_eq_ok_iff.1 met)

/-- A run that gives a result agrees with a calculation that does. -/
theorem Agrees.of_done {a : α} {b : β} (h : run = (.done a, n)) (grew : m.Grows written n)
    (holds : post b a n) : Agrees m written run (.ok b) post :=
  ⟨a, n, h, grew, holds⟩

/-- A run that raises a fault agrees with a calculation that gives it. -/
theorem Agrees.of_raised {e : Ref} {f : Fault} (h : run = (.raised e, n)) (grew : m.Grows [] n)
    (cell : n.cell e = .fault f) : Agrees m written run (.error f) post :=
  ⟨e, n, h, grew, cell⟩

/-- A number that cannot be written ends what it was to be part of. -/
theorem decimalText_agrees {a : Int} (h : isWritable a = false) (free : m.handling = none)
    (k : String → Act γ) {last : β → γ → Machine → Prop} :
    Agrees m written ((decimalText a >>= k) m) (.error unwritable) last := by
  rw [bind_of_raised (decimalText_of_unwritable h free)]
  exact .of_raised rfl (.push [] m _) (Machine.cell_push_size m _)

end Agreement

/-! ## Assertions -/

section Assertions

variable {call : Caller} {m : Machine} {p : Profile} {side : Side} {message : String}

/-- An assertion that holds passes. -/
@[simp] theorem assertThat_of_true (call : Caller) (side : Side) (message : String) (m : Machine) :
    assertThat call side (.bool true) message m = (.done (), m) := by
  unfold assertThat ifChecked
  rw [read_bind]
  cases m.active <;> rfl

@[simp] theorem assertContext_of_true (call : Caller) (side : Side) (expression : String)
    (m : Machine) : assertContext call side (.bool true) expression m = (.done (), m) := by
  unfold assertContext ifChecked
  rw [read_bind]
  cases m.active <;> rfl

@[simp] theorem assertFormatted_of_true (call : Caller) (side : Side) (template : String)
    (args : List Value) (m : Machine) :
    assertFormatted call side (.bool true) template args m = (.done (), m) := by
  unfold assertFormatted ifChecked
  rw [read_bind]
  cases m.active <;> rfl

/-- Nothing is asserted in a process that does not check. -/
theorem ifChecked_of_unchecked {check : Act Unit} (h : m.active = .unchecked) :
    ifChecked check m = (.done (), m) := by
  simp [ifChecked, h]

/-- What is asserted is checked in a process that checks. -/
theorem ifChecked_of_checked {check : Act Unit} (h : m.active = .checked) :
    ifChecked check m = check m := by
  simp [ifChecked, h]

/-- A check that fails agrees with a demand that does not hold. -/
theorem failCheck_agrees (ready : m.Ready .checked) (side : Side) (message : String) :
    Agrees m [] (failCheck call side (.text message) m)
      (demand .checked false (side.violation message)) fun _ _ n => n = m := by
  obtain ⟨e, n, failed, grew, cell⟩ :=
    failCheck_apply ready.plain ready.active ready.free side message
  exact ⟨e, n, failed, grew, cell⟩

/-- A condition is demanded. -/
theorem assertThat_agrees (ready : m.Ready p) (side : Side) (ok : Bool) (message : String) :
    Agrees m [] (assertThat call side (.bool ok) message m)
      (demand p ok (side.violation message)) fun _ _ n => n = m := by
  cases ok with
  | true =>
    rw [demand_true]
    exact .of_done (assertThat_of_true call side message m) (.refl [] m) rfl
  | false =>
    unfold assertThat
    cases p with
    | unchecked => exact .of_done (ifChecked_of_unchecked ready.active) (.refl [] m) rfl
    | checked =>
      rw [ifChecked_of_checked ready.active]
      exact failCheck_agrees ready side message

/-- A condition is demanded, and its text is what the fault shows. -/
theorem assertContext_agrees (ready : m.Ready p) (side : Side) (ok : Bool) (expression : String) :
    Agrees m [] (assertContext call side (.bool ok) expression m)
      (demand p ok (side.violation (side.title ++ " failed: " ++ expression)))
      fun _ _ n => n = m := by
  cases ok with
  | true =>
    rw [demand_true]
    exact .of_done (assertContext_of_true call side expression m) (.refl [] m) rfl
  | false =>
    unfold assertContext
    cases p with
    | unchecked => exact .of_done (ifChecked_of_unchecked ready.active) (.refl [] m) rfl
    | checked =>
      rw [ifChecked_of_checked ready.active]
      exact failCheck_agrees ready side _

/-- A condition is demanded, and the fault shows two integers. If one of them has too many digits,
the fault is about that. -/
theorem assertFormatted_agrees (ready : m.Ready p) (side : Side) (ok : Bool)
    {template first second : String} (a b : Int)
    (pieces : Format.Template.read template =
      ⟨[⟨first.toList, some blankField⟩, ⟨second.toList, some blankField⟩], none⟩) :
    Agrees m [] (assertFormatted call side (.bool ok) template [.int a, .int b] m)
      (demand p ok (if isWritable a && isWritable b then
        side.violation (first ++ toString a ++ second ++ toString b) else unwritable))
      fun _ _ _ => True := by
  cases ok with
  | true =>
    rw [demand_true]
    exact .of_done (assertFormatted_of_true call side template _ m) (.refl [] m) trivial
  | false =>
    unfold assertFormatted
    cases p with
    | unchecked => exact .of_done (ifChecked_of_unchecked ready.active) (.refl [] m) trivial
    | checked =>
      rw [ifChecked_of_checked ready.active]
      unfold checkFormatted
      rw [bind_of_done (truth_bool call false m)]
      simp only [Bool.false_eq_true, if_false, fillIn, render_pair _ _ pieces, shown_int,
        bind_assoc, pure_bind, String.ofList_toList]
      cases few : isWritable a with
      | false => exact decimalText_agrees few ready.free _
      | true =>
        rw [bind_of_done (decimalText_of_writable few m)]
        cases few : isWritable b with
        | false => exact decimalText_agrees few ready.free _
        | true =>
          rw [bind_of_done (decimalText_of_writable few m)]
          exact (failCheck_agrees ready side _).imp fun _ _ _ _ _ => trivial

/-- What the validator of positive numbers says is the predicate that it runs. -/
theorem asPredicate_positive {v : Ref} (plain : m.Plain)
    (cell : m.cell v = .object (.known .positive) []) :
    asPredicate call (.ref v) m = (.done (.ref m.heap.size),
      m.push (.bound (.ref v) (.routine .positiveRun))) := by
  have found : getAttribute? call (.ref v) "run" m = (.done (some (.ref m.heap.size)),
      m.push (.bound (.ref v) (.routine .positiveRun))) := by
    unfold getAttribute?
    rw [bind_of_done (attempt_of_done (getAttribute_of_method plain cell rfl rfl rfl rfl))]
    rfl
  unfold asPredicate
  rw [bind_of_done found]
  simp only [isCallable, bind_assoc, load_bind, Machine.cell_push_size, pure_bind]
  rfl

/-- Asserting that a number is positive runs the validator, and fails if that says no. -/
theorem assertPositive_eq {d : Nat} {v : Ref} (ready : m.Ready .checked) (side : Side) (a : Int)
    (message : String) (cell : m.cell v = .object (.known .positive) []) :
    assertValue (callWithin (d + 2)) side (.int a) (.ref v) message m =
      (if 0 < a then pure () else failCheck (callWithin (d + 2)) side (.text message) : Act Unit)
        (m.push (.bound (.ref v) (.routine .positiveRun))) := by
  have verdict : callWithin (d + 2) (.ref m.heap.size) [.int a] []
      (m.push (.bound (.ref v) (.routine .positiveRun))) =
      (.done (.bool (0 < a)), m.push (.bound (.ref v) (.routine .positiveRun))) := by
    simp only [callWithin, callValue, load_bind, Machine.cell_push_size]
    exact compare_int (callWithin d) .gt a 0 _
  have text : (Value.text message).isText = true := rfl
  unfold assertValue
  rw [ifChecked_of_checked ready.active]
  unfold checkValue
  rw [if_pos text, bind_of_done (asPredicate_positive ready.plain cell), bind_of_done verdict,
    bind_of_done (truth_bool _ _ _)]
  simp only [decide_eq_true_eq]

/-- A positive number is demanded. -/
theorem assertPositive_agrees {d : Nat} {v : Ref} (ready : m.Ready p) (side : Side) (a : Int)
    (message : String) (cell : m.cell v = .object (.known .positive) []) :
    Agrees m [] (assertValue (callWithin (d + 2)) side (.int a) (.ref v) message m)
      (demand p (0 < a) (side.violation message)) fun _ _ _ => True := by
  cases p with
  | unchecked =>
    unfold assertValue
    rw [demand_unchecked]
    exact .of_done (ifChecked_of_unchecked ready.active) (.refl [] m) trivial
  | checked =>
    have bound := Machine.Grows.push [] m (.bound (.ref v) (.routine .positiveRun))
    rw [assertPositive_eq ready side a message cell]
    by_cases positive : 0 < a
    · rw [if_pos positive, decide_eq_true positive, demand_true]
      exact .of_done rfl bound trivial
    · rw [if_neg positive, decide_eq_false positive]
      exact ((failCheck_agrees (ready.grows bound) side message).of_grows bound).imp
        fun _ _ _ _ _ => trivial

end Assertions

end Act

end Covenant
