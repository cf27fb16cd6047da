import Covenant.Proofs.Contract.Modes

/-!
# Checked runs and unchecked ones

A body that is run under a contract ends as it does without one, unless a check keeps it from that.
What it means to end in the same way is left to the program: a `Likeness` says when values on one
machine are to it what values on another are, the states of the two machines included, so it may
look through the names of new cells, and has no need to see what the checks themselves leave behind.
Two runs end alike (`Likeness.Ends`) if both return or both raise and the results are alike.

The checks of a subject go unnoticed (`Likeness.Unnoticed`) if one that passes leaves a state like
the one before it. A body that cannot tell like states apart (`Likeness.Respects`) then does after
the entry check what it would have done without it, and the exit check changes nothing about how it
ended (`Likeness.Unnoticed.run_ends`). Where whether the exit check passes is a matter of the state
alone (`Likeness.Determines`), it is enough that it passes after the unchecked run.
-/

namespace Covenant

open Act ContractRun

/-- When values on a machine are to a program what values on a machine are, with the states of the
two. -/
structure Likeness where
  Like : List Value → Machine → List Value → Machine → Prop
  symm : ∀ {vs m ws n}, Like vs m ws n → Like ws n vs m
  trans : ∀ {vs m ws n us k}, Like vs m ws n → Like ws n us k → Like vs m us k
  /-- Of two faults that are alike both are ordinary or none is. -/
  ordinary : ∀ {e vs m f ws n}, Like (.ref e :: vs) m (.ref f :: ws) n →
    m.isOrdinary e = n.isOrdinary f

namespace Likeness

variable {l : Likeness} {call : Caller} {old subject : Value} {body : Body}
  {r s t : Outcome Value × Machine} {o o' : Outcome Value} {m m₁ n n' k : Machine}

/-- Two ends of a body are alike: with like results or like faults, and with like states as the old
state and the subject show them. -/
def Ends (l : Likeness) (old subject : Value) :
    Outcome Value × Machine → Outcome Value × Machine → Prop
  | (.done v, m), (.done w, n) => l.Like [v, old, subject] m [w, old, subject] n
  | (.raised e, m), (.raised f, n) => l.Like [.ref e, old, subject] m [.ref f, old, subject] n
  | (.exhausted, _), (.exhausted, _) => True
  | _, _ => False

/-- A check of the subject that passes, also while a fault is being handled, leaves a state that is
like the one before it. -/
structure Unnoticed (l : Likeness) (call : Caller) (subject : Value) : Prop where
  check : ∀ {c vs n k}, l.Like vs n vs n → checkAt call subject c n = (.done (), k) →
    l.Like vs n vs k
  whileHandling : ∀ {e c vs n k}, l.Like vs n vs n →
    whileHandling e (checkAt call subject c) n = (.done (), k) → l.Like vs n vs k

/-- A body is a function of the old state, the subject and the state as the program sees it. -/
def Respects (l : Likeness) (old subject : Value) (body : Body) : Prop :=
  ∀ m n, l.Like [old, subject] m [old, subject] n →
    l.Ends old subject (body old subject m) (body old subject n)

/-- Whether the exit check passes after an end is a matter of what the program sees of it. -/
def Determines (l : Likeness) (call : Caller) (old subject : Value) : Prop :=
  ∀ o n o' n', l.Ends old subject (o, n) (o', n') →
    (∃ k, exitCheck call subject o n = (.done (), k)) →
    ∃ k, exitCheck call subject o' n' = (.done (), k)

/-! ## Ends that are alike -/

theorem Ends.symm (h : l.Ends old subject r s) : l.Ends old subject s r := by
  obtain ⟨o, m⟩ := r
  obtain ⟨o', n⟩ := s
  cases o <;> cases o' <;> first | exact l.symm h | exact h

theorem Ends.trans (h : l.Ends old subject r s) (h' : l.Ends old subject s t) :
    l.Ends old subject r t := by
  obtain ⟨o, m⟩ := r
  obtain ⟨o', n⟩ := s
  obtain ⟨o'', k⟩ := t
  cases o <;> cases o' <;> first | exact h.elim | cases o'' <;>
    first | exact h'.elim | exact l.trans h h' | exact h'

/-- After like ends the exit check is due or it is not. -/
theorem Ends.exitDue {i : ContractRun} (h : l.Ends old subject (o, n) (o', n'))
    (due : i.ExitDue o n) : i.ExitDue o' n' := by
  cases o <;> cases o' <;> first | exact h.elim | exact due | skip
  rw [exitDue_raised_iff] at due ⊢
  rwa [← l.ordinary h]

/-- An exit check that passes changes nothing about an end. -/
theorem Unnoticed.ends_of_exitCheck (unnoticed : l.Unnoticed call subject)
    (h : l.Ends old subject (o, n) (o, n)) (passed : exitCheck call subject o n = (.done (), k)) :
    l.Ends old subject (o, k) (o, n) := by
  cases o with
  | done v => exact l.symm (unnoticed.check h passed)
  | raised e => exact l.symm (unnoticed.whileHandling h passed)
  | exhausted => trivial

/-! ## A run and what it is without its checks -/

section Run

variable {i : ContractRun}

/-- After an entry check that passes the body ends as it would have ended before it. -/
theorem Unnoticed.body_ends (unnoticed : l.Unnoticed call i.subject)
    (respects : l.Respects i.old i.subject i.body)
    (start : l.Like [i.old, i.subject] m [i.old, i.subject] m)
    (entry : checkAt call i.subject .entry m = (.done (), m₁)) :
    l.Ends i.old i.subject (i.body i.old i.subject m₁) (i.body i.old i.subject m) :=
  respects m₁ m (l.symm (unnoticed.check start entry))

/-- A run whose checks pass ends as its body does alone. -/
theorem Unnoticed.run_ends (unnoticed : l.Unnoticed call i.subject)
    (respects : l.Respects i.old i.subject i.body)
    (start : l.Like [i.old, i.subject] m [i.old, i.subject] m)
    (entry : checkAt call i.subject .entry m = (.done (), m₁))
    (ran : i.body i.old i.subject m₁ = (o, n))
    (exit : i.ExitDue o n → ∃ k, exitCheck call i.subject o n = (.done (), k)) :
    l.Ends i.old i.subject (i.run call m) (i.body i.old i.subject m) := by
  have ends := unnoticed.body_ends respects start entry
  rw [ran] at ends
  by_cases due : i.ExitDue o n
  · obtain ⟨k, passed⟩ := exit due
    have kept := unnoticed.ends_of_exitCheck (ends.trans ends.symm) passed
    have run : i.run call m = (o, k) := by
      rw [run_of_due entry ran due]
      exact bind_of_done passed _
    rw [run]
    exact kept.trans ends
  · rw [run_of_not_due entry ran due]
    exact ends

/-- It is enough that the exit check passes, if it is due, after the body alone. -/
theorem Unnoticed.run_ends_of_body (unnoticed : l.Unnoticed call i.subject)
    (respects : l.Respects i.old i.subject i.body)
    (determines : l.Determines call i.old i.subject)
    (start : l.Like [i.old, i.subject] m [i.old, i.subject] m)
    (entry : checkAt call i.subject .entry m = (.done (), m₁))
    (alone : i.body i.old i.subject m = (o, n))
    (exit : i.ExitDue o n → ∃ k, exitCheck call i.subject o n = (.done (), k)) :
    l.Ends i.old i.subject (i.run call m) (i.body i.old i.subject m) := by
  obtain ⟨o', n', ran⟩ : ∃ o' n', i.body i.old i.subject m₁ = (o', n') := ⟨_, _, rfl⟩
  have ends := unnoticed.body_ends respects start entry
  rw [ran, alone] at ends
  refine unnoticed.run_ends respects start entry ran fun due => ?_
  exact determines o n o' n' ends.symm (exit (ends.exitDue due))

/-- A run that does not end as its body does alone ends with the fault of a check, or for want of
depth. -/
theorem Unnoticed.run_ends_or (unnoticed : l.Unnoticed call i.subject)
    (respects : l.Respects i.old i.subject i.body)
    (start : l.Like [i.old, i.subject] m [i.old, i.subject] m) :
    l.Ends i.old i.subject (i.run call m) (i.body i.old i.subject m) ∨
      (∃ e k, checkAt call i.subject .entry m = (.raised e, k) ∧ i.run call m = (.raised e, k)) ∨
      (∃ m₁ o n e k, checkAt call i.subject .entry m = (.done (), m₁) ∧
        i.body i.old i.subject m₁ = (o, n) ∧ i.ExitDue o n ∧
        exitCheck call i.subject o n = (.raised e, k) ∧ i.run call m = (.raised e, k)) ∨
      ∃ k, i.run call m = (.exhausted, k) := by
  obtain ⟨r, m₁, entry⟩ : ∃ r m₁, checkAt call i.subject .entry m = (r, m₁) := ⟨_, _, rfl⟩
  cases r with
  | raised e => exact .inr (.inl ⟨e, m₁, entry, run_of_refused entry⟩)
  | exhausted => exact .inr (.inr (.inr ⟨m₁, run_of_entry_exhausted entry⟩))
  | done u =>
    obtain ⟨o, n, ran⟩ : ∃ o n, i.body i.old i.subject m₁ = (o, n) := ⟨_, _, rfl⟩
    by_cases due : i.ExitDue o n
    · obtain ⟨q, k, exit⟩ : ∃ q k, exitCheck call i.subject o n = (q, k) := ⟨_, _, rfl⟩
      have run := run_of_due entry ran due
      cases q with
      | done u => exact .inl (unnoticed.run_ends respects start entry ran fun _ => ⟨k, exit⟩)
      | raised e =>
        have failed := run.trans (bind_of_raised exit _)
        exact .inr (.inr (.inl ⟨m₁, o, n, e, k, entry, ran, due, exit, failed⟩))
      | exhausted => exact .inr (.inr (.inr ⟨k, run.trans (bind_of_exhausted exit _)⟩))
    · exact .inl (unnoticed.run_ends respects start entry ran fun h => absurd h due)

end Run

/-! ## The two profiles -/

/-- A mode is given by its member or by its text. -/
theorem runUnder_of_mode {v : Value} {mode : Mode} (given : v.text? = some mode.text) :
    runUnder call .checked subject old body v m =
      ContractRun.run call ⟨mode, subject, old, body⟩ m :=
  congrFun (runContract_of_mode given) m

/-- The checked run of a body under a contract, in either mode, ends as the unchecked run on the
same machine if its checks pass; also if the entry check passes there and the exit check, as far as
it is due, passes after the unchecked run; and in every case it ends alike or with the fault that
one of its two checks raised, if not for want of depth. This is so for any subject whose checks go
unnoticed and any body that cannot tell like states apart. -/
theorem checked_refines_unchecked {v : Value} {mode : Mode} (given : v.text? = some mode.text)
    (unnoticed : l.Unnoticed call subject) (respects : l.Respects old subject body)
    (start : l.Like [old, subject] m [old, subject] m) :
    let i : ContractRun := ⟨mode, subject, old, body⟩
    let checked := runUnder call .checked subject old body v m
    let unchecked := runUnder call .unchecked subject old body v m
    (∀ m₁ o n, checkAt call subject .entry m = (.done (), m₁) → body old subject m₁ = (o, n) →
      (i.ExitDue o n → ∃ k, exitCheck call subject o n = (.done (), k)) →
      l.Ends old subject checked unchecked) ∧
    (l.Determines call old subject →
      ∀ m₁ o n, checkAt call subject .entry m = (.done (), m₁) → unchecked = (o, n) →
      (i.ExitDue o n → ∃ k, exitCheck call subject o n = (.done (), k)) →
      l.Ends old subject checked unchecked) ∧
    (l.Ends old subject checked unchecked ∨
      (∃ e k, checkAt call subject .entry m = (.raised e, k) ∧ checked = (.raised e, k)) ∨
      (∃ m₁ o n e k, checkAt call subject .entry m = (.done (), m₁) ∧
        body old subject m₁ = (o, n) ∧ i.ExitDue o n ∧
        exitCheck call subject o n = (.raised e, k) ∧ checked = (.raised e, k)) ∨
      ∃ k, checked = (.exhausted, k)) := by
  intro i checked unchecked
  have run : checked = i.run call m := runUnder_of_mode given
  rw [run]
  refine ⟨fun m₁ o n entry ran exit => ?_, fun determines m₁ o n entry alone exit => ?_, ?_⟩
  · exact Unnoticed.run_ends (i := i) unnoticed respects start entry ran exit
  · exact Unnoticed.run_ends_of_body (i := i) unnoticed respects determines start entry alone exit
  · exact Unnoticed.run_ends_or (i := i) unnoticed respects start

/-! ## A body that writes to its subject and raises -/

/-- A machine on which nothing but the first account has changed. -/
structure Settled (m : Machine) : Prop where
  plain : m.Plain
  checked : m.active = .checked
  classes : m.classes = #[]
  size : 5 ≤ m.heap.size
  account : ∃ fields, m.cell 3 = .object (.known .account) fields

/-- States that cannot be told apart by the first five cells and values that stand in them. -/
def firstCells : Likeness where
  Like vs m ws n := vs = ws ∧ (Settled m ∧ Settled n) ∧ (∀ r < 5, m.cell r = n.cell r) ∧
    ∀ r, .ref r ∈ vs → r < 5
  symm := by
    rintro vs m ws n ⟨rfl, ⟨left, right⟩, cells, refs⟩
    exact ⟨rfl, ⟨right, left⟩, fun r lt => (cells r lt).symm, refs⟩
  trans := by
    rintro vs m ws n us k ⟨rfl, ⟨left, -⟩, cells, refs⟩ ⟨rfl, ⟨-, right⟩, cells', -⟩
    exact ⟨rfl, ⟨left, right⟩, fun r lt => (cells r lt).trans (cells' r lt), refs⟩
  ordinary := by
    rintro e vs m f ws n ⟨same, ⟨left, right⟩, cells, refs⟩
    obtain ⟨rfl⟩ : e = f := by simpa using (List.cons.inj same).1
    exact Machine.isOrdinary_of_cell (left.classes.trans right.classes.symm)
      (cells e (refs e (List.mem_cons_self ..)))

/-- The checks of the first account leave the first five cells alone. -/
theorem firstCells_unnoticed : firstCells.Unnoticed brittle (.ref 3) := by
  have settled {m n : Machine} (h : Settled m) (grew : m.Grows [] n) : Settled n := by
    have size := Nat.le_trans h.size grew.size
    obtain ⟨fields, account⟩ := h.account
    have classes : n.classes = m.classes := by rw [grew.rest]
    exact ⟨h.plain.grows grew, grew.active.trans h.checked, classes.trans h.classes, size, fields,
      grew.cell_eq account nofun List.not_mem_nil⟩
  have like {vs : List Value} {m n : Machine} (h : firstCells.Like vs m vs m)
      (grew : m.Grows [] n) : firstCells.Like vs m vs n := by
    obtain ⟨-, ⟨start, -⟩, -, refs⟩ := h
    refine ⟨rfl, ⟨start, settled start grew⟩, fun r lt => ?_, refs⟩
    exact (grew.cell r (Nat.lt_of_lt_of_le lt start.size) List.not_mem_nil).symm
  have passes {m : Machine} (h : Settled m) (e : Option Ref) (c : Checkpoint) :
      ∃ k, checkAt brittle (.ref 3) c { m with handling := e } = (.done (), k) ∧
        Machine.Grows [] { m with handling := e } k := by
    obtain ⟨fields, account⟩ := h.account
    refine checkAt_of_holds (k := .account) (h.plain.handling e) h.checked ?_ rfl
      (fun n _ => rfl) c
    have cls : m.classOf (.ref 3) = .known .account := by
      rw [Machine.classOf_ref, account]
      rfl
    exact cls
  constructor
  · intro c vs n k start passed
    obtain ⟨k', passed', grew⟩ := passes start.2.1.1 n.handling c
    have same : k' = k := (Prod.mk.inj (passed'.symm.trans passed)).2
    exact like start (same ▸ grew)
  · intro e c vs n k start passed
    obtain ⟨k', passed', grew⟩ := passes start.2.1.1 (some e) c
    have same : { k' with handling := n.handling } = k := by
      have unfolded : whileHandling e (checkAt brittle (.ref 3) c) n =
          (.done (), { k' with handling := n.handling }) := by
        simp [whileHandling, passed']
      exact (Prod.mk.inj (unfolded.symm.trans passed)).2
    exact like start (same ▸ grew.whileHandling)

/-- An account with one field that its invariant does not look at here. -/
def spoilt : Cell :=
  .object (.known .account) [("balance", .int (-1))]

/-- A body that writes to the first account and then raises the ordinary fault. -/
def spoil : Body := fun _ _ => do
  store 3 spoilt
  rethrow 0

theorem spoil_apply (v w : Value) (m : Machine) : spoil v w m = (.raised 0, m.put 3 spoilt) :=
  rfl

theorem firstCells_respects_spoil : firstCells.Respects .null (.ref 3) spoil := by
  have there {m : Machine} (h : Settled m) : (m.put 3 spoilt).cell 3 = spoilt :=
    Machine.cell_put_self (Nat.lt_of_lt_of_le (by decide) h.size)
  have settled {m : Machine} (h : Settled m) : Settled (m.put 3 spoilt) :=
    ⟨⟨h.plain.patches, h.plain.attached, h.plain.settings, h.plain.lookups⟩, h.checked, h.classes,
      by rw [Machine.size_put]; exact h.size, _, there h⟩
  rintro m n ⟨-, ⟨left, right⟩, cells, -⟩
  rw [spoil_apply, spoil_apply]
  refine ⟨rfl, ⟨settled left, settled right⟩, fun r lt => ?_, by simp⟩
  by_cases at3 : r = 3
  · rw [at3, there left, there right]
  · rw [Machine.cell_put_of_ne at3, Machine.cell_put_of_ne at3, cells r lt]

/-- Strict mode, given by its text: the checked run of a body that spoils its subject and raises
ends with the same fault as the unchecked run, and the subject is spoilt in both. -/
theorem checked_refines_unchecked_spoil :
    let start : Machine := { threeFaults with current := some 0 }
    firstCells.Ends .null (.ref 3)
      (runUnder brittle .checked (.ref 3) .null spoil (.text "strict") start)
      (runUnder brittle .unchecked (.ref 3) .null spoil (.text "strict") start) := by
  intro start
  have settled : Settled start :=
    ⟨⟨rfl, rfl, rfl, fun _ mem => absurd mem List.not_mem_nil⟩, rfl, rfl, by decide, [], rfl⟩
  have like : firstCells.Like [.null, .ref 3] start [.null, .ref 3] start :=
    ⟨rfl, ⟨settled, settled⟩, fun _ _ => rfl, by simp⟩
  have given : (Value.text "strict").text? = some Mode.strict.text := rfl
  have refines :=
    checked_refines_unchecked given firstCells_unnoticed firstCells_respects_spoil like
  have entry : (checkAt brittle (.ref 3) .entry start).1 = .done () := by decide +kernel
  have exit : (exitCheck brittle (.ref 3) (.raised 0)
      ((checkAt brittle (.ref 3) .entry start).2.put 3 spoilt)).1 = .done () := by decide +kernel
  have passes {x : Act Unit} {m : Machine} (h : (x m).1 = .done ()) :
      x m = (.done (), (x m).2) := Prod.ext h rfl
  exact refines.1 _ (.raised 0) _ (passes entry) (spoil_apply ..) fun _ => ⟨_, passes exit⟩

end Likeness

end Covenant
