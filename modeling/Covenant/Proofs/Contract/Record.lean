import Covenant.Proofs.Contract.Chain

/-!
# What checks and reports record

`Machine.checks` is the sequence of the records of checks. A check that passes adds its own record
(`checks_checkAt_of_holds`); code that makes no check adds none (`Silent`), nor does the report of a
failed assertion.
-/

namespace Covenant

/-- The text of the record of a check. -/
def Entry.check? : Entry → Option String
  | .log .debug .invariant s => some s
  | _ => none

/-- Whether an entry reports a violated invariant, be it as a warning or as an event. -/
def Entry.reportsInvariant : Entry → Bool
  | .log .warning .assertions s => "Contract invariant violated: ".toList.isPrefixOf s.toList
  | .event (.text name) ((.text "dbc.kind", .text "invariant") :: _) => name == Act.violationEvent
  | _ => false

namespace Machine

variable {m : Machine}

/-- The records of checks, earliest first. -/
def checks (m : Machine) : List String :=
  (m.trace.filterMap Entry.check?).reverse

/-- The reports of violated invariants, latest first. -/
def invariantReports (m : Machine) : List Entry :=
  m.trace.filter Entry.reportsInvariant

@[simp] theorem checks_announce (m : Machine) (cls : ClassRef) (c : Checkpoint) :
    (m.announce cls c).checks = m.checks ++ [checkText (m.qualifiedName cls) c] := by
  simp [checks, announce, Entry.check?]

@[simp] theorem checks_push (m : Machine) (c : Cell) : (m.push c).checks = m.checks :=
  rfl

/-- The report of a violation is no record of a check. -/
@[simp] theorem checks_reported (m : Machine) (warning : String)
    (entries : List (String × String)) : (m.reported warning entries).checks = m.checks := by
  have event : (m.spanEvent entries).filterMap Entry.check? = [] := by
    unfold spanEvent
    cases m.span <;> rfl
  unfold reported
  cases m.putsOnSpan with
  | false => rfl
  | true =>
    change ((m.spanEvent entries ++ _).filterMap Entry.check?).reverse = _
    rw [List.filterMap_append, event]
    rfl

end Machine

namespace Act

variable {call : Caller} {m n : Machine} {subject invariant detail : Value} {cls : ClassRef}
  {e : Ref} {f : Fault}

/-- The check of an invariant of an initial class that holds records itself. -/
theorem checks_checkAt_of_holds {k : Known} {r : Routine} (plain : m.Plain)
    (checked : m.active = .checked) (cls : m.classOf subject = .known k)
    (own : k.attribute? "invariant" = some (.routine r))
    (holds : ∀ n, m.Grows [] n → call (.routine r) [subject] [] n = (.done .null, n))
    (c : Checkpoint) :
    (checkAt call subject c m).2.checks = m.checks ++ [checkText k.name c] := by
  obtain ⟨lookups, passed, -⟩ := checkAt_announces plain checked cls own holds c
  rw [passed, Machine.checks_announce, cls]
  rfl

/-! ## Code that makes no check -/

section Silence

variable {α β : Type} {p : Profile} {x : Act α} {g : α → Act β} {side : Side}

/-- A run from a machine records no check. -/
def Silent (m : Machine) (run : Outcome α × Machine) : Prop :=
  run.2.checks = m.checks

/-- Something silent and then what is silent after it. -/
theorem Silent.bind (first : Silent m (x m))
    (second : ∀ a n, x m = (.done a, n) → Silent n (g a n)) : Silent m ((x >>= g) m) := by
  obtain ⟨o, n, ran⟩ : ∃ o n, x m = (o, n) := ⟨_, _, rfl⟩
  unfold Silent at first ⊢
  rw [ran] at first
  cases o with
  | done a =>
    rw [bind_of_done ran]
    exact (second a n ran).trans first
  | raised e =>
    rw [bind_of_raised ran]
    exact first
  | exhausted =>
    rw [bind_of_exhausted ran]
    exact first

/-- A check that fails reports a violation and is silent. -/
theorem failCheck_silent (ready : m.Ready p) (side : Side) (message : String) :
    Silent m (failCheck call side (.text message) m) := by
  obtain ⟨entries, failed⟩ := failCheck_eq call ready.plain ready.free side message
  rw [failed]
  exact (Machine.checks_reported _ _ entries).trans (Machine.checks_push m _)

theorem assertThat_silent (ready : m.Ready p) (side : Side) (ok : Bool) (message : String) :
    Silent m (assertThat call side (.bool ok) message m) := by
  cases ok with
  | true =>
    rw [assertThat_of_true]
    rfl
  | false =>
    unfold assertThat
    cases p with
    | unchecked =>
      rw [ifChecked_of_unchecked ready.active]
      rfl
    | checked =>
      rw [ifChecked_of_checked ready.active]
      exact failCheck_silent ready side message

/-- Asserting that a number is positive is silent. -/
theorem assertPositive_silent {d : Nat} {v : Ref} (ready : m.Ready .checked) (side : Side) (a : Int)
    (message : String) (cell : m.cell v = .object (.known .positive) []) :
    Silent m (assertValue (callWithin (d + 2)) side (.int a) (.ref v) message m) := by
  rw [assertPositive_eq ready side a message cell]
  split
  · rfl
  · exact failCheck_silent (ready.grows (.push [] m _)) side message

end Silence

end Act

end Covenant
