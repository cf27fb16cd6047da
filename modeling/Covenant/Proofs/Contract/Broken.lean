import Covenant.Proofs.Contract.Record

/-!
# Invariants that are found broken

An invariant that gives `False`, or raises a violation that does not name its subject yet, makes a
new violation of the invariant (`endsBroken_failFalse`, `endsBroken_blame`). It is reported once, on
the machine on which it is known what was wrong, and then raised (`EndsBroken`): the report records
a warning and, if the settings in effect wish it and the span records, an event
(`reportViolation_broken`).

The detail of a violation that is replaced is its message. Where that cannot be read, or has no
text, the fault that says so leaves the check; and where no settings can be built, so does the fault
about these after the warning.
-/

namespace Covenant

/-- What is recorded when a violated invariant is reported, with the settings `i` in effect on `k`,
latest first: a warning, and an event if the settings wish it and the span records. -/
def invariantEntries (name : String) (c : Checkpoint) (shownAs : String) (i : Nat) (k : Machine) :
    List Entry :=
  let message := brokenMessage name c shownAs
  (if k.asksForEvents i then k.spanEvent (brokenEntries name c message) else []) ++
    [.log .warning .assertions ("Contract invariant violated: " ++ message)]

/-- All of that reports a violated invariant. -/
theorem filter_invariantEntries (name : String) (c : Checkpoint) (shownAs : String) (i : Nat)
    (k : Machine) : (invariantEntries name c shownAs i k).filter Entry.reportsInvariant =
      invariantEntries name c shownAs i k := by
  let entries := brokenEntries name c (brokenMessage name c shownAs)
  have event : (k.spanEvent entries).filter Entry.reportsInvariant = k.spanEvent entries := by
    unfold Machine.spanEvent
    cases k.span <;> rfl
  have warning (message : String) : Entry.reportsInvariant
      (.log .warning .assertions ("Contract invariant violated: " ++ message)) = true := by
    simp only [Entry.reportsInvariant, String.toList_append, List.isPrefixOf_iff_prefix]
    exact List.prefix_append _ _
  unfold invariantEntries
  simp only [List.filter_append, List.filter_cons, warning, if_true, List.filter_nil]
  cases k.asksForEvents i with
  | true => rw [if_pos rfl, event]
  | false => rfl

namespace Act

variable {call : Caller} {m k q : Machine} {detail cause : Value} {name shownAs : String}
  {c : Checkpoint} {f : Fault} {e : Ref} {i : Nat}

/-! ## New violations of invariants -/

/-- A check ends with a new violation of an invariant, which is raised after its report. The machine
`q` is the one on which it is known what was wrong; if no settings are in effect there and none can
be built, the report ends after the warning, and the fault that says so is raised instead. -/
structure EndsBroken (run : Outcome Unit × Machine) (violation : Fault) (name : String)
    (c : Checkpoint) (shownAs : String) (q : Machine) : Prop where
  raised : ∀ i k, q.settled? = some (i, k) → ∃ n context, run = (.raised q.heap.size, n) ∧
    n.cell q.heap.size = .fault { violation with context } ∧
    n.trace = invariantEntries name c shownAs i k ++ q.trace
  unsettled : q.settled? = none → ∃ n failure, run = (.raised (q.heap.size + 1), n) ∧
    n.cell (q.heap.size + 1) = .fault failure ∧ failure.cls = .known (.fault .validationError) ∧
    n.trace = .log .warning .assertions
      ("Contract invariant violated: " ++ brokenMessage name c shownAs) :: q.trace

/-- It does not matter what counts as being handled meanwhile. -/
theorem EndsBroken.whileHandling {x : Act Unit}
    (ends : EndsBroken (x { m with handling := some e }) f name c shownAs q) :
    EndsBroken (whileHandling e x m) f name c shownAs q where
  raised i k settled := by
    obtain ⟨n, context, raised, cell, trace⟩ := ends.raised i k settled
    exact ⟨_, context, whileHandling_of_raised raised, cell, trace⟩
  unsettled none := by
    obtain ⟨n, failure, raised, cell, cls, trace⟩ := ends.unsettled none
    exact ⟨_, failure, whileHandling_of_raised raised, cell, cls, trace⟩

/-- The report of a new violation of an invariant records just that, and the violation stands. -/
theorem reportViolation_broken (call : Caller) (intact : q.Intact)
    (settled : q.settled? = some (i, k)) :
    let violation := brokenBy name c detail shownAs cause
    ∃ n, reportViolation call (.ref q.heap.size) (q.push (.fault violation)) = (.done (), n) ∧
      n.trace = invariantEntries name c shownAs i k ++ q.trace ∧
      n.cell q.heap.size = .fault violation := by
  intro violation
  let made := k.push (.fault violation)
  have settled' : (q.push (.fault violation)).settled? = some (i, made) :=
    (q.settled?_push _).trans (by rw [settled]; rfl)
  have rest := (Machine.rest_of_settled settled).1
  have trace : q.trace = made.trace := by
    unfold made
    rw [rest]
    rfl
  have stands : made.cell q.heap.size = .fault violation :=
    (Machine.cell_of_settled settled' _).trans (Machine.cell_push_size q _)
  have reported := reportViolation_of_settled (legible_brokenBy call name c detail shownAs cause)
    (intact.tells_push _) (Machine.cell_push_size q _) settled'
  refine ⟨_, reported, ?_, ?_⟩
  · have wish : made.asksForEvents i = k.asksForEvents i := rfl
    rw [wish, trace]
    unfold invariantEntries
    cases k.asksForEvents i with
    | false => rfl
    | true => exact (List.append_assoc _ [_] _).symm
  · split
    · exact (Machine.cell_push_of_lt (Machine.lt_size_of_cell stands nofun)).trans stands
    · exact stands

/-- A violation of an invariant is reported and then raised, in whatever way that is done. -/
theorem endsBroken_of_raises {raises : Act Unit} (call : Caller) (intact : q.Intact)
    (raised : ∀ k, k.cell q.heap.size = .fault (brokenBy name c detail shownAs cause) →
      ∃ n context, raises k = (.raised q.heap.size, n) ∧ n = { k with heap := n.heap } ∧
        n.cell q.heap.size = .fault { f with context }) :
    EndsBroken ((do reportViolation call (.ref q.heap.size); raises : Act Unit)
      (q.push (.fault (brokenBy name c detail shownAs cause)))) f name c shownAs q := by
  refine ⟨fun i k settled => ?_, fun none => ?_⟩
  · obtain ⟨k', reported, trace, stands⟩ := reportViolation_broken call intact settled
    obtain ⟨n, context, flies, rest, cell⟩ := raised k' stands
    exact ⟨n, context, (bind_of_done reported _).trans flies, cell, by rw [rest]; exact trace⟩
  · have none' : (q.push (.fault (brokenBy name c detail shownAs cause))).settled? = .none :=
      (q.settled?_push _).trans (by rw [none]; rfl)
    obtain ⟨failure, fails, cls⟩ := reportViolation_of_unsettled
      (legible_brokenBy call name c detail shownAs cause) (intact.tells_push _)
      (Machine.cell_push_size q _) none'
    rw [Machine.size_push] at fails
    exact ⟨_, failure, bind_of_raised fails _, (congrArg _ (Machine.size_push q _).symm).trans
      (Machine.cell_push_size _ _), cls, rfl⟩

/-- An invariant that gave `False`. -/
theorem endsBroken_failFalse (call : Caller) (intact : q.Intact) (name : String) (c : Checkpoint) :
    EndsBroken (failFalse call (.text name) (.member (.checkpoint c)) q)
      (brokenBy name c (.text "invariant returned False") "invariant returned False" .null) name c
      "invariant returned False" q := by
  have shows : shown call (.text "invariant returned False") q =
      (.done "invariant returned False", q) := rfl
  have made := newInvariantError_brokenBy (tellsCheckpoints_of_intact intact) shows name c .null
  unfold failFalse
  rw [bind_of_done made]
  exact endsBroken_of_raises call intact fun k stands => exists_raise Unit stands

/-- A violation that does not name its subject is replaced. -/
theorem endsBroken_blame {p : Machine} (unnamed : m.isUnnamed e = true)
    (told : getAttribute call (.ref e) "message" { m with handling := some e } = (.done detail, p))
    (tells : TellsCheckpoints call p) (shows : shown call detail p = (.done shownAs, q))
    (intact : q.Intact) (name : String) (c : Checkpoint) :
    EndsBroken (blame call (.text name) (.member (.checkpoint c)) e m)
      { brokenBy name c detail shownAs (.ref e) with cause := some e, suppressed := true } name c
      shownAs q := by
  have made := newInvariantError_brokenBy tells shows name c (.ref e)
  rw [blame_of_unnamed unnamed]
  refine EndsBroken.whileHandling ?_
  unfold replace
  rw [bind_of_done told, bind_of_done made]
  exact endsBroken_of_raises call intact fun k stands => exists_raiseFrom Unit stands (some e)

/-- What reading the message of a violation raises leaves the check in its place. -/
theorem blame_of_untold {p : Machine} {x : Ref} {subjectType checkpoint : Value}
    (unnamed : m.isUnnamed e = true)
    (fails : getAttribute call (.ref e) "message" { m with handling := some e } = (.raised x, p)) :
    blame call subjectType checkpoint e m = (.raised x, { p with handling := m.handling }) :=
  (blame_of_unnamed unnamed).trans (whileHandling_of_raised (bind_of_raised fails _))

/-- So does what showing it raises. -/
theorem blame_of_unshown {p : Machine} {x : Ref} (unnamed : m.isUnnamed e = true)
    (told : getAttribute call (.ref e) "message" { m with handling := some e } = (.done detail, p))
    (tells : TellsCheckpoints call p) (fails : shown call detail p = (.raised x, q)) (name : String)
    (c : Checkpoint) :
    blame call (.text name) (.member (.checkpoint c)) e m =
      (.raised x, { q with handling := m.handling }) := by
  have texts (s : String) (m : Machine) : shown call (.text s) m = (.done s, m) := rfl
  have unmade : newInvariantError call (.text name) (.member (.checkpoint c)) detail (.ref e) p =
      (.raised x, q) := by
    unfold newInvariantError invariantFields invariantMessage
    simp only [bind_assoc]
    rw [bind_of_done (texts name p), bind_of_done (tells c), bind_of_done (texts _ p),
      bind_of_raised fails]
  refine (blame_of_unnamed unnamed).trans (whileHandling_of_raised ?_)
  unfold replace
  rw [bind_of_done told, bind_of_raised unmade]

end Act

end Covenant
