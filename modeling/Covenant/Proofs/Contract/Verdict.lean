import Covenant.Proofs.Contract.Blame
import Covenant.Proofs.Contract.Lookup
import Mathlib.Algebra.Group.Int.Defs

/-!
# What comes of checking an invariant

A check looks for the invariant of the class of its subject. If there is none, that is all; if there
is one, the check records itself and calls the invariant once, on the subject, and what comes of the
check depends on how the call ends (`check_classifies_outcomes`). All values but `False` are good.
`False`, and a violation that does not name its subject yet, make a new violation of the invariant,
which is reported once and raised (`EndsBroken`). Every other fault leaves the check as it is.

Which invariant a class has is settled when it is first asked for, and a violation has to have a
message with a text to be replaced; so there are checks that miss what the invariant has come to
(`checks_miss_outcomes`).
-/

namespace Covenant

namespace Act

/-! ## Every outcome -/

/-- How a check ends, for every subject and both checkpoints. If the class of the subject has no
invariant that can be called, the check does nothing but remember that. If it has one, the check
records itself and calls the invariant once, on the subject. Every value other than `False` lets the
check pass; `False`, and a violation that does not name its subject, end it with a new violation of
this invariant, which is reported once; every other fault leaves it as it is. -/
theorem check_classifies_outcomes (call : Caller) (subject : Value) (c : Checkpoint) (m : Machine) :
    let check := checkAt call subject c m
    let cls := m.classOf subject
    (m.Unasked cls → m.AtRest cls → m.invariant? cls = none →
      check = (.done (), m.remembering cls none)) ∧
    (∀ n, findInvariant call cls m = (.done none, n) → check = (.done (), n)) ∧
    (∀ e n, findInvariant call cls m = (.raised e, n) → check = (.raised e, n)) ∧
    (∀ n, findInvariant call cls m = (.exhausted, n) → check = (.exhausted, n)) ∧
    ∀ invariant n, findInvariant call cls m = (.done (some invariant), n) → TellsCheckpoints call n →
      let name := n.qualifiedName cls
      let ended := call invariant [subject] [] (n.announce cls c)
      (∀ v k, ended = (.done v, k) → v ≠ .bool false → check = (.done (), k)) ∧
      (∀ k, ended = (.exhausted, k) → check = (.exhausted, k)) ∧
      (∀ k, ended = (.done (.bool false), k) → k.Intact → EndsBroken check
        (brokenBy name c (.text "invariant returned False") "invariant returned False" .null) name c
        "invariant returned False" k) ∧
      (∀ e k, ended = (.raised e, k) → k.isUnnamed e = false → check = (.raised e, k)) ∧
      ∀ e k, ended = (.raised e, k) → k.isUnnamed e = true →
        let asked := getAttribute call (.ref e) "message" { k with handling := some e }
        (∀ x p, asked = (.raised x, p) → check = (.raised x, { p with handling := k.handling })) ∧
        ∀ detail p, asked = (.done detail, p) → TellsCheckpoints call p →
          (∀ x q, shown call detail p = (.raised x, q) →
            check = (.raised x, { q with handling := k.handling })) ∧
          ∀ shownAs q, shown call detail p = (.done shownAs, q) → q.Intact → EndsBroken check
            { brokenBy name c detail shownAs (.ref e) with cause := some e, suppressed := true } name c
            shownAs q := by
  intro check cls
  refine ⟨fun unasked rest none => ?_, fun n found => checkAt_of_none found c, fun e n fails => ?_,
    fun n exhausted => ?_, fun invariant n found tells => ?_⟩
  · have found := findInvariant_of_atRest unasked rest call
    rw [none] at found
    exact checkAt_of_none found c
  · unfold check checkAt checkInvariant
    rw [classOf_bind]
    exact bind_of_raised fails _
  · unfold check checkAt checkInvariant
    rw [classOf_bind]
    exact bind_of_exhausted exhausted _
  · have comes := checkAt_of_found found tells c
    intro name ended
    refine ⟨fun v k done good => ?_, fun k exhausted => ?_, fun k done intact => ?_,
      fun e k raised named => ?_, fun e k raised unnamed => ?_⟩
    · have other : v.same (.bool false) = false := by
        refine Bool.eq_false_iff.2 fun same => good ?_
        cases v <;> simp_all [Value.same]
      exact checkAt_of_found_holds found tells done other
    · exact comes.trans (bind_of_exhausted (attempt_of_exhausted exhausted) _)
    · have ends := endsBroken_failFalse call intact name c
      have same : check = failFalse call (.text name) (.member (.checkpoint c)) k :=
        comes.trans (bind_of_done (attempt_of_done done) _)
      rwa [same]
    · exact comes.trans ((bind_of_done (attempt_of_raised raised) _).trans (blame_of_named named))
    · intro asked
      have same : check = blame call (.text name) (.member (.checkpoint c)) e k :=
        comes.trans (bind_of_done (attempt_of_raised raised) _)
      refine ⟨fun x p fails => ?_, fun detail p told tells => ⟨fun x q fails => ?_,
        fun shownAs q shows intact => ?_⟩⟩
      · rw [same]
        exact blame_of_untold unnamed fails
      · rw [same]
        exact blame_of_unshown unnamed told tells fails name c
      · rw [same]
        exact endsBroken_blame unnamed told tells shows intact name c

/-- Of three accounts the invariant of the first holds, and that of the third raises the violation
of a precondition, which is replaced: after the record of the check there are one warning and one
event. -/
theorem check_classifies_outcomes_first_and_third :
    let account : ClassRef := .known .account
    checkAt Station.innermost (.ref 0) .entry Station.threeAccounts =
      (.done (), Station.threeAccounts.announce account .entry) ∧
    ∃ n context, checkAt Station.innermost (.ref 2) .exit Station.threeAccounts = (.raised 4, n) ∧
      n.cell 4 = .fault { brokenBy "BankAccount" .exit (.text "no funds") "no funds" (.ref 3) with
        cause := some 3, suppressed := true, context } ∧
      n.trace = [.event (.text violationEvent) [(.text "dbc.kind", .text "invariant"),
          (.text "dbc.message", .text "Invariant of BankAccount violated on exit: no funds"),
          (.text "dbc.profile", .text "checked"), (.text "dbc.subject_type", .text "BankAccount"),
          (.text "dbc.checkpoint", .text "exit")],
        .log .warning .assertions
          "Contract invariant violated: Invariant of BankAccount violated on exit: no funds",
        .log .debug .invariant "Checking invariant of BankAccount on exit"] := by
  intro account
  let start := Station.threeAccounts
  let asked : Machine := { start.announce account .exit with handling := some 3 }
  have native : ∀ found ∈ start.lookups, Machine.IsNative found := by
    rintro found mem k same
    rw [List.mem_singleton.1 mem] at same ⊢
    cases same
    rfl
  have plain : start.Plain := ⟨rfl, rfl, rfl, native⟩
  have plain' : asked.Plain := ⟨rfl, rfl, rfl, native⟩
  have found (r : Ref) (is : start.classOf (.ref r) = account) :
      findInvariant Station.innermost (start.classOf (.ref r)) start =
        (.done (some (.routine .accountInvariant)), start) := by
    rw [is]
    rfl
  obtain ⟨-, -, -, -, first⟩ := check_classifies_outcomes Station.innermost (.ref 0) .entry start
  obtain ⟨passes, -⟩ := first _ _ (found 0 rfl) (tellsCheckpoints_of_plain plain)
  obtain ⟨-, -, -, -, third⟩ := check_classifies_outcomes Station.innermost (.ref 2) .exit start
  obtain ⟨-, -, -, -, blames⟩ := third _ _ (found 2 rfl) (tellsCheckpoints_of_plain plain)
  have told : getAttribute Station.innermost (.ref 3) "message" asked =
      (.done (.text "no funds"), asked) :=
    getAttribute_fault_field (k := .fault .preconditionError) plain' rfl rfl rfl rfl rfl
  obtain ⟨-, replaced⟩ := blames 3 (start.announce account .exit) rfl (by decide +kernel)
  obtain ⟨-, replaced⟩ := replaced _ _ told (tellsCheckpoints_of_plain plain')
  have ends := replaced "no funds" asked rfl plain'.intact
  exact ⟨passes .null _ rfl nofun, ends.raised 0 asked rfl⟩

/-! ## Outcomes that are missed -/

/-- An object of a class whose invariant gives `False`, but which had none when it was first asked
for. -/
def outdated : Machine :=
  { threeFaults with
    heap := #[.scope [] none, .closure "invariant" ["self"] [.give (.bool false)] 0,
      .object (.made 0) []]
    classes := #[⟨"A", "A", none, [("invariant", .ref 1)], []⟩]
    lookups := [(.made 0, none)] }

/-- Three accounts, and a violation whose message is an integer with too many digits for a text. -/
def unspeakable : Machine :=
  { Station.threeAccounts with
    heap := #[.object (.known .account) [], .object (.known .account) [],
      .object (.known .account) [], .fault (Side.pre.violationOf (.int (10 ^ 4300)))] }

/-- Three accounts, without settings, in surroundings that name a profile that there is not. -/
def unsettled : Machine :=
  { Station.threeAccounts with
    current := none
    surroundings := ⟨[("DBCORE_PROFILE", "bogus")], none⟩ }

/-- An invariant that the class has got after it was first asked for is not called. A violation
whose message has no text ends with the fault of a wrong value, and one that cannot be reported with
the fault about the settings. -/
theorem checks_miss_outcomes :
    (outdated.invariant? (.made 0) = some (.ref 1) ∧
      (callWithin 2 (.ref 1) [.ref 2] [] outdated).1 = .done (.bool false) ∧
      checkAt (callWithin 2) (.ref 2) .entry outdated = (.done (), outdated)) ∧
    (let run := checkAt Station.innermost (.ref 2) .exit unspeakable
     run.1 = .raised 4 ∧ run.2.faultClassAt 4 = .valueError) ∧
    (let run := checkAt Station.innermost (.ref 2) .exit unsettled
     run.1 = .raised 5 ∧ run.2.faultClassAt 5 = .validationError) := by
  refine ⟨⟨rfl, rfl, checkAt_of_none rfl .entry⟩, ⟨?_, ?_⟩, ?_, ?_⟩
  all_goals decide +kernel

end Act

end Covenant
