import Covenant.Proofs.Contract.Blame
import Covenant.Script.Call

/-!
# The records of strict invocations are well bracketed

`Nests` says how the code between two machines is made of strict invocations: nested in bodies, in
invariants and in the code that is run by looking an invariant up, and one after the other, with
other code in between that makes no checks of its own. Bodies return or raise ordinary faults, and
all checks pass.

What a class has as its invariant is remembered from the first time on, so the exit check of an
invocation finds an invariant exactly if the entry check did, whatever was done to the class
meanwhile (`Machine.Remembers`). The records of the checks are therefore well bracketed
(`Nests.gives`, by induction), as long as the subject of an invocation has the same class, under the
same name, at the exit check as at the entry check. A body that gives the subject another class
leaves the entry record without an exit record (`records_unmatched_after_change_of_class`).

That code gives classes other invariants is no matter: it records no check and forgets nothing
(`changeByKind_invariant_records`), and the checkpoints still tell their texts
(`OwnCheckpoints.tells`).
-/

namespace Covenant

/-! ## Words of records -/

/-- The last character of a record is that of its checkpoint. -/
theorem getLast?_checkText (t : String) (c : Checkpoint) :
    (checkText t c).toList.getLast? = c.text.toList.getLast? := by
  have there : c.text.toList.getLast?.isSome = true := by
    cases c with
    | entry => with_unfolding_all decide
    | exit => with_unfolding_all decide
  unfold checkText
  rw [String.toList_append, List.getLast?_append]
  exact Option.or_of_isSome there

/-- A record tells its subject and its checkpoint. -/
theorem checkText_inj {t t' : String} {c c' : Checkpoint} (h : checkText t c = checkText t' c') :
    t = t' ∧ c = c' := by
  have last : c.text.toList.getLast? = c'.text.toList.getLast? := by
    rw [← getLast?_checkText t c, h, getLast?_checkText]
  have same : c = c' := by
    cases c <;> cases c' <;> first | rfl | exact absurd last (by with_unfolding_all decide)
  subst same
  have texts := congrArg String.toList h
  unfold checkText at texts
  simp only [String.toList_append, List.append_assoc] at texts
  have rest := List.append_cancel_left texts
  exact ⟨String.toList_inj.1 (List.append_cancel_right rest), rfl⟩

/-- A word of records in which each entry record is closed by an exit record of the same subject. -/
inductive Bracketed : List String → Prop
  | nil : Bracketed []
  | pair {t : String} {w w' : List String} : Bracketed w → Bracketed w' →
      Bracketed (checkText t .entry :: (w ++ checkText t .exit :: w'))

namespace Bracketed

variable {w w' : List String}

/-- One word after another. -/
theorem append (first : Bracketed w) (second : Bracketed w') : Bracketed (w ++ w') := by
  induction first with
  | nil => exact second
  | pair inside _ _ ih =>
    rw [List.cons_append, List.append_assoc, List.cons_append]
    exact .pair inside ih

/-- There are as many entry records of a subject as exit records. -/
theorem count_eq (h : Bracketed w) (t : String) :
    w.count (checkText t .entry) = w.count (checkText t .exit) := by
  induction h with
  | nil => rfl
  | @pair t' w w' _ _ inside after =>
    have other : (checkText t' .exit == checkText t .entry) = false :=
      beq_eq_false_iff_ne.2 fun h => nomatch (checkText_inj h).2
    have other' : (checkText t' .entry == checkText t .exit) = false :=
      beq_eq_false_iff_ne.2 fun h => nomatch (checkText_inj h).2
    have alike : (checkText t' .entry == checkText t .entry) =
        (checkText t' .exit == checkText t .exit) := by
      by_cases same : t' = t
      · rw [same]
        simp
      · have apart (c : Checkpoint) : (checkText t' c == checkText t c) = false :=
          beq_eq_false_iff_ne.2 fun h => same (checkText_inj h).1
        rw [apart, apart]
    simp only [List.count_cons, List.count_append, inside, after, other, other', alike]
    omega

end Bracketed

/-! ## What is recorded and remembered -/

namespace Machine

/-- A class is known to have a certain invariant, or none, because that has been looked up. -/
def Knows (m : Machine) (cls : ClassRef) (found : Option Value) : Prop :=
  (m.lookups.find? (·.1 == cls)).map (·.2) = some found

/-- Whatever was known of a class still is. -/
def Remembers (m n : Machine) : Prop :=
  ∀ cls found, m.Knows cls found → n.Knows cls found

/-- Between two machines checks have recorded a word, and nothing that was known is forgotten. -/
structure Records (w : List String) (m n : Machine) : Prop where
  checks : n.checks = m.checks ++ w
  remembers : m.Remembers n

variable {m n k : Machine} {w w' : List String} {cls : ClassRef} {found found' : Option Value}

/-- What is known is one thing. -/
theorem Knows.unique (h : m.Knows cls found) (h' : m.Knows cls found') : found = found' :=
  Option.some.inj (h.symm.trans h')

namespace Records

/-- Code that neither records anything nor looks anything up. -/
theorem of_eq (trace : n.trace = m.trace) (lookups : n.lookups = m.lookups) : Records [] m n := by
  refine ⟨?_, fun cls found known => ?_⟩
  · unfold Machine.checks
    rw [trace, List.append_nil]
  · unfold Knows
    rw [lookups]
    exact known

theorem trans (first : Records w m n) (second : Records w' n k) : Records (w ++ w') m k where
  checks := by rw [second.checks, first.checks, List.append_assoc]
  remembers cls found known := second.remembers cls found (first.remembers cls found known)

/-- The record of one check. -/
theorem announce (m : Machine) (cls : ClassRef) (c : Checkpoint) :
    Records [checkText (m.qualifiedName cls) c] m (m.announce cls c) :=
  ⟨checks_announce m cls c, fun _ _ known => known⟩

/-- What an invariant is found to be is remembered. Whatever the search for it has looked up
besides, it was not known before what this class has. -/
theorem look (before : Records w m n) (unknown : m.lookups.find? (·.1 == cls) = none) :
    Records w m { n with lookups := (cls, found) :: n.lookups } := by
  refine ⟨before.checks, fun d found' known => ?_⟩
  have other : (cls == d) = false := by
    refine beq_eq_false_iff_ne.2 fun same => ?_
    subst same
    unfold Knows at known
    rw [unknown] at known
    cases known
  unfold Knows
  rw [List.find?_cons, other]
  exact before.remembers d found' known

end Records

end Machine

namespace Act

/-! ## Nested invocations -/

/-- What is run between two machines: code, the search for the invariant of a class, or a check of a
subject, which has a class under a name then. -/
inductive Task
  | code
  | look (call : Caller) (cls : ClassRef) (found : Option Value)
  | check (call : Caller) (subject : Value) (c : Checkpoint) (cls : ClassRef) (name : String)

/-- What is run between two machines is made of strict invocations and of other code, which makes no
check and has no invariant forgotten.

An invariant is searched for where it is not known, and that may run code. A check without an
invariant is the search for one; with one it is recorded, and the invariant, which is code, holds.
An invocation has its two checks pass, under the same class and name, and its body, which is code,
ends so that the exit check is due: it returns or raises an ordinary fault. -/
inductive Nests : Task → Machine → Machine → Prop
  | other {m n : Machine} : Machine.Records [] m n → Nests .code m n
  | andThen {m n k : Machine} : Nests .code m n → Nests .code n k → Nests .code m k
  | known {call : Caller} {m : Machine} {cls : ClassRef} {found : ClassRef × Option Value} :
      m.lookups.find? (·.1 == cls) = some found → Nests (.look call cls found.2) m m
  | search {call : Caller} {m n : Machine} {cls : ClassRef} {found : Option Value} :
      m.lookups.find? (·.1 == cls) = none → currentInvariant? call cls m = (.done found, n) →
      Nests .code m n →
      Nests (.look call cls found) m { n with lookups := (cls, found) :: n.lookups }
  | asked {call : Caller} {m n : Machine} {cls : ClassRef} {found : Option Value} :
      Nests (.look call cls found) m n → Nests .code m n
  | unguarded {call : Caller} {m n : Machine} {subject : Value} {c : Checkpoint} {name : String} :
      Nests (.look call (m.classOf subject) none) m n →
      Nests (.check call subject c (m.classOf subject) name) m n
  | guarded {call : Caller} {m k n : Machine} {subject invariant v : Value} {c : Checkpoint} :
      Nests (.look call (m.classOf subject) (some invariant)) m k → TellsCheckpoints call k →
      call invariant [subject] [] (k.announce (m.classOf subject) c) = (.done v, n) →
      v.same (.bool false) = false → Nests .code (k.announce (m.classOf subject) c) n →
      Nests (.check call subject c (m.classOf subject) (k.qualifiedName (m.classOf subject))) m n
  | invocation {call : Caller} {i : ContractRun} {m m₁ m₂ n : Machine} {o : Outcome Value}
      {cls : ClassRef} {name : String} :
      i.mode = .strict → Nests (.check call i.subject .entry cls name) m m₁ →
      i.body i.old i.subject m₁ = (o, m₂) → i.ExitDue o m₂ → Nests .code m₁ m₂ →
      Nests (.check call i.subject .exit cls name) (m₂.atExit o) n → Nests .code m (i.run call m).2

variable {call : Caller} {m n m₁ m₂ : Machine} {subject : Value} {c : Checkpoint} {cls : ClassRef}
  {name : String} {found : Option Value} {i : ContractRun} {o : Outcome Value} {task : Task}

/-- The search finds what it is said to find. -/
theorem Nests.findInvariant_eq (h : Nests (.look call cls found) m n) :
    findInvariant call cls m = (.done found, n) := by
  unfold findInvariant
  rw [read_bind]
  cases h with
  | known there =>
    rw [there]
    rfl
  | search unknown current _ =>
    rw [unknown]
    exact bind_of_done current _

/-- The checks pass. -/
theorem Nests.checkAt_eq (h : Nests (.check call subject c cls name) m n) :
    checkAt call subject c m = (.done (), n) := by
  cases h with
  | unguarded looked => exact checkAt_of_none looked.findInvariant_eq c
  | guarded looked tells holds good _ =>
    exact checkAt_of_found_holds looked.findInvariant_eq tells holds good

/-- An invocation ends as its body did. -/
theorem run_of_checks (entry : checkAt call i.subject .entry m = (.done (), m₁))
    (body : i.body i.old i.subject m₁ = (o, m₂)) (due : i.ExitDue o m₂)
    (exit : checkAt call i.subject .exit (m₂.atExit o) = (.done (), n)) :
    ∃ h, i.run call m = (o, { n with handling := h }) := by
  rw [ContractRun.run_of_due entry body due]
  unfold endChecked
  cases o with
  | done v => exact ⟨n.handling, bind_of_done exit _⟩
  | raised x =>
    have passed : whileHandling x (checkAt call i.subject .exit) m₂ =
        (.done (), { n with handling := m₂.handling }) := by
      simp only [Machine.atExit] at exit
      simp [whileHandling, exit]
    exact ⟨m₂.handling, bind_of_done passed _⟩
  | exhausted => exact due.elim

/-- The words that a task may record, `n` being the machine after it. -/
def Task.Gives : Task → Machine → List String → Prop
  | .code, _, w => Bracketed w
  | .look _ cls found, n, w => Bracketed w ∧ n.Knows cls found
  | .check _ _ c cls name, n, w => ∃ found w₁ w₂, n.Knows cls found ∧ Bracketed w₁ ∧
      Bracketed w₂ ∧ w = w₁ ++ if found.isSome then checkText name c :: w₂ else []

/-- What is recorded between two checks that agree on whether there is an invariant, and by them. -/
theorem bracketed_between {w₁ w₂ w w₃ w₄ : List String} (guarded : Bool) (name : String)
    (h₁ : Bracketed w₁) (h₂ : Bracketed w₂) (h : Bracketed w) (h₃ : Bracketed w₃)
    (h₄ : Bracketed w₄) :
    Bracketed ((w₁ ++ if guarded then checkText name .entry :: w₂ else []) ++
      (w ++ (w₃ ++ if guarded then checkText name .exit :: w₄ else []))) := by
  cases guarded with
  | false => simpa using h₁.append (h.append h₃)
  | true =>
    have pair := Bracketed.pair (t := name) (h₂.append (h.append h₃)) h₄
    simpa using h₁.append pair

/-- What is run between two machines records a word that fits it, and has nothing forgotten. -/
theorem Nests.gives (h : Nests task m n) : ∃ w, m.Records w n ∧ task.Gives n w := by
  induction h with
  | other quiet => exact ⟨[], quiet, .nil⟩
  | andThen _ _ first second =>
    obtain ⟨w, records, bracketed⟩ := first
    obtain ⟨w', records', bracketed'⟩ := second
    exact ⟨w ++ w', records.trans records', bracketed.append bracketed'⟩
  | known there =>
    refine ⟨[], .of_eq rfl rfl, .nil, ?_⟩
    unfold Machine.Knows
    rw [there]
    rfl
  | search unknown _ _ ran =>
    obtain ⟨w, records, bracketed⟩ := ran
    refine ⟨w, records.look unknown, bracketed, ?_⟩
    unfold Machine.Knows
    rw [List.find?_cons_of_pos (by simp)]
    rfl
  | asked _ looked =>
    obtain ⟨w, records, bracketed, -⟩ := looked
    exact ⟨w, records, bracketed⟩
  | unguarded _ looked =>
    obtain ⟨w, records, bracketed, known⟩ := looked
    exact ⟨w, records, none, w, [], known, bracketed, .nil, by simp⟩
  | @guarded call m k n subject invariant v c _ _ _ _ _ looked ran =>
    obtain ⟨w, records, bracketed, known⟩ := looked
    obtain ⟨w', records', bracketed'⟩ := ran
    have announced := Machine.Records.announce k (m.classOf subject) c
    exact ⟨_, records.trans (announced.trans records'), some invariant, w, w',
      records'.remembers _ _ known, bracketed, bracketed', rfl⟩
  | @invocation call i m m₁ m₂ n o cls name strict entry body due _ exit entered ran left =>
    obtain ⟨w, records, found, w₁, w₂, known, bracketed₁, bracketed₂, rfl⟩ := entered
    obtain ⟨w, recordsBody, bracketed⟩ := ran
    obtain ⟨w', recordsExit, found', w₃, w₄, known', bracketed₃, bracketed₄, rfl⟩ := left
    have toExit : Machine.Records [] m₂ (m₂.atExit o) :=
      .of_eq (by cases o <;> rfl) (by cases o <;> rfl)
    -- what the entry check has found is what the exit check finds
    have same : found = found' :=
      (recordsExit.remembers _ _ (toExit.remembers _ _ (recordsBody.remembers _ _ known))).unique
        known'
    subst same
    obtain ⟨h, run⟩ := run_of_checks entry.checkAt_eq body due exit.checkAt_eq
    have restored : Machine.Records [] n { n with handling := h } := .of_eq rfl rfl
    rw [run]
    refine ⟨_, records.trans (recordsBody.trans (toExit.trans (recordsExit.trans restored))), ?_⟩
    rw [List.nil_append, List.append_nil]
    exact bracketed_between found.isSome name bracketed₁ bracketed₂ bracketed bracketed₃ bracketed₄

/-! ## Code that changes invariants -/

/-- What fails adds a fault to the heap. -/
theorem fail_heap (α : Type) (cls : FaultClass) (message : String) (m : Machine) :
    ∃ heap, (fail cls message m : Outcome α × Machine).2 = { m with heap } := by
  obtain ⟨k, context, raised, rest, -⟩ := exists_raise α (Machine.cell_push_size m
    (.fault (.fresh (.known (.fault cls)) [.text message] [])))
  have run : (fail cls message : Act α) m = (.raised m.heap.size, k) := raised
  exact ⟨k.heap, by rw [run, rest]; rfl⟩

/-- The machine `n` is `m` after setting, replacing or deleting the invariant of a class, or after
failing to. -/
def InvariantChanged (cls : ClassRef) (m n : Machine) : Prop :=
  (∃ fields : Fields, n = m.setClassFields cls fields ∧
    ∀ name, name ≠ "invariant" → fields.get? name = (m.classFields cls).get? name) ∨
  ∃ heap, n = { m with heap }

/-- Changing the invariant of a class among the others of its attributes. -/
theorem changeClassField_invariant (cls : ClassRef) (new : Option Value) (m : Machine) :
    InvariantChanged cls m (changeClassField cls "invariant" new m).2 := by
  unfold changeClassField
  rw [read_bind]
  cases new with
  | some x => exact .inl ⟨_, rfl, fun _ other => Fields.get?_set_of_ne other⟩
  | none =>
    dsimp only
    split
    · exact .inl ⟨_, rfl, fun _ other => Fields.get?_erase_of_ne other⟩
    · exact .inr (fail_heap _ _ _ m)

/-- Changing the invariant of a class, whatever class it is. -/
theorem changeByKind_invariant (call : Caller) (cls : ClassRef) (new : Option Value)
    (m : Machine) :
    InvariantChanged cls m (changeByKind call (.cls cls) "invariant" new m).2 := by
  have change : InvariantChanged cls m (changeClassAttribute.change cls "invariant" new m).2 := by
    have notClass : ("invariant" == special "class") = false := rfl
    have noPart : (Known.type.nature? "invariant" == some .computed) = false := rfl
    unfold changeClassAttribute.change
    rw [notClass, noPart]
    exact changeClassField_invariant cls new m
  change InvariantChanged cls m (changeClassAttribute cls "invariant" new m).2
  unfold changeClassAttribute
  rw [read_bind]
  cases cls with
  | made n => exact change
  | known k =>
    dsimp only
    by_cases isSealed : k.isSealed = true
    · rw [if_pos isSealed]
      exact .inr (fail_heap _ _ _ m)
    · rw [if_neg isSealed]
      split
      · -- members of an enumeration and their table cannot be changed
        repeat' split
        all_goals first | exact change | exact .inr (fail_heap _ _ _ m)
      · exact change

/-- Setting, replacing or deleting the invariant of a class records nothing and has no invariant
forgotten that is known. -/
theorem changeByKind_invariant_records (call : Caller) (cls : ClassRef) (new : Option Value)
    (m : Machine) : m.Records [] (changeByKind call (.cls cls) "invariant" new m).2 := by
  rcases changeByKind_invariant call cls new m with ⟨fields, changed, -⟩ | ⟨heap, failed⟩
  · rw [changed]
    unfold Machine.setClassFields
    repeat' split
    all_goals exact .of_eq rfl rfl
  · rw [failed]
    exact .of_eq rfl rfl

/-- A machine on which no script has changed what the initial classes have, their invariants apart,
nor given attributes to values without fields of their own. -/
structure OwnCheckpoints (m : Machine) : Prop where
  attached : m.attached = []
  untouched : ∀ name, name ≠ "invariant" → m.Untouched name

/-- There the checkpoints tell their texts. -/
theorem OwnCheckpoints.tells (own : OwnCheckpoints m) : TellsCheckpoints call m :=
  fun c => getAttribute_value_of_untouched own.attached (own.untouched _ (by decide))
    (own.untouched _ (by decide)) (.checkpoint c)

/-- The checkpoints stay what they are when the invariant of a class is set, replaced or deleted. -/
theorem OwnCheckpoints.changeByKind (own : OwnCheckpoints m) (call : Caller) (cls : ClassRef)
    (new : Option Value) :
    OwnCheckpoints (changeByKind call (.cls cls) "invariant" new m).2 := by
  rcases changeByKind_invariant call cls new m with ⟨fields, changed, same⟩ | ⟨heap, failed⟩
  · rw [changed]
    refine ⟨?_, fun name other =>
      (own.untouched name other).setClassFields (same name other)⟩
    rw [← own.attached]
    unfold Machine.setClassFields
    repeat' split
    all_goals rfl
  · rw [failed]
    exact ⟨own.attached, own.untouched⟩

/-! ## Runs of any shape -/

/-- The records of code that is made of strict invocations, nested in any way, are well bracketed:
each entry record is closed by an exit record of the same subject, and there are as many of the one
as of the other. At any time such code may go on by setting, replacing or deleting the invariant of
a class. -/
theorem nested_records_are_bracketed (h : Nests .code m n) :
    (∃ w, n.checks = m.checks ++ w ∧ Bracketed w ∧
      ∀ t, w.count (checkText t .entry) = w.count (checkText t .exit)) ∧
    ∀ call cls new, Nests .code m (changeByKind call (.cls cls) "invariant" new n).2 := by
  obtain ⟨w, records, bracketed⟩ := h.gives
  refine ⟨⟨w, records.checks, bracketed, bracketed.count_eq⟩, fun call cls new => ?_⟩
  exact .andThen h (.other (changeByKind_invariant_records call cls new n))

/-! ## Two accounts -/

/-- Invariants that hold. -/
def holding : Caller := fun _ _ _ m => (.done .null, m)

/-- Two accounts whose invariant has been looked up, and an ordinary fault. -/
def twoKnown : Machine :=
  { threeFaults with lookups := [(.known .account, some (.routine .accountInvariant))] }

/-- An invocation on the second account, whose body deletes the invariant of accounts and raises the
fault. -/
def forgetful : ContractRun :=
  ⟨.strict, .ref 4, .null, fun _ _ => do
    changeByKind holding (.cls (.known .account)) "invariant" none
    rethrow 0⟩

/-- An invocation on the first account, whose body makes that one and catches the fault. -/
def forgiving : ContractRun :=
  ⟨.strict, .ref 3, .null, fun _ _ => do
    let _ ← attempt (forgetful.run holding)
    return .null⟩

/-- Two invocations, one in the other, the inner one of which ends with a fault after deleting the
invariant, leave four records. -/
theorem nested_records_are_bracketed_two_known :
    ∃ w, (forgiving.run holding twoKnown).2.checks = w ∧ Bracketed w ∧ w.length = 4 := by
  have check (r : Ref) (c : Checkpoint) (k : Machine) (lookups : k.lookups = twoKnown.lookups)
      (own : OwnCheckpoints k) (cls : k.classOf (.ref r) = .known .account) :
      Nests (.check holding (.ref r) c (.known .account) "BankAccount") k
        (k.announce (.known .account) c) := by
    have looked : Nests (.look holding (k.classOf (.ref r)) (some (.routine .accountInvariant))) k
        k := by
      have known : k.lookups.find? (·.1 == .known .account) =
          some (.known .account, some (.routine .accountInvariant)) := by
        rw [lookups]
        rfl
      rw [cls]
      exact .known known
    have guarded := Nests.guarded (c := c) looked own.tells rfl rfl (.other (.of_eq rfl rfl))
    rw [cls] at guarded
    exact guarded
  have start : OwnCheckpoints twoKnown := ⟨rfl, fun _ _ _ => rfl⟩
  -- the inner invocation, on the machine that the outer entry check leaves
  let entered := twoKnown.announce (.known .account) .entry
  let inside := entered.announce (.known .account) .entry
  let changed := (changeByKind holding (.cls (.known .account)) "invariant" none inside).2
  have own : OwnCheckpoints inside := ⟨start.attached, start.untouched⟩
  have ownChanged : OwnCheckpoints changed := own.changeByKind holding (.known .account) none
  have raised : forgetful.body forgetful.old forgetful.subject inside = (.raised 0, changed) := rfl
  have due : forgetful.ExitDue (.raised 0) changed :=
    ContractRun.exitDue_raised_iff.2 ⟨rfl, by with_unfolding_all decide⟩
  have entry :
      Nests (.check holding (.ref 4) .entry (.known .account) "BankAccount") entered inside :=
    check 4 .entry entered rfl ⟨start.attached, start.untouched⟩ rfl
  have exit := check 4 .exit (changed.atExit (.raised 0)) rfl
    ⟨ownChanged.attached, ownChanged.untouched⟩ rfl
  have inner : Nests .code entered (forgetful.run holding entered).2 :=
    .invocation rfl entry raised due (.other (changeByKind_invariant_records ..)) exit
  obtain ⟨h, ran⟩ := run_of_checks (i := forgetful) entry.checkAt_eq raised due exit.checkAt_eq
  -- the outer one, which returns
  have body : forgiving.body forgiving.old forgiving.subject entered =
      (.done .null, (forgetful.run holding entered).2) := by
    rw [ran]
    exact bind_of_done (attempt_of_raised ran) _
  have left := check 3 .exit (forgetful.run holding entered).2 (by rw [ran]; rfl)
    (by rw [ran]; exact ⟨ownChanged.attached, ownChanged.untouched⟩) (by rw [ran]; rfl)
  have outer : Nests .code twoKnown (forgiving.run holding twoKnown).2 :=
    .invocation rfl (check 3 .entry twoKnown rfl start rfl) body trivial inner left
  obtain ⟨⟨w, records, bracketed, -⟩, -⟩ := nested_records_are_bracketed outer
  have four : (forgiving.run holding twoKnown).2.checks.length = 4 := by with_unfolding_all decide
  rw [records] at four
  exact ⟨_, records, bracketed, four⟩

/-- Two classes whose invariants hold, an object of the first, and a body that puts the subject into
the second. -/
def convertible : Machine :=
  { threeFaults with
    heap := #[.scope [("B", .cls (.made 1))] none,
      .closure "invariant" ["self"] [.give (.bool true)] 0,
      .closure "convert" ["old", "subject"]
        [.setField (.name "subject") "__class__" (.name "B")] 0,
      .object (.made 0) []]
    classes := #[⟨"A", "A", none, [("invariant", .ref 1)], []⟩,
      ⟨"B", "B", none, [("invariant", .ref 1)], []⟩] }

/-- A strict run of that body on that object. -/
def conversion : Outcome Value × Machine :=
  callWithin 2 (.routine .runStrict) [.ref 3, .null, .ref 2] [] convertible

/-- Whether a run returned and gave nothing. -/
def isNothing : Outcome Value → Bool
  | .done .null => true
  | _ => false

theorem eq_of_isNothing {o : Outcome Value} (h : isNothing o = true) : o = .done .null := by
  unfold isNothing at h
  split at h
  · rfl
  · cases h

/-- The run returns, and both of its checks pass; but the entry record is one of an `A` and the exit
record one of a `B`, so the records are not well bracketed. -/
theorem records_unmatched_after_change_of_class :
    ∃ n, conversion = (.done .null, n) ∧
      n.checks = [checkText "A" .entry, checkText "B" .exit] ∧ ¬ Bracketed n.checks := by
  have records : conversion.2.checks = [checkText "A" .entry, checkText "B" .exit] := by
    decide +kernel
  have returns : conversion.1 = .done .null := eq_of_isNothing (by decide +kernel)
  rcases ran : conversion with ⟨o, n⟩
  rw [ran] at records returns
  obtain rfl : o = .done .null := returns
  refine ⟨n, rfl, records, fun bracketed => ?_⟩
  have counts := bracketed.count_eq "A"
  rw [records] at counts
  exact absurd counts (by decide +kernel)

end Act

end Covenant
