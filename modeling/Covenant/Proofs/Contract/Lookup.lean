import Covenant.Proofs.Contract.Nesting
import Covenant.Script.Call

/-!
# What the invariant of a class is, is settled once

The first time that a class is asked for its invariant, the answer is what the attribute of the
class gives, if that can be called, and it is remembered. `Looks` says which classes are asked in a
run, with the answers, by code of any kind: the searches for invariants (`findInvariant`), the
checks and the contracts that make them, and whatever is done in between, which leaves alone what is
remembered. A class gets the same answer throughout (`Looks.settles`, by induction), and the first
one is what it had at that time (`Looks.first`).

Reaching an attribute can itself run code or make an object. Where it does neither, the attribute is
at rest (`Machine.AtRest`), and a search does nothing but remember its answer
(`findInvariant_of_atRest`). Searches of one class then have no effect on those of another: with or
without them, among any settings and deletions of invariants, the answers for the others are the
same (`Apart.answers`, from a step lemma on two runs that differ in what is remembered of one class,
and induction). Where reaching an attribute runs code, that code may well change another class, or
search for the invariant of the class that is being asked (`lookups_depend_on_code_of_attributes`).
-/

namespace Covenant

namespace Machine

/-! ## Attributes at rest -/

/-- Whether calling a value can work at all. -/
def isCallable (m : Machine) (v : Value) : Bool :=
  match v with
  | .cls _ | .routine _ => true
  | .ref r =>
    match m.cell r with
    | .closure .. | .bound .. | .decorator .. | .contracted .. | .static _ | .alias .. => true
    | _ => (m.classAttribute? (m.classOf v) (special "call")).isSome
  | v => (m.classAttribute? (m.classOf v) (special "call")).isSome

/-- Whether reaching an attribute through its class runs no code and makes no new object: it is
neither an object that has a say in it nor a function that is bound to the class. -/
def isAtRest (m : Machine) (found : Value) : Bool :=
  match found with
  | .ref r =>
    match m.cell r with
    | .ofClass _ => false
    | .object cls _ => (m.classAttribute? cls (special "get")).isNone
    | _ => true
  | _ => true

/-- What an attribute at rest gives when it is reached through its class: itself, or the function
that it holds. -/
def reached (m : Machine) (found : Value) : Value :=
  match found with
  | .ref r =>
    match m.cell r with
    | .static f => f
    | _ => found
  | _ => found

/-- What a class has as its invariant, own or inherited, is at rest. -/
def AtRest (m : Machine) (c : ClassRef) : Prop :=
  ∀ found, m.classAttribute? c "invariant" = some found → m.isAtRest found = true

/-- The invariant that a class has now, own or inherited, if it can be called. -/
def invariant? (m : Machine) (c : ClassRef) : Option Value :=
  ((m.classAttribute? c "invariant").map m.reached).filter m.isCallable

/-- The same machine, which remembers what a class was found to have as its invariant. -/
def remembering (m : Machine) (c : ClassRef) (found : Option Value) : Machine :=
  { m with lookups := (c, found) :: m.lookups }

/-- Nothing has been found out about the invariant of a class. -/
def Unasked (m : Machine) (c : ClassRef) : Prop :=
  m.lookups.find? (·.1 == c) = none

variable {m n : Machine} {c d : ClassRef} {found a : Option Value}

/-! ### What has been looked up is no matter -/

theorem classAttribute?_lookups (m : Machine) (lookups : List (ClassRef × Option Value))
    (c : ClassRef) (name : String) :
    classAttribute? { m with lookups } c name = m.classAttribute? c name := by
  have lineage : Machine.lineage { m with lookups } c = m.lineage c :=
    ancestry_of_classes (m := m) (n := { m with lookups }) rfl m.classes.size c
  have fields (d : ClassRef) : classFields { m with lookups } d = m.classFields d := by
    cases d <;> rfl
  simp only [classAttribute?, lineage, fields]

theorem isAtRest_lookups (m : Machine) (lookups : List (ClassRef × Option Value)) (v : Value) :
    isAtRest { m with lookups } v = m.isAtRest v := by
  unfold isAtRest
  simp only [classAttribute?_lookups]
  rfl

theorem atRest_lookups (lookups : List (ClassRef × Option Value)) (rest : m.AtRest c) :
    AtRest { m with lookups } c := by
  intro found there
  rw [classAttribute?_lookups] at there
  rw [isAtRest_lookups]
  exact rest found there

theorem invariant?_lookups (m : Machine) (lookups : List (ClassRef × Option Value))
    (c : ClassRef) : invariant? { m with lookups } c = m.invariant? c := by
  have callable : isCallable { m with lookups } = m.isCallable := by
    funext v
    unfold isCallable
    simp only [classAttribute?_lookups]
    cases v <;> rfl
  unfold invariant?
  rw [classAttribute?_lookups, callable]
  rfl

/-! ### What is known -/

theorem knows_remembering (m : Machine) (c : ClassRef) (found : Option Value) :
    (m.remembering c found).Knows c found := by
  unfold Knows remembering
  rw [List.find?_cons_of_pos (by simp)]
  rfl

theorem knows_remembering_of_ne (ne : c ≠ d) :
    (m.remembering c found).Knows d a ↔ m.Knows d a := by
  unfold Knows remembering
  rw [List.find?_cons_of_neg (by simpa using ne)]

/-- A class that is known has been asked for. -/
theorem Knows.not_unasked (known : m.Knows c a) : ¬ m.Unasked c := by
  intro unasked
  unfold Knows at known
  rw [unasked] at known
  cases known

/-- A class either has been asked for or not. -/
theorem knows_or_unasked (m : Machine) (c : ClassRef) : (∃ a, m.Knows c a) ∨ m.Unasked c := by
  unfold Knows Unasked
  cases there : m.lookups.find? (·.1 == c) with
  | none => exact .inr rfl
  | some p => exact .inl ⟨p.2, rfl⟩

end Machine

namespace Act

variable {call : Caller} {m n k : Machine} {cls : ClassRef} {found a b : Option Value} {v : Value}

/-! ## One search -/

theorem isCallable_apply (v : Value) (m : Machine) :
    isCallable v m = (.done (m.isCallable v), m) := by
  unfold isCallable Machine.isCallable
  cases v with
  | ref r =>
    simp only [load_bind]
    cases m.cell r <;> rfl
  | _ => rfl

/-- An attribute at rest is reached without more ado. -/
theorem throughClass_of_atRest (rest : m.isAtRest v = true) (call : Caller) (cls : ClassRef) :
    throughClass call cls v m = (.done (m.reached v), m) := by
  unfold throughClass Machine.reached
  unfold Machine.isAtRest at rest
  cases v with
  | ref r =>
    simp only [load_bind]
    cases cell : m.cell r with
    | ofClass f => simp [cell] at rest
    | object c fields =>
      simp only [cell, Option.isNone_iff_eq_none] at rest
      simp only [describedBy, read_bind, rest]
      rfl
    | _ => rfl
  | _ => rfl

theorem inherited?_of_atRest (rest : m.AtRest cls) (call : Caller) :
    inherited? call cls "invariant" m =
      (.done ((m.classAttribute? cls "invariant").map m.reached), m) := by
  unfold inherited?
  rw [read_bind]
  cases there : m.classAttribute? cls "invariant" with
  | none => rfl
  | some found =>
    exact bind_of_done (attempt_of_done (throughClass_of_atRest (rest found there) call cls)) _

/-- Where the attribute of a class is at rest, its invariant is what it has, if that can be called.
-/
theorem currentInvariant?_of_atRest (rest : m.AtRest cls) (call : Caller) :
    currentInvariant? call cls m = (.done (m.invariant? cls), m) := by
  unfold currentInvariant? Machine.invariant?
  rw [bind_of_done (inherited?_of_atRest rest call)]
  cases (m.classAttribute? cls "invariant").map m.reached with
  | none => rfl
  | some candidate =>
    dsimp only
    rw [bind_of_done (isCallable_apply candidate m)]
    rw [Option.filter_some]
    cases m.isCallable candidate <;> rfl

/-- What is known is found. -/
theorem findInvariant_of_knows (known : m.Knows cls found) (call : Caller) :
    findInvariant call cls m = (.done found, m) := by
  unfold findInvariant
  rw [read_bind]
  unfold Machine.Knows at known
  obtain ⟨p, there, rfl⟩ := Option.map_eq_some_iff.1 known
  rw [there]
  rfl

/-- What is not known is searched for and then remembered. -/
theorem findInvariant_of_unasked (unasked : m.Unasked cls)
    (current : currentInvariant? call cls m = (.done found, n)) :
    findInvariant call cls m = (.done found, n.remembering cls found) := by
  unfold findInvariant
  rw [read_bind, unasked]
  exact bind_of_done current _

/-- Searching for the invariant of a class that is at rest changes nothing but what is remembered of
this class. -/
theorem findInvariant_of_atRest (unasked : m.Unasked cls) (rest : m.AtRest cls) (call : Caller) :
    findInvariant call cls m = (.done (m.invariant? cls), m.remembering cls (m.invariant? cls)) :=
  findInvariant_of_unasked unasked (currentInvariant?_of_atRest rest call)

/-! ## Runs that search -/

/-- Between two machines classes are asked for their invariants, `w` being those that were answered,
with the answers, in order. Other code leaves alone what is remembered. The search for the invariant
of a class may run code that asks for others, but not for this class again. -/
inductive Looks : List (ClassRef × Option Value) → Machine → Machine → Prop
  | other {m n : Machine} : n.lookups = m.lookups → Looks [] m n
  | known {m : Machine} {cls : ClassRef} {found : Option Value} : m.Knows cls found →
      Looks [(cls, found)] m m
  | search {call : Caller} {m n : Machine} {cls : ClassRef} {found : Option Value}
      {w : List (ClassRef × Option Value)} : m.Unasked cls →
      currentInvariant? call cls m = (.done found, n) → Looks w m n → (∀ a, (cls, a) ∉ w) →
      Looks (w ++ [(cls, found)]) m (n.remembering cls found)
  | append {m n k : Machine} {w w' : List (ClassRef × Option Value)} : Looks w m n →
      Looks w' n k → Looks (w ++ w') m k

variable {w w' : List (ClassRef × Option Value)}

/-- What a run remembers: what was known before, and its answers. -/
structure Settles (w : List (ClassRef × Option Value)) (m n : Machine) : Prop where
  remembers : m.Remembers n
  answers : ∀ cls a, (cls, a) ∈ w → n.Knows cls a
  only : ∀ cls a, n.Knows cls a → m.Knows cls a ∨ (cls, a) ∈ w

theorem Settles.append (first : Settles w m n) (second : Settles w' n k) :
    Settles (w ++ w') m k where
  remembers cls a known := second.remembers cls a (first.remembers cls a known)
  answers cls a mem := by
    rcases List.mem_append.1 mem with before | after
    · exact second.remembers cls a (first.answers cls a before)
    · exact second.answers cls a after
  only cls a known := by
    rcases second.only cls a known with before | after
    · exact (first.only cls a before).imp_right fun mem => List.mem_append_left w' mem
    · exact .inr (List.mem_append_right w after)

/-- The answer of a search is remembered, and nothing is forgotten over it. -/
theorem Settles.remember (inner : Settles w m n) (unasked : m.Unasked cls)
    (others : ∀ a, (cls, a) ∉ w) : Settles (w ++ [(cls, found)]) m (n.remembering cls found) where
  remembers d a known := by
    have ne : cls ≠ d := by
      rintro rfl
      exact known.not_unasked unasked
    exact (Machine.knows_remembering_of_ne ne).2 (inner.remembers d a known)
  answers d a mem := by
    rcases List.mem_append.1 mem with before | last
    · have ne : cls ≠ d := by
        rintro rfl
        exact others a before
      exact (Machine.knows_remembering_of_ne ne).2 (inner.answers d a before)
    · cases List.mem_singleton.1 last
      exact n.knows_remembering cls found
  only d a known := by
    by_cases same : cls = d
    · subst same
      rw [(n.knows_remembering cls found).unique known]
      exact .inr (List.mem_append_right w (List.mem_singleton_self _))
    · rcases inner.only d a ((Machine.knows_remembering_of_ne same).1 known) with before | mem
      · exact .inl before
      · exact .inr (List.mem_append_left _ mem)

/-- A run remembers its answers, and what was known before it. -/
theorem Looks.settles (run : Looks w m n) : Settles w m n := by
  induction run with
  | @other m n same =>
    have alike (cls : ClassRef) (a : Option Value) : n.Knows cls a ↔ m.Knows cls a := by
      unfold Machine.Knows
      rw [same]
    exact ⟨fun cls a => (alike cls a).2, fun _ _ mem => absurd mem List.not_mem_nil,
      fun cls a known => .inl ((alike cls a).1 known)⟩
  | known there =>
    refine ⟨fun _ _ before => before, fun d a mem => ?_, fun _ _ before => .inl before⟩
    cases List.mem_singleton.1 mem
    exact there
  | search unasked _ _ others inner => exact inner.remember unasked others
  | append _ _ first second => exact first.append second

/-- The first answer for a class is what its attribute gave when it was asked for, that is, at a
time when nothing was known of it. -/
theorem Looks.first (run : Looks w m n) (mem : (cls, a) ∈ w) (unasked : m.Unasked cls) :
    ∃ call k k' before, Looks before m k ∧ before <+: w ∧ (∀ b, (cls, b) ∉ before) ∧
      currentInvariant? call cls k = (.done a, k') := by
  induction run with
  | other => cases mem
  | known there =>
    cases List.mem_singleton.1 mem
    exact absurd unasked there.not_unasked
  | @search call m n cls' found w unasked' current inner others ih =>
    rcases List.mem_append.1 mem with within | last
    · obtain ⟨call, k, k', before, ran, part, fresh, gave⟩ := ih within unasked
      exact ⟨call, k, k', before, ran, part.trans (List.prefix_append _ _), fresh, gave⟩
    · cases List.mem_singleton.1 last
      exact ⟨call, m, n, [], .other rfl, List.nil_prefix, nofun, current⟩
  | @append m n k w w' first second ih ih' =>
    by_cases early : ∃ b, (cls, b) ∈ w
    · -- the class is asked for in the first part, and later answers are the same
      obtain ⟨b, mem'⟩ := early
      have same : a = b := by
        have settled := (Looks.append first second).settles
        exact (settled.answers cls a mem).unique
          (settled.answers cls b (List.mem_append_left w' mem'))
      subst same
      obtain ⟨call, k₁, k₂, before, ran, part, fresh, gave⟩ := ih mem' unasked
      exact ⟨call, k₁, k₂, before, ran, part.trans (List.prefix_append _ _), fresh, gave⟩
    · have late : (cls, a) ∈ w' :=
        (List.mem_append.1 mem).resolve_left fun within => early ⟨a, within⟩
      have still : n.Unasked cls := by
        rcases n.knows_or_unasked cls with ⟨b, known⟩ | unasked'
        · rcases first.settles.only cls b known with before | within
          · exact absurd unasked before.not_unasked
          · exact absurd ⟨b, within⟩ early
        · exact unasked'
      obtain ⟨call, k₁, k₂, before, ran, part, fresh, gave⟩ := ih' late still
      refine ⟨call, k₁, k₂, w ++ before, .append first ran, ?_, ?_, gave⟩
      · exact (List.prefix_append_right_inj w).2 part
      · intro b within
        rcases List.mem_append.1 within with within | within
        · exact early ⟨b, within⟩
        · exact fresh b within

/-- Setting, replacing or deleting the invariant of a class looks nothing up. -/
theorem Looks.change (run : Looks w m n) (call : Caller) (cls : ClassRef) (new : Option Value) :
    Looks w m (changeByKind call (.cls cls) "invariant" new n).2 := by
  have untouched : (changeByKind call (.cls cls) "invariant" new n).2.lookups = n.lookups := by
    rcases changeByKind_invariant call cls new n with ⟨fields, changed, -⟩ | ⟨heap, failed⟩
    · rw [changed]
      unfold Machine.setClassFields
      repeat' split
      all_goals rfl
    · rw [failed]
  simpa using run.append (.other untouched)

/-! ## Code that does not know what has been looked up -/

/-- An action that neither asks nor changes what is remembered of invariants. -/
def Blind {α : Type} (x : Act α) : Prop :=
  ∀ m lookups, x { m with lookups } = ((x m).1, { (x m).2 with lookups })

namespace Blind

variable {α β : Type} {x : Act α}

theorem pure (a : α) : Blind (Pure.pure a : Act α) :=
  fun _ _ => rfl

theorem rethrow (e : Ref) : Blind (Act.rethrow e : Act α) :=
  fun _ _ => rfl

theorem bind {f : α → Act β} (first : Blind x) (second : ∀ a, Blind (f a)) : Blind (x >>= f) := by
  intro m lookups
  have ran := first m lookups
  obtain ⟨o, n, here⟩ : ∃ o n, x m = (o, n) := ⟨_, _, rfl⟩
  rw [here] at ran
  cases o with
  | done a =>
    rw [bind_of_done ran, bind_of_done here]
    exact second a n lookups
  | raised e => rw [bind_of_raised ran, bind_of_raised here]
  | exhausted => rw [bind_of_exhausted ran, bind_of_exhausted here]

/-- Asking for something else. -/
theorem read {f : Machine → α} (other : ∀ m lookups, f { m with lookups } = f m) :
    Blind (Act.read f) := by
  intro m lookups
  change (Outcome.done (f { m with lookups }), _) = _
  rw [other]
  rfl

/-- Asking for the whole machine, if what is done then depends on other things only. -/
theorem readAll {f : Machine → Act α} (other : ∀ m lookups, f { m with lookups } = f m)
    (blind : ∀ m, Blind (f m)) : Blind (Act.read id >>= f) := by
  intro m lookups
  change f { m with lookups } { m with lookups } = _
  rw [other]
  exact blind m m lookups

theorem load (r : Ref) : Blind (Act.load r) :=
  fun _ _ => rfl

theorem alloc (c : Cell) : Blind (Act.alloc c) :=
  fun _ _ => rfl

theorem store (r : Ref) (c : Cell) : Blind (Act.store r c) :=
  fun _ _ => rfl

theorem loadFault (e : Ref) : Blind (Act.loadFault e) := by
  refine bind (load e) fun c => ?_
  cases c <;> exact pure _

theorem cutContext (e : Ref) (steps : Nat) (r : Ref) : Blind (Act.cutContext e steps r) := by
  induction steps generalizing r with
  | zero => exact pure ()
  | succ steps ih =>
    refine bind (loadFault r) fun f => ?_
    cases f.context with
    | none => exact pure ()
    | some next =>
      dsimp only
      split
      · exact store r _
      · exact ih next

theorem chain (e : Ref) : Blind (Act.chain e) := by
  refine bind (read fun _ _ => rfl) fun h => ?_
  cases h with
  | none => exact pure ()
  | some h =>
    dsimp only
    split
    · exact pure ()
    · exact bind (read fun _ _ => rfl) fun _ =>
        bind (cutContext e _ h) fun _ => bind (loadFault e) fun _ => store e _

theorem fail (cls : FaultClass) (message : String) : Blind (Act.fail cls message : Act α) :=
  bind (alloc _) fun e => bind (chain e) fun _ => rethrow e

/-- Changing an attribute among the others of a class. -/
theorem changeClassField (c : ClassRef) (name : String) (new : Option Value) :
    Blind (Act.changeClassField c name new) := by
  have set (fields : Fields) : Blind (update fun m => m.setClassFields c fields) := by
    intro m lookups
    cases c with
    | known k => rfl
    | made n =>
      have change : Machine.setClassFields { m with lookups } (.made n) fields =
          { m.setClassFields (.made n) fields with lookups } := by
        unfold Machine.setClassFields
        dsimp only
        cases m.classes[n]? <;> rfl
      exact congrArg (Prod.mk (Outcome.done ())) change
  refine bind (read fun m lookups => by cases c <;> rfl) fun fields => ?_
  cases new with
  | some x => exact set _
  | none =>
    dsimp only
    split
    · exact set _
    · exact bind (read fun m lookups => by cases c <;> rfl) fun _ => fail _ _

/-- Setting, replacing or deleting the invariant of a class. -/
theorem changeInvariant (call : Caller) (c : ClassRef) (new : Option Value) :
    Blind (changeByKind call (.cls c) "invariant" new) := by
  have change : Blind (changeClassAttribute.change c "invariant" new) := by
    have notClass : ("invariant" == special "class") = false := rfl
    have noPart : (Known.type.nature? "invariant" == some .computed) = false := rfl
    unfold changeClassAttribute.change
    rw [notClass, noPart]
    exact changeClassField c "invariant" new
  change Blind (changeClassAttribute c "invariant" new)
  cases c with
  | made n => exact readAll (fun _ _ => rfl) fun _ => change
  | known k =>
    refine readAll (fun _ _ => rfl) fun m => ?_
    dsimp only
    split
    · exact fail _ _
    · split
      · -- members of an enumeration and their table cannot be changed
        repeat' split
        all_goals first | exact change | exact fail _ _
      · exact change

end Blind

/-! ## Searches of one class and those of the others -/

/-- What is done to the classes of a hierarchy: the invariant of one is searched for, or it is set,
replaced or deleted. -/
inductive Deed where
  | look (c : ClassRef)
  | change (c : ClassRef) (new : Option Value)

/-- Whether a deed searches for the invariant of a class. -/
def Deed.looksAt (c : ClassRef) : Deed → Bool
  | .look d => d == c
  | .change _ _ => false

/-- The machine after a deed. -/
def Deed.after (call : Caller) (m : Machine) : Deed → Machine
  | .look c => (findInvariant call c m).2
  | .change c new => (changeByKind call (.cls c) "invariant" new m).2

/-- The answer for a class, if its search ended with one. -/
def answerOf (c : ClassRef) : Outcome (Option Value) → List (ClassRef × Option Value)
  | .done a => [(c, a)]
  | _ => []

/-- The answer that a deed gets. -/
def Deed.answer (call : Caller) (m : Machine) : Deed → List (ClassRef × Option Value)
  | .look c => answerOf c (findInvariant call c m).1
  | .change _ _ => []

/-- The machine after some deeds. -/
def afterDeeds (call : Caller) : Machine → List Deed → Machine
  | m, [] => m
  | m, d :: ds => afterDeeds call (d.after call m) ds

/-- The answers that some deeds get, in order. -/
def answers (call : Caller) : Machine → List Deed → List (ClassRef × Option Value)
  | _, [] => []
  | m, d :: ds => d.answer call m ++ answers call (d.after call m) ds

/-- Whenever the invariant of a class is searched for, it is at rest. -/
def RestAlong (call : Caller) : Machine → List Deed → Prop
  | _, [] => True
  | m, d :: ds => (∀ c, d = .look c → m.AtRest c) ∧ RestAlong call (d.after call m) ds

theorem answers_change (call : Caller) (m : Machine) (c : ClassRef) (new : Option Value)
    (ds : List Deed) : answers call m (.change c new :: ds) =
      answers call (changeByKind call (.cls c) "invariant" new m).2 ds :=
  rfl

theorem answers_look (call : Caller) (m : Machine) (c : ClassRef) (ds : List Deed) :
    answers call m (.look c :: ds) =
      answerOf c (findInvariant call c m).1 ++ answers call (findInvariant call c m).2 ds :=
  rfl

/-- Of the answers for one class only those are left out that are to be. -/
theorem filter_answerOf (c d : ClassRef) (o : Outcome (Option Value)) :
    (answerOf d o).filter (·.1 != c) = if d = c then [] else answerOf d o := by
  cases o with
  | done a => by_cases same : d = c <;> simp [answerOf, same]
  | _ => simp [answerOf]

/-- Two machines differ in nothing but in what is remembered of a class. -/
structure Apart (c : ClassRef) (m n : Machine) : Prop where
  rest : n = { m with lookups := n.lookups }
  others : ∀ d, d ≠ c → n.lookups.find? (·.1 == d) = m.lookups.find? (·.1 == d)

namespace Apart

variable {c d : ClassRef}

theorem refl (c : ClassRef) (m : Machine) : Apart c m m :=
  ⟨rfl, fun _ _ => rfl⟩

/-- The first machine has found out about the class. -/
theorem remember (apart : Apart c m n) (a : Option Value) : Apart c (m.remembering c a) n where
  rest := apart.rest
  others d ne := by
    unfold Machine.remembering
    rw [apart.others d ne, List.find?_cons_of_neg (by simpa using ne.symm)]

/-- Both have found out the same about a class. -/
theorem both (apart : Apart c m n) (d : ClassRef) (a : Option Value) :
    Apart c (m.remembering d a) (n.remembering d a) where
  rest := by
    conv => lhs; rw [apart.rest]
    rfl
  others e ne := by
    unfold Machine.remembering
    simp only [List.find?_cons, apart.others e ne]

/-- Code that does not ask what is remembered does the same on both. -/
theorem blind (apart : Apart c m n) {α : Type} {x : Act α} (same : Blind x) :
    Apart c (x m).2 (x n).2 := by
  have kept : (x m).2.lookups = m.lookups := congrArg (fun p => p.2.lookups) (same m m.lookups)
  have ran : x n = ((x m).1, { (x m).2 with lookups := n.lookups }) := by
    conv => lhs; rw [apart.rest]
    exact same m n.lookups
  rw [ran]
  exact ⟨rfl, fun d ne => by rw [kept]; exact apart.others d ne⟩

theorem atRest (apart : Apart c m n) (rest : m.AtRest d) : n.AtRest d := by
  rw [apart.rest]
  exact Machine.atRest_lookups _ rest

theorem invariant? (apart : Apart c m n) (d : ClassRef) : n.invariant? d = m.invariant? d := by
  rw [apart.rest]
  exact m.invariant?_lookups _ d

/-- Another class gets the same answer on both. -/
theorem findInvariant (apart : Apart c m n) (ne : d ≠ c) (rest : m.AtRest d) (call : Caller) :
    (findInvariant call d n).1 = (findInvariant call d m).1 ∧
      Apart c (findInvariant call d m).2 (findInvariant call d n).2 := by
  rcases m.knows_or_unasked d with ⟨a, known⟩ | unasked
  · have known' : n.Knows d a := by
      unfold Machine.Knows
      rw [apart.others d ne]
      exact known
    rw [findInvariant_of_knows known, findInvariant_of_knows known']
    exact ⟨rfl, apart⟩
  · have unasked' : n.Unasked d := (apart.others d ne).trans unasked
    rw [findInvariant_of_atRest unasked rest, findInvariant_of_atRest unasked' (apart.atRest rest),
      apart.invariant? d]
    exact ⟨rfl, apart.both d _⟩

/-- The class itself may be asked for on the first machine only. -/
theorem findInvariant_left (apart : Apart c m n) (rest : m.AtRest c) (call : Caller) :
    Apart c (Act.findInvariant call c m).2 n := by
  rcases m.knows_or_unasked c with ⟨a, known⟩ | unasked
  · rw [findInvariant_of_knows known]
    exact apart
  · rw [findInvariant_of_atRest unasked rest]
    exact apart.remember _

/-- The answers for the other classes are the same on both machines, if on the second one the class
is not asked for any more. -/
theorem answers (apart : Apart c m n) {ds : List Deed} (rest : RestAlong call m ds) :
    (answers call m ds).filter (·.1 != c) =
      Act.answers call n (ds.filter fun d => !d.looksAt c) := by
  induction ds generalizing m n with
  | nil => rfl
  | cons d ds ih =>
    obtain ⟨now, later⟩ := rest
    cases d with
    | change d new =>
      rw [answers_change, List.filter_cons_of_pos (by rfl), answers_change]
      exact ih (apart.blind (Blind.changeInvariant call d new)) later
    | look d =>
      rw [answers_look, List.filter_append, filter_answerOf]
      by_cases same : d = c
      · subst same
        rw [if_pos rfl, List.nil_append, List.filter_cons_of_neg (by simp [Deed.looksAt])]
        exact ih (apart.findInvariant_left (now d rfl) call) later
      · obtain ⟨alike, after⟩ := apart.findInvariant same (now d rfl) call
        rw [if_neg same, List.filter_cons_of_pos (by simp [Deed.looksAt, same]), answers_look,
          alike, ih after later]

end Apart

/-- Deeds on classes at rest are a run that searches. -/
theorem looks_deeds {ds : List Deed} (rest : RestAlong call m ds) :
    Looks (answers call m ds) m (afterDeeds call m ds) := by
  induction ds generalizing m with
  | nil => exact .other rfl
  | cons d ds ih =>
    obtain ⟨now, later⟩ := rest
    refine .append ?_ (ih later)
    cases d with
    | change c new => exact Looks.change (.other rfl) call c new
    | look c =>
      change Looks (answerOf c (findInvariant call c m).1) m (findInvariant call c m).2
      rcases m.knows_or_unasked c with ⟨a, known⟩ | unasked
      · rw [findInvariant_of_knows known]
        exact .known known
      · rw [findInvariant_of_atRest unasked (now c rfl)]
        exact .search (w := []) unasked (currentInvariant?_of_atRest (now c rfl) call) (.other rfl)
          nofun

/-! ## Runs of any shape -/

/-- A class with an invariant, and one that inherits it. -/
def family : Machine :=
  { threeFaults with
    classes := #[⟨"Parent", "Parent", none, [("invariant", .routine .accountInvariant)], []⟩,
      ⟨"Child", "Child", some (.made 0), [], []⟩] }

/-- The child is asked for its invariant, then the parent, whose invariant is deleted before and set
anew after, and then both again. -/
def familyDeeds : List Deed :=
  [.look (.made 1), .change (.made 0) none, .look (.made 0),
    .change (.made 0) (some (.routine .queueInvariant)), .look (.made 0), .look (.made 1)]

/-- A class `B` with an invariant, and a class `A` whose invariant is an object of a class `D`. When
that object is reached through a class, the invariant of `B` is deleted. -/
def meddling : Machine :=
  { threeFaults with
    heap := #[.scope [("B", .cls (.made 0)), ("found", .routine .accountInvariant)] none,
      .closure "__get__" ["self", "obj", "cls"]
        [.deleteField (.name "B") "invariant", .give (.name "found")] 0,
      .object (.made 1) []]
    classes := #[⟨"B", "B", none, [("invariant", .routine .queueInvariant)], []⟩,
      ⟨"D", "D", none, [(special "get", .ref 1)], []⟩,
      ⟨"A", "A", none, [("invariant", .ref 2)], []⟩] }

/-- A class `A` whose invariant is an object of a class `D`. When that object is reached through a
class, the invariant of the class is deleted and then searched for, and another one is given. -/
def recurring : Machine :=
  { threeFaults with
    heap := #[.scope [("find", .routine .findInvariant), ("found", .routine .accountInvariant)] none,
      .closure "__get__" ["self", "obj", "cls"]
        [.deleteField (.name "cls") "invariant", .emit (.call (.name "find") [.name "cls"] []),
          .give (.name "found")] 0,
      .object (.made 0) []]
    classes := #[⟨"D", "D", none, [(special "get", .ref 1)], []⟩,
      ⟨"A", "A", none, [("invariant", .ref 2)], []⟩] }

end Act

end Covenant
