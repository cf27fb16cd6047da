import Covenant.Proofs.Demo.Play.Stage
import Covenant.Proofs.Demo.Queue.Fifo

/-!
# Demos on a machine

A scene is a machine with the accounts and the queues that have been made on it. Moves are made with
them one after the other, and their faults are caught (`Scene.after`).

A scene shows a stage if the accounts on its machine hold, and the fields of its queues are, what
the stage says (`Scene.Shows`). What is written to the cells of some of these objects leaves the
others as they are: an account is no queue, a queue is no list of slots, and no two queues have the
same list. A move has been played if it ended as it does on the stage and the scene shows the stage
after it (`Scene.Played`); where the run of the move agrees with a calculation, it is enough to say
what the scene shows if that succeeds (`Played.of_agrees`).
-/

namespace Covenant

open Act

/-! ## Queues on the machine -/

/-- The list with the slots of a queue. -/
def Machine.slotsOf (m : Machine) (object : Ref) : Ref :=
  match m.cell object with
  | .object _ fields =>
    match fields.get? "items" with
    | some (.ref items) => items
    | _ => 0
  | _ => 0

namespace Lane

/-- The fields of a queue whose slots are in a given list. -/
def fields (q : Lane) (items : Ref) : Fields :=
  [("capacity", .int q.capacity), ("items", .ref items), ("head", .int q.head),
    ("tail", .int q.tail), ("count", .int q.count)]

/-- A queue on the machine: an object with these fields, and the list of its slots. Its items are
the values that they name. -/
structure On (q : Lane) (named : Item → Option Value) (m : Machine) (object : Ref) : Prop where
  fields : m.cell object = .object (.known .queue) (q.fields (m.slotsOf object))
  slots : ∃ values, m.cell (m.slotsOf object) = .list values ∧
    q.slots.map named = values.map some
  stored : m.slotsOf object < m.heap.size

/-- What is true of the fields of a queue that a process under a profile has made. From a capacity
that is not positive it is made if nothing is checked, and stays as it is. -/
structure Regular (p : Profile) (q : Lane) : Prop where
  storable : isStorable q.capacity = true
  slots : q.slots.length = q.capacity.toNat
  head : 0 < q.capacity → q.head < q.capacity.toNat
  tail : 0 < q.capacity → q.tail < q.capacity.toNat
  vacant : q.capacity ≤ 0 → q = fresh q.capacity
  fits : p = .checked → 0 < q.capacity ∧ q.count ≤ q.capacity

variable {p : Profile} {q : Lane} {m n : Machine} {object items : Ref}
  {named renamed : Item → Option Value} {written : List Ref}

/-- The fields of a queue say where its slots are. -/
theorem slotsOf_eq (cell : m.cell object = .object (.known .queue) (q.fields items)) :
    m.slotsOf object = items := by
  unfold Machine.slotsOf
  rw [cell]
  rfl

/-- What is written to other cells leaves a queue as it is, also if more objects have names. -/
theorem On.grows (on : q.On named m object) (grew : m.Grows written n) (kept : object ∉ written)
    (slotsKept : m.slotsOf object ∉ written)
    (more : ∀ x v, named x = some v → renamed x = some v) :
    q.On renamed n object ∧ n.slotsOf object = m.slotsOf object := by
  obtain ⟨fields, ⟨values, cell, items⟩, stored⟩ := on
  have fields' := grew.cell_eq fields nofun kept
  have same := slotsOf_eq fields'
  refine ⟨⟨?_, ⟨values, ?_, ?_⟩, ?_⟩, same⟩
  · rw [same]
    exact fields'
  · rw [same, grew.cell _ stored slotsKept]
    exact cell
  · refine List.ext_getElem? fun i => ?_
    have at_i := congrArg (·[i]?) items
    simp only [List.getElem?_map] at at_i ⊢
    cases found : q.slots[i]? with
    | none => rw [found] at at_i; exact at_i
    | some x =>
      rw [found] at at_i
      cases value : values[i]? with
      | none => rw [value] at at_i; cases at_i
      | some v =>
        rw [value] at at_i
        exact congrArg some (more x v (Option.some.inj at_i))
  · rw [same]
    exact Nat.lt_of_lt_of_le stored grew.size

end Lane

/-! ## Scenes -/

/-- A machine and the accounts and queues that have been made on it. -/
structure Scene where
  bank : Bank
  queues : List Ref

namespace Scene

/-- The machine of a scene. -/
abbrev machine (s : Scene) : Machine :=
  s.bank.machine

/-- The same objects on another machine. -/
def moved (s : Scene) (n : Machine) : Scene :=
  { s with bank := { s.bank with machine := n } }

/-- The value that an item names, if there is one. -/
def value? (s : Scene) : Item → Option Value
  | .value v => some v
  | .account i => s.bank.accounts[i]?.map .ref
  | .queue i => s.queues[i]?.map .ref

/-- The value that is to be put into a queue. -/
def value (s : Scene) : Item → Act Value
  | .value v => return v
  | .account i => s.bank.account i
  | .queue i =>
    match s.queues[i]? with
    | some r => return .ref r
    | none => failWith .keyError [.int i]

/-- Makes a move. -/
def perform (s : Scene) : Move → Act Value
  | .deal d => s.bank.perform d
  | .newQueue capacity => Act.call (.cls (.known .queue)) [.int capacity] []
  | .enqueue i x => do
    let queue ← s.value (.queue i)
    (QueueCall.enqueue (← s.value x)).perform queue
  | .dequeue i => do QueueCall.dequeue.perform (← s.value (.queue i))
  | .length i => do QueueCall.length.perform (← s.value (.queue i))

/-- How a move ends. -/
def outcome (s : Scene) (mv : Move) : Outcome Value :=
  (s.perform mv s.machine).1

/-- The scene after a move. A fault of the move is caught. -/
def after (s : Scene) (mv : Move) : Scene where
  bank :=
    match mv with
    | .deal d => s.bank.after d
    | _ => { s.bank with machine := (s.perform mv s.machine).2 }
  queues :=
    match mv, s.outcome mv with
    | .newQueue _, .done (.ref r) => s.queues ++ [r]
    | _, _ => s.queues

/-- The scene after some moves. -/
def afterAll (s : Scene) (moves : List Move) : Scene :=
  moves.foldl after s

/-- A scene on which nothing has been made yet. -/
def empty (m : Machine) : Scene :=
  ⟨⟨m, []⟩, []⟩

/-- A move ends with an item or with a fault. -/
def Ended (s : Scene) (mv : Move) : Except Fault Item → Prop
  | .ok x => ∃ v, s.outcome mv = .done v ∧ (s.after mv).value? x = some v
  | .error f => ∃ e, s.outcome mv = .raised e ∧ (s.after mv).machine.cell e = .fault f

/-- A scene shows a stage: its accounts hold, and the fields of its queues are, what the stage
says. -/
structure Shows (p : Profile) (s : Scene) (st : Stage) : Prop where
  orderly : s.bank.Orderly p
  accounts : s.bank.accounts.map s.machine.holding = st.accounts
  queues : ∀ i : Nat, Option.Rel (fun object q => Lane.On q s.value? s.machine object ∧ q.Regular p)
    s.queues[i]? st.queues[i]?
  apart : (s.queues.map s.machine.slotsOf).Nodup

/-- A move has been played: it ended as on the stage, the scene shows the stage after it, and
nothing was recorded by a process that does not check. -/
structure Played (p : Profile) (s : Scene) (st : Stage) (mv : Move) : Prop where
  ended : s.Ended mv (st.play p mv).2
  shows : (s.after mv).Shows p (st.play p mv).1
  quiet : p = .unchecked → (s.after mv).machine.trace = s.machine.trace

variable {p : Profile} {s : Scene} {st : Stage} {m n : Machine} {mv : Move} {i : Nat}
  {object r : Ref} {written : List Ref}

/-! ### What names mean -/

theorem value_queue_of_some (at_i : s.queues[i]? = some object) (m : Machine) :
    s.value (.queue i) m = (.done (.ref object), m) := by
  simp only [value, at_i]
  rfl

theorem value_queue_of_none (at_i : s.queues[i]? = none) (free : m.handling = none) :
    s.value (.queue i) m = (.raised m.heap.size, m.push (.fault (noObject i))) := by
  simp only [value, at_i]
  exact failWith_of_handling free .keyError [.int i]

/-- What stands at a position of a list stands there in all that start with the list. -/
theorem getElem?_of_more {l k : List Ref} (more : l <+: k) (at_i : l[i]? = some r) :
    k[i]? = some r := by
  obtain ⟨lt, rfl⟩ := List.getElem?_eq_some_iff.1 at_i
  exact List.prefix_iff_getElem?.1 more i lt

/-- An item names the same value where more objects have been made. -/
theorem value?_mono {t : Scene} (accounts : s.bank.accounts <+: t.bank.accounts)
    (queues : s.queues <+: t.queues) (x : Item) (v : Value) (named : s.value? x = some v) :
    t.value? x = some v := by
  cases x with
  | value w => exact named
  | account i =>
    obtain ⟨r, at_i, rfl⟩ := Option.map_eq_some_iff.1 named
    exact congrArg (Option.map Value.ref) (getElem?_of_more accounts at_i)
  | queue i =>
    obtain ⟨r, at_i, rfl⟩ := Option.map_eq_some_iff.1 named
    exact congrArg (Option.map Value.ref) (getElem?_of_more queues at_i)

/-! ### The scene after a move -/

/-- The machine after a move is the one that the move leaves. -/
theorem after_machine {o : Outcome Value} (ran : s.perform mv s.machine = (o, n)) :
    (s.after mv).machine = n := by
  have second := congrArg Prod.snd ran
  cases mv <;> exact second

/-- A move that makes no object moves the scene to another machine. -/
theorem after_eq_moved {o : Outcome Value} (ran : s.perform mv s.machine = (o, n))
    (accounts : (s.after mv).bank.accounts = s.bank.accounts)
    (queues : (s.after mv).queues = s.queues) : s.after mv = s.moved n := by
  have machine := after_machine ran
  calc s.after mv = ⟨⟨(s.after mv).machine, (s.after mv).bank.accounts⟩, (s.after mv).queues⟩ := rfl
    _ = s.moved n := by rw [accounts, queues, machine]; rfl

/-- Operations make no object. -/
theorem after_of_operation {o : Outcome Value} (operates : mv.constructs = false)
    (ran : s.perform mv s.machine = (o, n)) : s.after mv = s.moved n := by
  cases mv with
  | deal d =>
    cases d with
    | opening number => cases operates
    | _ => exact after_eq_moved ran rfl rfl
  | newQueue capacity => cases operates
  | _ => exact after_eq_moved ran rfl rfl

/-- A move that fails makes no object. -/
theorem after_of_raised {e : Ref} (ran : s.perform mv s.machine = (.raised e, n)) :
    s.after mv = s.moved n := by
  have first : s.outcome mv = .raised e := congrArg Prod.fst ran
  cases operates : mv.constructs with
  | false => exact after_of_operation operates ran
  | true =>
    cases mv with
    | newQueue capacity =>
      exact after_eq_moved ran rfl (by simp only [after, first])
    | deal d =>
      cases d with
      | opening number =>
        have same : s.bank.outcome (.opening number) = .raised e := first
        exact after_eq_moved ran (by simp only [after, Bank.after, same]) rfl
      | _ => cases operates
    | _ => cases operates

/-! ### What stays as it is -/

/-- The lists of the slots are the same if they are for each queue. -/
theorem map_slotsOf (same : ∀ {i : Nat} {object : Ref}, s.queues[i]? = some object →
    n.slotsOf object = s.machine.slotsOf object) :
    s.queues.map n.slotsOf = s.queues.map s.machine.slotsOf := by
  refine List.map_congr_left fun object mem => ?_
  obtain ⟨i, at_i⟩ := List.mem_iff_getElem?.1 mem
  exact same at_i

namespace Shows

/-- What stands in the scene at the position of a queue is one on the machine. -/
theorem queue_at (shows : s.Shows p st) (at_i : s.queues[i]? = some object) :
    ∃ q, st.queues[i]? = some q ∧ q.On s.value? s.machine object ∧ q.Regular p := by
  have rel := shows.queues i
  rw [at_i] at rel
  generalize found : st.queues[i]? = o at rel
  cases rel with
  | some both => exact ⟨_, rfl, both⟩

/-- Where the scene has no queue the stage has none. -/
theorem queue_none (shows : s.Shows p st) (at_i : s.queues[i]? = none) : st.queues[i]? = none := by
  have rel := shows.queues i
  rw [at_i] at rel
  generalize st.queues[i]? = o at rel ⊢
  cases rel
  rfl

/-- A queue is none of the accounts, and neither is the list of its slots. -/
theorem not_account (shows : s.Shows p st) (at_i : s.queues[i]? = some object) :
    object ∉ s.bank.accounts ∧ s.machine.slotsOf object ∉ s.bank.accounts := by
  obtain ⟨q, -, on, -⟩ := shows.queue_at at_i
  constructor
  · intro mem
    cases on.fields.symm.trans (shows.orderly.held _ mem)
  · intro mem
    obtain ⟨values, cell, -⟩ := on.slots
    cases cell.symm.trans (shows.orderly.held _ mem)

/-- A queue whose cells were not written to is what it was, also on a scene with more objects. -/
theorem queue_kept {t : Scene} (shows : s.Shows p st) (at_i : s.queues[i]? = some object)
    (grew : s.machine.Grows written n)
    (kept : object ∉ written ∧ s.machine.slotsOf object ∉ written)
    (accounts : s.bank.accounts <+: t.bank.accounts) (queues : s.queues <+: t.queues) :
    ∃ q, st.queues[i]? = some q ∧ (q.On t.value? n object ∧ q.Regular p) ∧
      n.slotsOf object = s.machine.slotsOf object := by
  obtain ⟨q, there, on, regular⟩ := shows.queue_at at_i
  obtain ⟨still, same⟩ := on.grows grew kept.1 kept.2 (value?_mono accounts queues)
  exact ⟨q, there, ⟨still, regular⟩, same⟩

/-- The accounts are as they were where only other cells were written to. -/
theorem accounts_kept (shows : s.Shows p st) (grew : s.machine.Grows written n)
    (kept : ∀ r ∈ s.bank.accounts, r ∉ written) :
    (Bank.mk n s.bank.accounts).Orderly p ∧ s.bank.accounts.map n.holding = st.accounts := by
  have same : ∀ r ∈ s.bank.accounts, n.holding r = s.machine.holding r := by
    intro r mem
    exact ((shows.orderly.held r mem).grows grew (kept r mem)).holding
  refine ⟨⟨shows.orderly.ready.grows grew, shows.orderly.apart, ?_, ?_⟩, ?_⟩
  · intro r mem
    dsimp only
    rw [same r mem]
    exact (shows.orderly.held r mem).grows grew (kept r mem)
  · intro checked r mem
    dsimp only
    rw [same r mem]
    exact shows.orderly.sound checked r mem
  · rw [← shows.accounts]
    exact List.map_congr_left same

/-- The queues are as they were where only accounts were written to, also if there are more
accounts. -/
theorem dealt {accounts : List Ref} {held : List Holding} (shows : s.Shows p st)
    (grew : s.machine.Grows s.bank.accounts n) (orderly : (Bank.mk n accounts).Orderly p)
    (holdings : accounts.map n.holding = held) (more : s.bank.accounts <+: accounts) :
    (Scene.mk ⟨n, accounts⟩ s.queues).Shows p { st with accounts := held } := by
  have kept {j : Nat} {other : Ref} (at_j : s.queues[j]? = some other) :=
    shows.queue_kept (t := ⟨⟨n, accounts⟩, s.queues⟩) at_j grew (shows.not_account at_j) more
      (List.prefix_refl _)
  refine ⟨orderly, holdings, fun j => ?_, ?_⟩
  · change Option.Rel _ s.queues[j]? st.queues[j]?
    cases at_j : s.queues[j]? with
    | none =>
      rw [shows.queue_none at_j]
      exact .none
    | some other =>
      obtain ⟨q, there, still, -⟩ := kept at_j
      rw [there]
      exact .some still
  · change (s.queues.map n.slotsOf).Nodup
    rw [map_slotsOf fun at_j => have ⟨_, _, _, same⟩ := kept at_j; same]
    exact shows.apart

/-- What writes to no cell leaves all as it is. -/
theorem kept (shows : s.Shows p st) (grew : s.machine.Grows [] n) : (s.moved n).Shows p st := by
  obtain ⟨orderly, holdings⟩ := shows.accounts_kept grew fun _ _ => List.not_mem_nil
  exact shows.dealt grew.weaken orderly holdings (List.prefix_refl _)

end Shows

/-! ### Playing -/

/-- What has written to cells and done nothing else has recorded nothing if the process does not
check. -/
theorem Played.of_eq {o : Outcome Value} (shows : s.Shows p st)
    (ran : s.perform mv s.machine = (o, n)) (grew : s.machine.Grows written n)
    (ended : s.Ended mv (st.play p mv).2) (after : (s.after mv).Shows p (st.play p mv).1) :
    Played p s st mv := by
  refine ⟨ended, after, ?_⟩
  rintro rfl
  rw [after_machine ran]
  exact grew.quiet shows.orderly.ready.active

/-- A move that agrees with a calculation has been played if the scene after it shows what the
calculation gives. -/
theorem Played.of_agrees {calculation : Except Fault (Stage × Item)} (shows : s.Shows p st)
    (plays : st.play p mv = caught st calculation)
    (agrees : Agrees s.machine written (s.perform mv s.machine) calculation fun r v _ =>
      (s.after mv).value? r.2 = some v ∧ (s.after mv).Shows p r.1) : Played p s st mv := by
  cases calculation with
  | ok r =>
    obtain ⟨v, n, ran, grew, named, after⟩ := agrees
    refine .of_eq shows ran grew ?_ ?_
    · rw [plays]
      exact ⟨v, congrArg Prod.fst ran, named⟩
    · rw [plays]
      exact after
  | error f =>
    obtain ⟨e, n, ran, grew, cell⟩ := agrees
    refine .of_eq shows ran grew ?_ ?_
    · rw [plays]
      exact ⟨e, congrArg Prod.fst ran, after_machine ran ▸ cell⟩
    · rw [plays, after_of_raised ran]
      exact shows.kept grew

/-- An operation that agrees with a calculation has been played if the same objects then show what
the calculation gives. -/
theorem Played.of_operation {calculation : Except Fault (Stage × Item)} (written : List Ref)
    (shows : s.Shows p st) (operates : mv.constructs = false)
    (plays : st.play p mv = caught st calculation)
    (agrees : Agrees s.machine written (s.perform mv s.machine) calculation fun r v n =>
      s.value? r.2 = some v ∧ (s.moved n).Shows p r.1) : Played p s st mv := by
  refine .of_agrees shows plays (agrees.ran.imp ?_)
  rintro r v n - ⟨ran, named, after⟩
  rw [after_of_operation operates ran]
  exact ⟨named, after⟩

end Scene

end Covenant
