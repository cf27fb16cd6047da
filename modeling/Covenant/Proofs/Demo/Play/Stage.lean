import Covenant.Proofs.Demo.Bank.Deal
import Covenant.Proofs.Demo.Bank.Profiles
import Covenant.Proofs.Demo.Queue.Vacant

/-!
# What the demos come to

A sequence of moves opens accounts, makes queues and operates both. What it comes to is calculated
on a stage, which has what the accounts hold and what the fields of the queues are. The objects are
named by their position, so that it does not matter where they lie (`Stage.play`).

In a process that checks, a move is a violation or comes to what it comes to in a process that does
not, if no balance is negative (`Stage.play_tracks`). There no move is a violation, be the stage
what it may (`Stage.play_blameless`).
-/

namespace Covenant

open Act

/-- What can be put into a queue: a value, or an account or a queue of the stage. -/
inductive Item where
  | value (v : Value)
  | account (i : Nat)
  | queue (i : Nat)

/-- What can be done with the accounts and the queues of a stage. -/
inductive Move where
  | deal (d : Deal)
  | newQueue (capacity : Int)
  | enqueue (i : Nat) (x : Item)
  | dequeue (i : Nat)
  | length (i : Nat)

/-- Whether a move makes an object. -/
def Move.constructs : Move → Bool
  | .deal (.opening _) | .newQueue _ => true
  | _ => false

/-- The fault of a position at which there is no object. -/
def noObject (i : Nat) : Fault :=
  .fresh (.known (.fault .keyError)) [.int i] []

/-- What stands at a position. -/
def find {α : Type} (objects : List α) (i : Nat) : Except Fault α :=
  match objects[i]? with
  | some a => .ok a
  | none => .error (noObject i)

/-! ## Accounts -/

/-- What an operation of the account at a position comes to. -/
def Holding.operate (held : List Holding) (i : Nat) (calculation : Holding → Except Fault Holding) :
    Except Fault (List Holding × Item) := do
  let h ← find held i
  return (held.set i (← calculation h), .value .null)

/-- What a deal comes to on what the accounts hold. A batch keeps what it took before it stopped. -/
def Deal.settle (p : Profile) (held : List Holding) : Deal → List Holding × Except Fault Item
  | opening number => caught held do
    let h ← Holding.opening p number
    return (held ++ [h], .account held.length)
  | deposit i amount => caught held (Holding.operate held i (·.deposit p amount))
  | withdraw i amount => caught held (Holding.operate held i (·.withdraw p amount))
  | close i => caught held (Holding.operate held i (·.close p))
  | transfer i j amount => caught held do
    let sender ← find held i
    let recipient ← find held j
    Holding.transfer p (i = j) sender recipient amount
    return ((held.modify i (·.pay amount)).modify j (·.receive amount), .value .null)
  | depositBatch i amounts =>
    match held[i]? with
    | some h => (held.set i (h.batch p amounts).1, (h.batch p amounts).2.map (.value <| .int ·))
    | none => (held, .error (noObject i))

/-! ## Queues -/

/-- What the fields of a queue hold. -/
structure Lane where
  capacity : Int
  slots : List Item
  /-- The slot that is read next. -/
  head : Nat
  /-- The slot that is written next. -/
  tail : Nat
  count : Int

namespace Lane

/-- A new queue. -/
def fresh (capacity : Int) : Lane :=
  ⟨capacity, List.replicate capacity.toNat (.value .null), 0, 0, 0⟩

/-- The position after another one. -/
def next (q : Lane) (i : Nat) : Nat :=
  (i + 1) % q.capacity.toNat

/-- Puts an item into the slot at the tail. -/
def put (q : Lane) (x : Item) : Lane :=
  { q with slots := q.slots.set q.tail x, tail := q.next q.tail, count := q.count + 1 }

/-- Empties the slot at the head. -/
def take (q : Lane) : Lane :=
  { q with slots := q.slots.set q.head (.value .null), head := q.next q.head, count := q.count - 1 }

/-- What making a queue comes to. -/
def opening (p : Profile) (capacity : Int) : Except Fault Lane := do
  demand p (0 < capacity) noCapacity
  if isStorable capacity then .ok (fresh capacity) else .error (tooManyItems capacity)

/-- What putting an item in comes to. -/
def enqueue (p : Profile) (q : Lane) (x : Item) : Except Fault Lane := do
  demand p (q.count < q.capacity) Ring.full
  if q.tail < q.slots.length then .ok (q.put x) else .error Ring.unwritten

/-- What taking an item out comes to. -/
def dequeue (p : Profile) (q : Lane) : Except Fault (Item × Lane) := do
  demand p (0 < q.count) Ring.empty
  match q.slots[q.head]? with
  | some x => .ok (x, q.take)
  | none => .error Ring.unread

end Lane

/-! ## Stages -/

/-- What the accounts hold, and what the fields of the queues are. -/
structure Stage where
  accounts : List Holding
  queues : List Lane

namespace Stage

/-- Demands that what is to be put into a queue is there. -/
def demandItem (st : Stage) : Item → Except Fault Unit
  | .value _ => .ok ()
  | .account i => do let _ ← find st.accounts i
  | .queue i => do let _ ← find st.queues i

/-- What a move comes to. -/
def play (p : Profile) (st : Stage) : Move → Stage × Except Fault Item
  | .deal d => ({ st with accounts := (d.settle p st.accounts).1 }, (d.settle p st.accounts).2)
  | .newQueue capacity => caught st do
    let q ← Lane.opening p capacity
    return ({ st with queues := st.queues ++ [q] }, .queue st.queues.length)
  | .enqueue i x => caught st do
    let q ← find st.queues i
    st.demandItem x
    return ({ st with queues := st.queues.set i (← q.enqueue p x) }, .value .null)
  | .dequeue i => caught st do
    let q ← find st.queues i
    let (x, after) ← q.dequeue p
    return ({ st with queues := st.queues.set i after }, x)
  | .length i => caught st do
    let q ← find st.queues i
    return (st, .value (.int (← lengthOf q.count)))

end Stage

/-! ## Under the two profiles -/

variable {α : Type} {p : Profile}

theorem isFailure_noObject (i : Nat) : (noObject i).IsFailure :=
  ⟨_, rfl, rfl⟩

theorem blameless_find (objects : List α) (i : Nat) : Blameless (find objects i) := by
  unfold find
  split
  · exact blameless_ok _
  · exact blameless_error (isFailure_noObject i)

theorem find_eq_ok_iff {objects : List α} {i : Nat} {a : α} :
    find objects i = .ok a ↔ objects[i]? = some a := by
  unfold find
  split
  · next b at_i => rw [at_i]; simp
  · next at_i => rw [at_i]; simp

namespace Holding

variable {held : List Holding} {i : Nat} {f g : Holding → Except Fault Holding}

/-- An operation of one account follows if it does on what that account holds. -/
theorem operate_follows (follows : ∀ h ∈ held, Follows (f h) (g h)) :
    Follows (operate held i f) (operate held i g) := by
  refine (Follows.refl _).bind fun h found => ?_
  exact (follows h (List.mem_of_getElem? (find_eq_ok_iff.1 found))).bind fun _ _ => .refl _

theorem operate_blameless (blameless : ∀ h, Blameless (f h)) : Blameless (operate held i f) :=
  (blameless_find held i).bind fun h => (blameless h).bind fun _ => blameless_ok _

end Holding

namespace Deal

variable {held : List Holding}

/-- In a process that checks a deal is a violation or comes to the same. -/
theorem settle_tracks (notNegative : ∀ h ∈ held, 0 ≤ h.balance) (d : Deal) :
    Tracks (d.settle .checked held) (d.settle .unchecked held) := by
  cases d with
  | opening number =>
    exact .caught held ((Holding.opening_follows number).bind fun _ _ => .refl _)
  | deposit i amount =>
    exact .caught held (Holding.operate_follows fun h _ => h.deposit_follows amount)
  | withdraw i amount =>
    exact .caught held (Holding.operate_follows fun h mem =>
      Holding.withdraw_follows (notNegative h mem) amount)
  | close i => exact .caught held (Holding.operate_follows fun h _ => h.close_follows)
  | transfer i j amount =>
    refine .caught held ((Follows.refl _).bind fun sender found => ?_)
    refine (Follows.refl _).bind fun recipient _ => ?_
    have mem := List.mem_of_getElem? (find_eq_ok_iff.1 found)
    exact (Holding.transfer_follows (notNegative sender mem) _ recipient amount).bind
      fun _ _ => .refl _
  | depositBatch i amounts =>
    cases at_i : held[i]? with
    | none =>
      simp only [settle, at_i]
      exact .inl rfl
    | some h =>
      simp only [settle, at_i]
      rcases h.batch_tracks amounts with same | ⟨f, failed, violation⟩
      · rw [same]
        exact .inl rfl
      · rw [failed]
        exact .inr ⟨f, rfl, violation⟩

/-- In a process that does not check no deal is a violation. -/
theorem settle_blameless (held : List Holding) (d : Deal) :
    Blameless (d.settle .unchecked held).2 := by
  cases d with
  | opening number =>
    exact .caught held ((Holding.opening_blameless number).bind fun _ => blameless_ok _)
  | deposit i amount =>
    exact .caught held (Holding.operate_blameless fun h => h.deposit_blameless amount)
  | withdraw i amount =>
    exact .caught held (Holding.operate_blameless fun h => h.withdraw_blameless amount)
  | close i => exact .caught held (Holding.operate_blameless fun h => h.close_blameless)
  | transfer i j amount =>
    refine .caught held ((blameless_find held i).bind fun sender => ?_)
    refine (blameless_find held j).bind fun recipient => ?_
    exact (Holding.transfer_blameless _ sender recipient amount).bind fun _ => blameless_ok _
  | depositBatch i amounts =>
    cases at_i : held[i]? with
    | none =>
      simp only [settle, at_i]
      exact blameless_error (isFailure_noObject i)
    | some h =>
      simp only [settle, at_i]
      intro f failed
      cases ended : (h.batch .unchecked amounts).2 with
      | ok total => rw [ended] at failed; cases failed
      | error g => rw [ended] at failed; cases failed; exact h.batch_blameless amounts _ ended

end Deal

namespace Lane

theorem isFailure_tooManyItems (count : Int) : (tooManyItems count).IsFailure := by
  unfold tooManyItems
  split
  · exact ⟨_, rfl, rfl⟩
  · exact ⟨_, rfl, rfl⟩

theorem opening_follows (capacity : Int) :
    Follows (opening .checked capacity) (opening .unchecked capacity) :=
  .demand (isViolation_violation _ _) fun _ => .refl _

theorem enqueue_follows (q : Lane) (x : Item) :
    Follows (q.enqueue .checked x) (q.enqueue .unchecked x) :=
  .demand (isViolation_violation _ _) fun _ => .refl _

theorem dequeue_follows (q : Lane) : Follows (q.dequeue .checked) (q.dequeue .unchecked) :=
  .demand (isViolation_violation _ _) fun _ => .refl _

theorem opening_blameless (capacity : Int) : Blameless (opening .unchecked capacity) := by
  refine (blameless_demand _ _).bind fun _ => ?_
  split
  · exact blameless_ok _
  · exact blameless_error (isFailure_tooManyItems capacity)

theorem enqueue_blameless (q : Lane) (x : Item) : Blameless (q.enqueue .unchecked x) := by
  refine (blameless_demand _ _).bind fun _ => ?_
  split
  · exact blameless_ok _
  · exact blameless_error ⟨_, rfl, rfl⟩

theorem dequeue_blameless (q : Lane) : Blameless (q.dequeue .unchecked) := by
  refine (blameless_demand _ _).bind fun _ => ?_
  split
  · exact blameless_ok _
  · exact blameless_error ⟨_, rfl, rfl⟩

theorem lengthOf_blameless (count : Int) : Blameless (lengthOf count) := by
  unfold lengthOf
  split
  · exact blameless_error ⟨_, rfl, rfl⟩
  split
  · exact blameless_error ⟨_, rfl, rfl⟩
  · exact blameless_ok _

end Lane

namespace Stage

/-- In a process that checks a move is a violation or comes to the same. -/
theorem play_tracks {st : Stage} (notNegative : ∀ h ∈ st.accounts, 0 ≤ h.balance) (mv : Move) :
    Tracks (st.play .checked mv) (st.play .unchecked mv) := by
  cases mv with
  | deal d =>
    rcases d.settle_tracks notNegative with same | violation
    · left
      simp only [play, same]
    · exact .inr violation
  | newQueue capacity =>
    exact .caught st ((Lane.opening_follows capacity).bind fun _ _ => .refl _)
  | enqueue i x =>
    refine .caught st ((Follows.refl _).bind fun q _ => (Follows.refl _).bind fun _ _ => ?_)
    exact (q.enqueue_follows x).bind fun _ _ => .refl _
  | dequeue i =>
    refine .caught st ((Follows.refl _).bind fun q _ => ?_)
    exact q.dequeue_follows.bind fun _ _ => .refl _
  | length i => exact .inl rfl

/-- The stage has what is to be put into a queue, or it fails. -/
theorem demandItem_blameless (st : Stage) (x : Item) : Blameless (st.demandItem x) := by
  cases x with
  | value v => exact blameless_ok ()
  | account i => exact (blameless_find _ i).bind fun _ => blameless_ok _
  | queue i => exact (blameless_find _ i).bind fun _ => blameless_ok _

/-- In a process that does not check no move is a violation. -/
theorem play_blameless (st : Stage) (mv : Move) : Blameless (st.play .unchecked mv).2 := by
  cases mv with
  | deal d => exact d.settle_blameless st.accounts
  | newQueue capacity =>
    exact .caught st ((Lane.opening_blameless capacity).bind fun _ => blameless_ok _)
  | enqueue i x =>
    refine .caught st ((blameless_find _ i).bind fun q => ?_)
    refine (st.demandItem_blameless x).bind fun _ => ?_
    exact (q.enqueue_blameless x).bind fun _ => blameless_ok _
  | dequeue i =>
    refine .caught st ((blameless_find _ i).bind fun q => ?_)
    exact q.dequeue_blameless.bind fun _ => blameless_ok _
  | length i =>
    refine .caught st ((blameless_find _ i).bind fun q => ?_)
    exact (Lane.lengthOf_blameless q.count).bind fun _ => blameless_ok _

end Stage

end Covenant
