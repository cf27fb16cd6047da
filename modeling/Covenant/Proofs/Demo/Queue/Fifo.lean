import Covenant.Proofs.Demo.Queue.Start
import Covenant.Proofs.Session.Launch

/-!
# Queues are first in, first out

Seen through its methods a queue is a list with a greatest length (`QueueCall.onList`): items are
put in at the end and taken out at the front, and a call that cannot be answered is refused and
changes nothing. The relation that carries this is that the fields of the queue are those of a ring
that holds the list (`HoldsOn`). One call keeps it (`perform_agrees`), so after every sequence of
calls on a new queue it holds of the list that these calls lead to (`holdsOn_after`), and the next
call is answered as on that list (`queue_is_bounded_list`).
-/

namespace Covenant

/-- What is called on a queue. -/
inductive QueueCall where
  | enqueue (x : Value)
  | dequeue
  | length

namespace QueueCall

/-- Makes a call on a queue. -/
def perform (queue : Value) : QueueCall → Act Value
  | enqueue x => Session.operate queue "enqueue" [x] []
  | dequeue => Session.operate queue "dequeue" [] []
  | length => do return .int (← Act.length Act.call queue)

/-- What a call comes to on a list that has room for `capacity` items: a result and the list after
it, or the fault of a call that is refused. -/
def onList (capacity : Nat) (contents : List Value) :
    QueueCall → Except Fault (Value × List Value)
  | enqueue x =>
    if contents.length < capacity then .ok (.null, contents ++ [x]) else .error Ring.full
  | dequeue =>
    match contents with
    | [] => .error Ring.empty
    | x :: rest => .ok (x, rest)
  | length => .ok (.int contents.length, contents)

/-- The list after a call; a call that is refused leaves it as it is. -/
def listAfter (capacity : Nat) (contents : List Value) (c : QueueCall) : List Value :=
  match c.onList capacity contents with
  | .ok (_, after) => after
  | .error _ => contents

/-- The list after some calls on an empty one. -/
def listAfterAll (capacity : Nat) (calls : List QueueCall) : List Value :=
  calls.foldl (listAfter capacity) []

/-- The machine after some calls whose faults are caught. -/
def machineAfterAll (queue : Value) (calls : List QueueCall) (m : Machine) : Machine :=
  calls.foldl (fun m c => (c.perform queue m).2) m

end QueueCall

namespace Act

open QueueCall

variable {m n : Machine} {object items : Ref} {contents : List Value} {capacity : Nat}

/-- The fields of a queue are those of a ring that holds a list. -/
structure HoldsOn (capacity : Nat) (contents : List Value) (m : Machine) (object items : Ref) :
    Prop where
  ready : m.Ready .checked
  ring : ∃ q : Ring, q.On m object items ∧ q.Holds contents ∧ q.capacity = capacity

/-- What writes to no cell leaves the list in the queue. -/
theorem HoldsOn.grows (h : HoldsOn capacity contents m object items) (grew : m.Grows [] n) :
    HoldsOn capacity contents n object items := by
  obtain ⟨ready, q, on, holds, same⟩ := h
  exact ⟨ready.grows grew, q, on.kept grew, holds, same⟩

/-- One call on a queue is answered as on the list that it holds, and the queue holds the list after
it. -/
theorem perform_agrees (h : HoldsOn capacity contents m object items) (c : QueueCall) :
    Agrees m [object, items] (c.perform (.ref object) m) (c.onList capacity contents)
      fun after v n => v = after.1 ∧ HoldsOn capacity after.2 n object items := by
  obtain ⟨ready, q, on, holds, rfl⟩ := h
  have fits : Profile.checked = .checked → q.count ≤ q.capacity := fun _ => holds.count_le
  cases c with
  | enqueue x =>
    have ran := operate_enqueue_agrees ready on holds.valid fits x
    have answer : (enqueue x).onList q.capacity contents =
        if contents.length < q.capacity then .ok (.null, contents ++ [x])
        else .error Ring.full := rfl
    rw [holds.enqueue_eq x] at ran
    rw [answer]
    by_cases room : contents.length < q.capacity
    · rw [if_pos room] at ran ⊢
      obtain ⟨v, n, ran, grew, rfl, on⟩ := ran
      exact .of_done ran grew ⟨rfl, ready.grows grew, _, on, holds.put room x, rfl⟩
    · rw [if_neg room] at ran ⊢
      exact ran
  | dequeue =>
    have ran := operate_dequeue_agrees ready on holds.valid fits
    cases contents with
    | nil =>
      rw [holds.dequeue_nil] at ran
      exact ran
    | cons x rest =>
      rw [holds.dequeue_cons] at ran
      obtain ⟨v, n, ran, grew, rfl, on⟩ := ran
      exact .of_done ran grew ⟨rfl, ready.grows grew, _, on, holds.take, rfl⟩
  | length =>
    have ran := length_agrees ready on.fields rfl
    rw [holds.count, lengthOf_natCast (Nat.le_trans holds.fits holds.valid.storable)] at ran
    obtain ⟨k, n, ran, -, rfl, rfl⟩ := ran
    exact .of_done (bind_of_done ran _) (.refl _ n) ⟨rfl, ready, q, on, holds, rfl⟩

/-- One call leaves the list after it in the queue, whether it was answered or refused. -/
theorem holdsOn_listAfter (h : HoldsOn capacity contents m object items) (c : QueueCall) :
    HoldsOn capacity (c.listAfter capacity contents) (c.perform (.ref object) m).2 object
      items := by
  have agrees := perform_agrees h c
  unfold listAfter
  cases answer : c.onList capacity contents with
  | ok after =>
    rw [answer] at agrees
    obtain ⟨v, n, ran, -, -, holds⟩ := agrees
    rw [ran]
    exact holds
  | error f =>
    rw [answer] at agrees
    obtain ⟨e, n, ran, grew, -⟩ := agrees
    rw [ran]
    exact h.grows grew

/-- After some calls the queue holds the list that they lead to. -/
theorem holdsOn_listAfterAll (h : HoldsOn capacity contents m object items)
    (calls : List QueueCall) :
    HoldsOn capacity (calls.foldl (listAfter capacity) contents)
      (machineAfterAll (.ref object) calls m) object items := by
  induction calls generalizing contents m with
  | nil => exact h
  | cons c calls ih => exact ih (holdsOn_listAfter h c)

/-- A new queue holds the empty list. -/
theorem makeQueue_holdsOn (ready : m.Ready .checked) (positive : 0 < capacity)
    (storable : capacity ≤ storageLimit) :
    ∃ object items n, Act.call (.cls (.known .queue)) [.int capacity] [] m =
      (.done (.ref object), n) ∧ HoldsOn capacity [] n object items := by
  obtain ⟨n, items, made, grew, -, new⟩ := makeQueue_apply ready
    (fun _ => Int.ofNat_lt.2 positive) (isStorable_natCast storable)
  exact ⟨_, items, n, made, ready.grows grew, _, new.on, .fresh positive storable, rfl⟩

/-- A process that checks makes no queue whose capacity is not positive. From any other capacity it
makes one, unless no list can have so many items, and the queue is first in, first out: after every
sequence of calls on it whose faults are caught, the next call is answered as on the list that these
calls lead to. A call that is refused writes to no cell. -/
theorem queue_is_bounded_list (ready : m.Ready .checked) (capacity : Int) :
    (capacity ≤ 0 → ∃ e n, Act.call (.cls (.known .queue)) [.int capacity] [] m = (.raised e, n) ∧
      n.cell e = .fault noCapacity) ∧
    (storageLimit < capacity → ∃ e n,
      Act.call (.cls (.known .queue)) [.int capacity] [] m = (.raised e, n) ∧
        n.cell e = .fault (tooManyItems capacity)) ∧
    (0 < capacity → capacity ≤ storageLimit → ∃ object items n,
      Act.call (.cls (.known .queue)) [.int capacity] [] m = (.done (.ref object), n) ∧
        ∀ (calls : List QueueCall) (next : QueueCall),
          Agrees (machineAfterAll (.ref object) calls n) [object, items]
            (next.perform (.ref object) (machineAfterAll (.ref object) calls n))
            (next.onList capacity.toNat (listAfterAll capacity.toNat calls))
            fun after v _ => v = after.1) := by
  refine ⟨fun nonpositive => ?_, fun many => ?_, fun positive storable => ?_⟩
  · obtain ⟨e, n, raised, -, cell⟩ := makeQueue_of_nonpositive ready nonpositive
    exact ⟨e, n, raised, cell⟩
  · have large : isStorable capacity = false := by
      simp only [isStorable, Bool.and_eq_false_iff, decide_eq_false_iff_not]
      omega
    have positive : 0 < capacity := by omega
    obtain ⟨e, n, raised, -, cell⟩ := makeQueue_of_many ready (fun _ => positive) large
    exact ⟨e, n, raised, cell⟩
  · obtain ⟨room, rfl⟩ := Int.eq_ofNat_of_zero_le (Int.le_of_lt positive)
    obtain ⟨object, items, n, made, holds⟩ :=
      makeQueue_holdsOn ready (Int.ofNat_lt.1 positive) (Int.ofNat_le.1 storable)
    refine ⟨object, items, n, made, fun calls next => ?_⟩
    exact (perform_agrees (holdsOn_listAfterAll holds calls) next).imp fun _ _ _ _ holds => holds.1

/-- In a queue for two items the second one, which is nothing, is taken out second, after a third
one was refused. -/
theorem queue_is_bounded_list_two : ∃ object n after,
    Act.call (.cls (.known .queue)) [.int 2] []
        Session.Launch.usualMachine = (.done (.ref object), n) ∧
      dequeue.perform (.ref object) (machineAfterAll (.ref object)
          [enqueue (.int 1), enqueue .null, enqueue (.int 3), dequeue] n) =
        (.done .null, after) := by
  obtain ⟨object, items, n, made, answered⟩ :=
    (queue_is_bounded_list Session.Launch.ready_usual 2).2.2 (by decide) (by decide)
  obtain ⟨v, after, ran, -, rfl⟩ :=
    answered [enqueue (.int 1), enqueue .null, enqueue (.int 3), dequeue] dequeue
  exact ⟨object, n, after, made, ran⟩

end Act

end Covenant
