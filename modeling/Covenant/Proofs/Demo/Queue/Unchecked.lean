import Covenant.Proofs.Demo.Queue.Fifo

/-!
# Queues that nothing guards

In a process that does not check, a queue takes every item and gives one whenever it is asked. It is
then no list any more: a full queue writes over its slots, and an empty one gives what its next slot
holds. What it does is told by the calls made so far (`Ring.Follows`). The count is how many items
were put in less how many were taken out, head and tail are these two numbers around the end of the
ring, and each slot holds the item that was last put into it, unless it has been emptied since
(`QueueCall.lastIn`). One call keeps this (`followsOn_perform`), so it holds after every sequence of
calls (`followsOn_after`), and no call can fail.
-/

namespace Covenant

namespace QueueCall

/-- How many of some calls put an item in. -/
def puts (calls : List QueueCall) : Nat :=
  calls.countP fun
    | enqueue _ => true
    | _ => false

/-- How many of some calls take an item out. -/
def takes (calls : List QueueCall) : Nat :=
  calls.countP fun
    | dequeue => true
    | _ => false

/-- The item that some calls, the latest of them first, have put into a slot since that slot was
last emptied. Items are put into one slot after the other, and taken out of them in the same way. -/
def lastIn (capacity slot : Nat) : List QueueCall → Option Value
  | [] => none
  | enqueue x :: earlier =>
    if puts earlier % capacity = slot then some x else lastIn capacity slot earlier
  | dequeue :: earlier =>
    if takes earlier % capacity = slot then none else lastIn capacity slot earlier
  | length :: earlier => lastIn capacity slot earlier

variable {x : Value} {calls : List QueueCall}

@[simp] theorem puts_enqueue : puts (enqueue x :: calls) = puts calls + 1 :=
  List.countP_cons_of_pos rfl

@[simp] theorem puts_dequeue : puts (dequeue :: calls) = puts calls :=
  List.countP_cons_of_neg nofun

@[simp] theorem puts_length : puts (length :: calls) = puts calls :=
  List.countP_cons_of_neg nofun

@[simp] theorem puts_reverse : puts calls.reverse = puts calls :=
  List.countP_reverse

@[simp] theorem takes_enqueue : takes (enqueue x :: calls) = takes calls :=
  List.countP_cons_of_neg nofun

@[simp] theorem takes_dequeue : takes (dequeue :: calls) = takes calls + 1 :=
  List.countP_cons_of_pos rfl

@[simp] theorem takes_length : takes (length :: calls) = takes calls :=
  List.countP_cons_of_neg nofun

@[simp] theorem takes_reverse : takes calls.reverse = takes calls :=
  List.countP_reverse

end QueueCall

namespace Ring

open QueueCall

variable {q : Ring} {history : List QueueCall}

/-- The ring is what some calls, the latest of them first, have made of a new one. -/
structure Follows (q : Ring) (history : List QueueCall) : Prop where
  valid : q.Valid
  head : q.head = takes history % q.capacity
  tail : q.tail = puts history % q.capacity
  count : q.count = puts history - takes history
  slots : ∀ i < q.capacity, q.slots[i]? = some ((lastIn q.capacity i history).getD .null)

/-- A new ring follows no calls. -/
theorem Follows.fresh {capacity : Nat} (positive : 0 < capacity)
    (storable : capacity ≤ Act.storageLimit) : (Ring.fresh capacity).Follows [] where
  valid := .fresh positive storable
  head := (Nat.zero_mod capacity).symm
  tail := (Nat.zero_mod capacity).symm
  count := rfl
  slots := fun _ inside => List.getElem?_replicate_of_lt inside

/-- Putting an item in follows that call. -/
theorem Follows.put (h : q.Follows history) (x : Value) :
    (q.put x).Follows (.enqueue x :: history) where
  valid := h.valid.put x
  head := by simpa [Ring.put] using h.head
  tail := by simp [Ring.put, next, h.tail]
  count := by
    simp only [Ring.put, h.count, puts_enqueue, takes_enqueue]
    omega
  slots := by
    intro i inside
    have placed : q.tail < q.slots.length := h.valid.slots ▸ h.valid.tail
    simp only [Ring.put, lastIn, ← h.tail]
    by_cases here : q.tail = i
    · subst here
      rw [if_pos rfl, List.getElem?_set_self placed, Option.getD_some]
    · rw [if_neg here, List.getElem?_set_ne here]
      exact h.slots i inside

/-- Taking an item out follows that call. -/
theorem Follows.take (h : q.Follows history) : q.take.Follows (.dequeue :: history) where
  valid := h.valid.take
  head := by simp [Ring.take, next, h.head]
  tail := by simpa [Ring.take] using h.tail
  count := by
    simp only [Ring.take, h.count, puts_dequeue, takes_dequeue]
    omega
  slots := by
    intro i inside
    have placed : q.head < q.slots.length := h.valid.slots ▸ h.valid.head
    simp only [Ring.take, lastIn, ← h.head]
    by_cases here : q.head = i
    · subst here
      rw [if_pos rfl, List.getElem?_set_self placed, Option.getD_none]
    · rw [if_neg here, List.getElem?_set_ne here]
      exact h.slots i inside

/-- Asking for the length changes nothing. -/
theorem Follows.length (h : q.Follows history) : q.Follows (.length :: history) where
  valid := h.valid
  head := by simpa using h.head
  tail := by simpa using h.tail
  count := by simpa using h.count
  slots := h.slots

/-- The slot at the head holds what was last put into it. -/
theorem Follows.first (h : q.Follows history) :
    q.slots.getD q.head .null =
      (lastIn q.capacity (takes history % q.capacity) history).getD .null := by
  rw [List.getD_eq_getElem?_getD, h.slots q.head h.valid.head, Option.getD_some, h.head]

end Ring

namespace Act

open QueueCall

variable {m n : Machine} {object items : Ref} {history : List QueueCall} {capacity : Nat}

/-- The fields of a queue in a process that does not check are those of a ring that follows some
calls. -/
structure FollowsOn (capacity : Nat) (history : List QueueCall) (m : Machine)
    (object items : Ref) : Prop where
  ready : m.Ready .unchecked
  ring : ∃ q : Ring, q.On m object items ∧ q.Follows history ∧ q.capacity = capacity

/-- What writes to no cell leaves a queue as it is. -/
theorem FollowsOn.grows (h : FollowsOn capacity history m object items) (grew : m.Grows [] n) :
    FollowsOn capacity history n object items := by
  obtain ⟨ready, q, on, follows, same⟩ := h
  exact ⟨ready.grows grew, q, on.kept grew, follows, same⟩

/-- Every item can be put in. -/
theorem FollowsOn.enqueue (h : FollowsOn capacity history m object items) (x : Value) :
    ∃ n, (enqueue x).perform (.ref object) m = (.done .null, n) ∧
      FollowsOn capacity (.enqueue x :: history) n object items := by
  obtain ⟨ready, q, on, follows, rfl⟩ := h
  have ran := operate_enqueue_agrees ready on follows.valid nofun x
  rw [Ring.enqueue_eq_ok_iff (p := .unchecked) |>.2 ⟨nofun, rfl⟩] at ran
  obtain ⟨_, n, ran, grew, rfl, on⟩ := ran
  exact ⟨n, ran, ready.grows grew, _, on, follows.put x, rfl⟩

/-- What is taken out is what was last put into the slot at the head. -/
theorem FollowsOn.dequeue (h : FollowsOn capacity history m object items) :
    ∃ n, dequeue.perform (.ref object) m =
        (.done ((lastIn capacity (takes history % capacity) history).getD .null), n) ∧
      FollowsOn capacity (.dequeue :: history) n object items := by
  obtain ⟨ready, q, on, follows, rfl⟩ := h
  have ran := operate_dequeue_agrees ready on follows.valid nofun
  rw [Ring.dequeue_eq_ok_iff (p := .unchecked) |>.2 ⟨nofun, rfl⟩] at ran
  obtain ⟨_, n, ran, grew, rfl, on⟩ := ran
  rw [follows.first] at ran
  exact ⟨n, ran, ready.grows grew, _, on, follows.take, rfl⟩

/-- Asking for the length changes nothing, whether the count is a length or not. -/
theorem FollowsOn.length (h : FollowsOn capacity history m object items) :
    FollowsOn capacity (.length :: history) (QueueCall.length.perform (.ref object) m).2 object
      items := by
  obtain ⟨ready, q, on, follows, rfl⟩ := h
  have asked := length_agrees ready on.fields rfl
  have grew : m.Grows [] (QueueCall.length.perform (.ref object) m).2 := by
    cases answer : lengthOf q.count with
    | ok k =>
      rw [answer] at asked
      obtain ⟨_, n, ran, grew, -⟩ := asked
      exact (congrArg Prod.snd (bind_of_done ran _)) ▸ grew
    | error f =>
      rw [answer] at asked
      obtain ⟨e, n, raised, grew, -⟩ := asked
      exact (congrArg Prod.snd (bind_of_raised raised _)) ▸ grew
  exact ⟨ready.grows grew, q, on.kept grew, follows.length, rfl⟩

/-- One call is followed by the queue. -/
theorem followsOn_perform (h : FollowsOn capacity history m object items) (c : QueueCall) :
    FollowsOn capacity (c :: history) (c.perform (.ref object) m).2 object items := by
  cases c with
  | enqueue x =>
    obtain ⟨n, ran, follows⟩ := h.enqueue x
    rw [ran]
    exact follows
  | dequeue =>
    obtain ⟨n, ran, follows⟩ := h.dequeue
    rw [ran]
    exact follows
  | length => exact h.length

/-- All of some calls are followed by the queue. -/
theorem followsOn_after (h : FollowsOn capacity history m object items)
    (calls : List QueueCall) :
    FollowsOn capacity (calls.reverse ++ history) (machineAfterAll (.ref object) calls m) object
      items := by
  induction calls generalizing history m with
  | nil => exact h
  | cons c calls ih =>
    rw [List.reverse_cons, List.append_assoc]
    exact ih (followsOn_perform h c)

/-- A new queue follows no calls. -/
theorem makeQueue_followsOn (ready : m.Ready .unchecked) (positive : 0 < capacity)
    (storable : capacity ≤ storageLimit) :
    ∃ object items n, Act.call (.cls (.known .queue)) [.int capacity] [] m =
      (.done (.ref object), n) ∧ FollowsOn capacity [] n object items := by
  obtain ⟨n, items, made, grew, -, new⟩ := makeQueue_apply ready nofun
    (isStorable_natCast storable)
  exact ⟨_, items, n, made, ready.grows grew, _, new.on, .fresh positive storable, rfl⟩

/-- The fields of a queue are told by the calls that it follows. -/
theorem FollowsOn.fields (h : FollowsOn capacity history m object items) :
    ∃ slots, slots.length = capacity ∧
      Ring.On ⟨capacity, slots, takes history % capacity, puts history % capacity,
        puts history - takes history⟩ m object items := by
  obtain ⟨-, q, on, follows, rfl⟩ := h
  refine ⟨q.slots, follows.valid.slots, ?_⟩
  rw [← follows.head, ← follows.tail, ← follows.count]
  exact on

/-- A process that does not check makes a queue of every positive capacity, unless no list can have
so many items. After every sequence of calls on it whose faults are caught, count, head and tail are
told by how many items were put in and taken out. However many the queue holds, another one can be
put in, and one can be taken out: it is the one that was last put into the slot at the head since
that slot was emptied, or nothing if there is none. -/
theorem unchecked_queue_follows_calls (ready : m.Ready .unchecked) (capacity : Int) :
    (storageLimit < capacity → ∃ e n,
      Act.call (.cls (.known .queue)) [.int capacity] [] m = (.raised e, n) ∧
        n.cell e = .fault (tooManyItems capacity)) ∧
    (0 < capacity → capacity ≤ storageLimit → ∃ object items n,
      Act.call (.cls (.known .queue)) [.int capacity] [] m = (.done (.ref object), n) ∧
        ∀ calls : List QueueCall,
          (∃ slots, slots.length = capacity.toNat ∧
            Ring.On ⟨capacity.toNat, slots, takes calls % capacity.toNat,
              puts calls % capacity.toNat, puts calls - takes calls⟩
              (machineAfterAll (.ref object) calls n) object items) ∧
          (∀ x, ∃ k, (enqueue x).perform (.ref object) (machineAfterAll (.ref object) calls n) =
            (.done .null, k)) ∧
          ∃ k, dequeue.perform (.ref object) (machineAfterAll (.ref object) calls n) =
            (.done ((lastIn capacity.toNat (takes calls % capacity.toNat) calls.reverse).getD
              .null), k)) := by
  refine ⟨makeQueue_of_storageLimit_lt ready, fun positive storable => ?_⟩
  obtain ⟨room, rfl⟩ := Int.eq_ofNat_of_zero_le (Int.le_of_lt positive)
  obtain ⟨object, items, n, made, new⟩ :=
    makeQueue_followsOn ready (Int.ofNat_lt.1 positive) (Int.ofNat_le.1 storable)
  refine ⟨object, items, n, made, fun calls => ?_⟩
  have follows := followsOn_after new calls
  rw [List.append_nil] at follows
  have fields := follows.fields
  obtain ⟨k, taken, -⟩ := follows.dequeue
  rw [puts_reverse, takes_reverse] at fields
  rw [takes_reverse] at taken
  refine ⟨fields, fun x => ?_, k, taken⟩
  obtain ⟨k, put, -⟩ := follows.enqueue x
  exact ⟨k, put⟩

/-- In a queue for two items a third one is written over the first; and an item that is put in after
one was taken out of the empty queue is not the next one that is taken out. -/
theorem unchecked_queue_follows_calls_two : ∃ object n after later,
    Act.call (.cls (.known .queue)) [.int 2] []
        Session.Launch.uncheckingMachine = (.done (.ref object), n) ∧
      dequeue.perform (.ref object) (machineAfterAll (.ref object)
          [enqueue (.int 1), enqueue (.int 2), enqueue (.int 3)] n) = (.done (.int 3), after) ∧
      dequeue.perform (.ref object) (machineAfterAll (.ref object)
          [dequeue, enqueue (.int 1)] n) = (.done .null, later) := by
  obtain ⟨object, items, n, made, follows⟩ :=
    (unchecked_queue_follows_calls Session.Launch.ready_unchecking 2).2 (by decide) (by decide)
  obtain ⟨after, ran⟩ := (follows [enqueue (.int 1), enqueue (.int 2), enqueue (.int 3)]).2.2
  obtain ⟨later, ran'⟩ := (follows [dequeue, enqueue (.int 1)]).2.2
  exact ⟨object, n, after, later, made, ran, ran'⟩

end Act

end Covenant
