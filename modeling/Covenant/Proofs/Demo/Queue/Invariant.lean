import Covenant.Proofs.Demo.Queue.Fifo

/-!
# What holds of every queue in use

In a process that checks, the fields of a queue fit together in every state that calls lead to
(`Ring.Sound`): head, tail and count lie in their ranges, the tail is `count` slots behind the head,
and slots that are not in use hold nothing, so that nothing that was taken out is kept. This follows
from the list in the ring (`Ring.Holds.sound`). The only violation that a call can end with is
therefore that of a precondition (`perform_endsPlainly`).

The invariant that queues have themselves demands less of the fields (`Queue.demands`): neither that
the count is not negative, nor that the tail is where head and count say.
-/

namespace Covenant

namespace Ring

variable {q : Ring} {contents : List Value}

/-- A slot is in use: it is one of the `count` slots from the head on, and around the end. -/
def Uses (q : Ring) (i : Nat) : Prop :=
  ∃ j : Nat, j < q.count ∧ i = (q.head + j) % q.capacity

/-- The fields fit together, and slots that are not in use hold nothing. -/
structure Sound (q : Ring) : Prop where
  slots : q.slots.length = q.capacity
  notNegative : 0 ≤ q.count
  few : q.count ≤ q.capacity
  head : q.head < q.capacity
  tail : q.tail < q.capacity
  meets : (q.tail : Int) = (q.head + q.count) % q.capacity
  vacated : ∀ i < q.capacity, ¬ q.Uses i → q.slots[i]? = some .null

/-- Every position of a ring is reached from the head on. -/
theorem exists_distance (h : q.head < q.capacity) {i : Nat} (inside : i < q.capacity) :
    ∃ j < q.capacity, i = (q.head + j) % q.capacity := by
  by_cases behind : q.head ≤ i
  · refine ⟨i - q.head, by omega, ?_⟩
    rw [Nat.add_sub_cancel' behind, Nat.mod_eq_of_lt inside]
  · refine ⟨i + q.capacity - q.head, by omega, ?_⟩
    have around : q.head + (i + q.capacity - q.head) = i + q.capacity := by omega
    rw [around, Nat.add_mod_right, Nat.mod_eq_of_lt inside]

/-- The slots from the head on are the items of the list, and after them nothing. -/
theorem Holds.slot (h : q.Holds contents) {j : Nat} (inside : j < q.capacity) :
    q.slots[(q.head + j) % q.capacity]? =
      (contents ++ List.replicate (q.capacity - contents.length) .null)[j]? := by
  have length := h.valid.slots
  rw [← h.slots, List.getElem?_rotate (length ▸ inside), length, Nat.add_comm]

/-- A slot that is not in use is behind the items of the list. -/
theorem Holds.vacated (h : q.Holds contents) {i : Nat} (inside : i < q.capacity)
    (unused : ¬ q.Uses i) : q.slots[i]? = some .null := by
  obtain ⟨j, lt, rfl⟩ := exists_distance h.valid.head inside
  have behind : contents.length ≤ j := by
    by_contra before
    refine unused ⟨j, ?_, rfl⟩
    rw [h.count]
    omega
  rw [h.slot lt, List.getElem?_append_right behind, List.getElem?_replicate_of_lt (by omega)]

/-- The fields of a ring that holds a list fit together. -/
theorem Holds.sound (h : q.Holds contents) : q.Sound where
  slots := h.valid.slots
  notNegative := by
    rw [h.count]
    exact Int.natCast_nonneg _
  few := h.count_le
  head := h.valid.head
  tail := h.valid.tail
  meets := by
    rw [h.count, h.tail, Nat.add_comm]
    norm_cast
  vacated := fun _ inside unused => h.vacated inside unused

end Ring

namespace QueueCall

/-- A call on a queue ends with a result, or with the violation of a precondition. -/
def EndsPlainly (queue : Value) (c : QueueCall) (m : Machine) : Prop :=
  (∃ v n, c.perform queue m = (.done v, n)) ∨
    ∃ e n, c.perform queue m = (.raised e, n) ∧ n.faultClassAt e = .preconditionError

/-- A call that a list refuses violates a precondition. -/
theorem cls_of_onList_eq_error {capacity : Nat} {contents : List Value} {c : QueueCall} {f : Fault}
    (refused : c.onList capacity contents = .error f) :
    f.cls = .known (.fault .preconditionError) := by
  cases c with
  | enqueue x =>
    simp only [onList] at refused
    split at refused <;> cases refused
    rfl
  | dequeue => cases contents <;> cases refused; rfl
  | length => cases refused

end QueueCall

namespace Act

open QueueCall

variable {call : Caller} {m : Machine} {p : Profile} {object items : Ref} {contents : List Value}
  {room : Nat} {capacity head tail count : Int}

/-- A call on a queue that holds a list violates nothing but a precondition. -/
theorem perform_endsPlainly (h : HoldsOn room contents m object items) (c : QueueCall) :
    c.EndsPlainly (.ref object) m := by
  have agrees := perform_agrees h c
  cases answer : c.onList room contents with
  | ok after =>
    rw [answer] at agrees
    obtain ⟨v, n, ran, -⟩ := agrees
    exact .inl ⟨v, n, ran⟩
  | error f =>
    rw [answer] at agrees
    obtain ⟨e, n, raised, -, cell⟩ := agrees
    exact .inr ⟨e, n, raised,
      Machine.faultClassAt_of_cell cell (cls_of_onList_eq_error answer)⟩

/-! ## The invariant that queues have themselves -/

namespace Queue

/-- A queue with any integers in its fields. -/
def withFields (items : Ref) (capacity head tail count : Int) : Cell :=
  .object (.known .queue) [("capacity", .int capacity), ("items", .ref items), ("head", .int head),
    ("tail", .int tail), ("count", .int count)]

/-- What the invariant of queues demands of the fields. -/
def demands (p : Profile) (capacity head tail count : Int) : Except Fault Unit := do
  demand p (decide (count ≤ capacity)) (Side.pre.violation "Queue count exceeds capacity")
  demand p (decide (0 ≤ head) && decide (head < capacity))
    (Side.pre.violation "Queue head out of range")
  demand p (decide (0 ≤ tail) && decide (tail < capacity))
    (Side.pre.violation "Queue tail out of range")

/-- Nothing is demanded of how the fields fit together. -/
theorem demands_eq_ok_iff :
    demands .checked capacity head tail count = .ok () ↔
      count ≤ capacity ∧ (0 ≤ head ∧ head < capacity) ∧ 0 ≤ tail ∧ tail < capacity := by
  simp [demands, demand_bind_eq_ok_iff, demand_eq_ok_iff]

/-- The invariant agrees with its demands. -/
theorem invariant_agrees (ready : m.Ready p)
    (cell : m.cell object = withFields items capacity head tail count) :
    Agrees m [] (Queue.invariant call (.ref object) m) (demands p capacity head tail count)
      fun _ v n => v = .null ∧ n = m := by
  have few : Comparison.le.onInts count capacity = decide (count ≤ capacity) := rfl
  have whole : field call (.ref object) "capacity" m = (.done (.int capacity), m) :=
    field_of_object cell rfl
  have first : field call (.ref object) "head" m = (.done (.int head), m) :=
    field_of_object cell rfl
  have last : field call (.ref object) "tail" m = (.done (.int tail), m) :=
    field_of_object cell rfl
  unfold Queue.invariant demands
  rw [bind_of_done (field_of_object cell rfl), bind_of_done whole,
    bind_of_done (compare_int call .le count capacity m), few]
  refine .demand (assertThat_agrees ready .pre _ _) ?_
  rintro _ - rfl -
  rw [bind_of_done (inRing_int first whole)]
  refine .demand (assertThat_agrees ready .pre _ _) ?_
  rintro _ - rfl -
  rw [bind_of_done (inRing_int last whole)]
  exact (assertThat_agrees ready .pre _ _).followed fun _ _ _ same => ⟨.null, by rw [same]; rfl,
    rfl, same⟩

end Queue

/-- Calling the invariant of a queue agrees with its demands. -/
theorem operate_invariant_agrees (ready : m.Ready p)
    (cell : m.cell object = Queue.withFields items capacity head tail count) :
    Agrees m [] (Session.operate (.ref object) "invariant" [] [] m)
      (Queue.demands p capacity head tail count) fun _ v _ => v = .null := by
  refine operate_agrees .queueInvariant ready.plain cell rfl rfl rfl rfl nofun [] ?_
  intro n grew
  have kept := grew.cell_eq cell nofun List.not_mem_nil
  exact (Queue.invariant_agrees (ready.grows grew) kept).imp fun _ _ _ _ holds => holds.1

/-- The invariant of a queue passes if its demands are met, and only then. -/
theorem operate_invariant_done_iff (ready : m.Ready .checked)
    (cell : m.cell object = Queue.withFields items capacity head tail count) :
    (∃ n, Session.operate (.ref object) "invariant" [] [] m = (.done .null, n)) ↔
      count ≤ capacity ∧ (0 ≤ head ∧ head < capacity) ∧ 0 ≤ tail ∧ tail < capacity := by
  have agrees := operate_invariant_agrees ready cell
  rw [← Queue.demands_eq_ok_iff]
  constructor
  · rintro ⟨n, ran⟩
    obtain ⟨_, met, -⟩ := agrees.result ran
    exact met
  · intro met
    rw [met] at agrees
    obtain ⟨_, n, ran, -, rfl⟩ := agrees
    exact ⟨n, ran⟩

/-! ## Queues in use -/

/-- The fields of a queue that holds a list fit together. -/
theorem HoldsOn.sound (h : HoldsOn room contents m object items) :
    ∃ q : Ring, q.On m object items ∧ q.capacity = room ∧ q.Sound := by
  obtain ⟨-, q, on, holds, same⟩ := h
  exact ⟨q, on, same, holds.sound⟩

/-- Whatever integers are written into the fields of a queue, its own invariant passes if head and
tail are in the ring and the count is at most the capacity, and only then. -/
theorem HoldsOn.invariant_iff (h : HoldsOn room contents m object items)
    (head tail count : Int) :
    (∃ n, Session.operate (.ref object) "invariant" [] []
        (m.put object (Queue.withFields items room head tail count)) = (.done .null, n)) ↔
      count ≤ room ∧ (0 ≤ head ∧ head < room) ∧ 0 ≤ tail ∧ tail < room := by
  obtain ⟨ready, q, on, -, -⟩ := h
  have grew : m.Grows [object] (m.put object (Queue.withFields items room head tail count)) :=
    .put m _ List.mem_cons_self
  exact operate_invariant_done_iff (ready.grows grew) (Machine.cell_put_self on.lt_size)

/-- A process that checks makes a queue of every positive capacity, unless no list can have so many
items. After every sequence of calls on it whose faults are caught, its fields fit together and its
slots that are not in use hold nothing, and the next call ends with a result or with the violation
of a precondition. The invariant that it has itself demands less: whatever integers are written into
the fields, it passes if the count is at most the capacity and head and tail are in the ring, also
with a count below zero, or with a tail that is not where head and count say. -/
theorem queue_stays_sound (ready : m.Ready .checked) (capacity : Int) :
    (storageLimit < capacity → ∃ e n,
      Act.call (.cls (.known .queue)) [.int capacity] [] m = (.raised e, n) ∧
        n.cell e = .fault (tooManyItems capacity)) ∧
    (0 < capacity → capacity ≤ storageLimit → ∃ object items n,
      Act.call (.cls (.known .queue)) [.int capacity] [] m = (.done (.ref object), n) ∧
        ∀ calls : List QueueCall,
          (∃ q : Ring, q.On (machineAfterAll (.ref object) calls n) object items ∧
            q.capacity = capacity ∧ q.Sound) ∧
          (∀ next : QueueCall,
            next.EndsPlainly (.ref object) (machineAfterAll (.ref object) calls n)) ∧
          ∀ head tail count : Int,
            (∃ k, Session.operate (.ref object) "invariant" [] []
              ((machineAfterAll (.ref object) calls n).put object
                (Queue.withFields items capacity head tail count)) = (.done .null, k)) ↔
              count ≤ capacity ∧ (0 ≤ head ∧ head < capacity) ∧ 0 ≤ tail ∧ tail < capacity) := by
  refine ⟨makeQueue_of_storageLimit_lt ready, fun positive storable => ?_⟩
  obtain ⟨room, rfl⟩ := Int.eq_ofNat_of_zero_le (Int.le_of_lt positive)
  obtain ⟨object, items, n, made, new⟩ :=
    makeQueue_holdsOn ready (Int.ofNat_lt.1 positive) (Int.ofNat_le.1 storable)
  refine ⟨object, items, n, made, fun calls => ?_⟩
  have holds := holdsOn_listAfterAll new calls
  obtain ⟨q, on, same, sound⟩ := holds.sound
  exact ⟨⟨q, on, congrArg Nat.cast same, sound⟩, perform_endsPlainly holds, holds.invariant_iff⟩

/-- In a queue for two items that was filled and emptied around the end the fields fit together;
taking an item out of a new one violates a precondition at most; and its own invariant passes with a
count of minus one, although the tail would have to be elsewhere then. -/
theorem queue_stays_sound_two : ∃ object items n,
    Act.call (.cls (.known .queue)) [.int 2] [] Session.Launch.usualMachine =
      (.done (.ref object), n) ∧
      (∃ q : Ring, q.On (machineAfterAll (.ref object)
          [enqueue (.int 1), dequeue, enqueue .null, enqueue (.int 2), enqueue (.int 3), dequeue,
            dequeue, dequeue] n) object items ∧ q.capacity = (2 : Int) ∧ q.Sound) ∧
      dequeue.EndsPlainly (.ref object) (machineAfterAll (.ref object) [] n) ∧
      ∃ k, Session.operate (.ref object) "invariant" [] []
        ((machineAfterAll (.ref object) [] n).put object (Queue.withFields items 2 0 0 (-1))) =
          (.done .null, k) := by
  obtain ⟨object, items, n, made, stays⟩ :=
    (queue_stays_sound Session.Launch.ready_usual 2).2 (by decide) (by decide)
  exact ⟨object, items, n, made, (stays _).1, (stays []).2.1 dequeue,
    ((stays []).2.2 0 0 (-1)).2 (by decide)⟩

end Act

end Covenant
