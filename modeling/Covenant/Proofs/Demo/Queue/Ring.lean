import Covenant.Demo.Queue
import Covenant.Proofs.Contract.Agreement
import Mathlib.Data.List.Rotate
import Mathlib.Data.Nat.ModEq

/-!
# The ring of a bounded queue

What the operations of a bounded queue come to is a calculation on the ring in its fields
(`Ring.enqueue`, `Ring.dequeue`). Head and tail stay in the ring whatever is called
(`Ring.Valid.put`, `Ring.Valid.take`).

In a process that checks the ring holds a list, first in, first out (`Ring.Holds`): read from the
head on, and around the end, its slots are the items of the list and after them nothing but empty
slots. Putting in appends to the list while there is room (`Ring.Holds.put`), and taking out gives
its first item and leaves the others (`Ring.Holds.first`, `Ring.Holds.take`); in every other case
the demand of the operation is not met (`Ring.Holds.enqueue_eq`, `Ring.Holds.dequeue_nil`). All of
it is said of the slots after a rotation by the head, so that no case is made of where the indices
wrap around.
-/

namespace Covenant

/-- What the fields of a queue hold. -/
structure Ring where
  capacity : Nat
  slots : List Value
  /-- The slot that is read next. -/
  head : Nat
  /-- The slot that is written next. -/
  tail : Nat
  count : Int

namespace Ring

/-- The fault of putting something into a full queue. -/
def full : Fault :=
  Side.pre.violation "Cannot enqueue to a full queue"

/-- The fault of taking something out of an empty queue. -/
def empty : Fault :=
  Side.pre.violation "Cannot dequeue from an empty queue"

/-- The ring of a new queue. -/
def fresh (capacity : Nat) : Ring :=
  ⟨capacity, List.replicate capacity .null, 0, 0, 0⟩

/-- The position after another one. -/
def next (q : Ring) (i : Nat) : Nat :=
  (i + 1) % q.capacity

/-- Puts an item into the slot at the tail. -/
def put (q : Ring) (x : Value) : Ring :=
  { q with slots := q.slots.set q.tail x, tail := q.next q.tail, count := q.count + 1 }

/-- Empties the slot at the head. -/
def take (q : Ring) : Ring :=
  { q with slots := q.slots.set q.head .null, head := q.next q.head, count := q.count - 1 }

/-- What putting an item in comes to. -/
def enqueue (p : Profile) (q : Ring) (x : Value) : Except Fault Ring := do
  demand p (q.count < q.capacity) full
  return q.put x

/-- What taking an item out comes to. -/
def dequeue (p : Profile) (q : Ring) : Except Fault (Value × Ring) := do
  demand p (0 < q.count) empty
  return (q.slots.getD q.head .null, q.take)

/-- Putting in succeeds where there is room, or nothing is checked. -/
theorem enqueue_eq_ok_iff {p : Profile} {q after : Ring} {x : Value} :
    q.enqueue p x = .ok after ↔ (p = .checked → q.count < q.capacity) ∧ after = q.put x := by
  unfold enqueue
  cases p <;> by_cases room : q.count < q.capacity <;> simp [room, bind, Except.bind, pure,
    Except.pure, eq_comm]

/-- Taking out succeeds where there is something, or nothing is checked. -/
theorem dequeue_eq_ok_iff {p : Profile} {q : Ring} {after : Value × Ring} :
    q.dequeue p = .ok after ↔
      (p = .checked → 0 < q.count) ∧ after = (q.slots.getD q.head .null, q.take) := by
  unfold dequeue
  cases p <;> by_cases some : 0 < q.count <;> simp [some, bind, Except.bind, pure, Except.pure,
    eq_comm]

/-- The positions lie in a ring that can be stored. -/
structure Valid (q : Ring) : Prop where
  storable : q.capacity ≤ Act.storageLimit
  slots : q.slots.length = q.capacity
  head : q.head < q.capacity
  tail : q.tail < q.capacity

variable {q : Ring} {x : Value} {contents rest : List Value}

theorem next_lt (h : q.head < q.capacity) (i : Nat) : q.next i < q.capacity :=
  Nat.mod_lt _ (Nat.lt_of_le_of_lt (Nat.zero_le _) h)

/-- A new ring is valid. -/
theorem Valid.fresh {capacity : Nat} (positive : 0 < capacity)
    (storable : capacity ≤ Act.storageLimit) : (fresh capacity).Valid :=
  ⟨storable, List.length_replicate, positive, positive⟩

theorem Valid.put (valid : q.Valid) (x : Value) : (q.put x).Valid :=
  ⟨valid.storable, by simpa [Ring.put] using valid.slots, valid.head, next_lt valid.head _⟩

theorem Valid.take (valid : q.Valid) : q.take.Valid :=
  ⟨valid.storable, by simpa [Ring.take] using valid.slots, next_lt valid.head _, valid.tail⟩

/-! ## The list in the ring -/

/-- Writing a slot of a ring is writing the item that it becomes when the ring is turned. -/
theorem rotate_set {α : Type} {slots : List α} {i : Nat} (h : i < slots.length) (n : Nat) (x : α) :
    (slots.set ((i + n) % slots.length) x).rotate n = (slots.rotate n).set i x := by
  apply List.ext_getElem (by simp)
  intro j lt lt'
  have inside : j < slots.length := by simpa using lt'
  rw [List.getElem_rotate, List.getElem_set, List.getElem_set, List.getElem_rotate]
  simp only [List.length_set]
  have same : (i + n) % slots.length = (j + n) % slots.length ↔ i = j := by
    constructor
    · intro eq
      have turned : Nat.ModEq slots.length i j := Nat.ModEq.add_right_cancel' n eq
      exact Nat.ModEq.eq_of_lt_of_lt turned h inside
    · rintro rfl
      rfl
  by_cases eq : i = j
  · rw [if_pos eq, if_pos (same.2 eq)]
  · rw [if_neg eq, if_neg (fun turned => eq (same.1 turned))]

/-- The ring holds a list: from the head on its slots are the items of the list, and after them
empty slots. -/
structure Holds (q : Ring) (contents : List Value) : Prop where
  valid : q.Valid
  fits : contents.length ≤ q.capacity
  count : q.count = contents.length
  tail : q.tail = (contents.length + q.head) % q.capacity
  slots : q.slots.rotate q.head =
    contents ++ List.replicate (q.capacity - contents.length) .null

/-- A ring that holds a list counts no more than it can hold. -/
theorem Holds.count_le (h : q.Holds contents) : q.count ≤ q.capacity := by
  rw [h.count]
  exact Int.ofNat_le.2 h.fits

/-- A new ring holds the empty list. -/
theorem Holds.fresh {capacity : Nat} (positive : 0 < capacity)
    (storable : capacity ≤ Act.storageLimit) : (Ring.fresh capacity).Holds [] where
  valid := .fresh positive storable
  fits := Nat.zero_le _
  count := rfl
  tail := (Nat.mod_eq_of_lt positive).symm
  slots := by simp [Ring.fresh]

/-- Where there is room, putting an item in appends it. -/
theorem Holds.put (h : q.Holds contents) (room : contents.length < q.capacity) (x : Value) :
    (q.put x).Holds (contents ++ [x]) where
  valid := h.valid.put x
  fits := by
    simp only [Ring.put, List.length_append, List.length_singleton]
    omega
  count := by simp [Ring.put, h.count]
  tail := by
    simp only [Ring.put, next, h.tail, List.length_append, List.length_singleton]
    rw [Nat.mod_add_mod]
    congr 1
    omega
  slots := by
    have inside : contents.length < q.slots.length := h.valid.slots ▸ room
    obtain ⟨free, eq⟩ : ∃ free, q.capacity - contents.length = free + 1 :=
      ⟨q.capacity - contents.length - 1, by omega⟩
    have left : q.capacity - (contents ++ [x]).length = free := by simp; omega
    simp only [Ring.put, left, h.tail]
    rw [← h.valid.slots, rotate_set inside, h.slots, eq, List.set_append_right _ _ (Nat.le_refl _)]
    simp [List.replicate_succ]

/-- Where there is an item, the slot at the head holds the first one. -/
theorem Holds.first (h : q.Holds (x :: rest)) : q.slots.getD q.head .null = x := by
  have inside : q.head < q.slots.length := h.valid.slots ▸ h.valid.head
  have first : (q.slots.rotate q.head).head? = some x := by rw [h.slots]; rfl
  rw [List.head?_rotate inside] at first
  rw [List.getD_eq_getElem?_getD, first]
  rfl

/-- Where there is an item, taking it out leaves the others. -/
theorem Holds.take (h : q.Holds (x :: rest)) : q.take.Holds rest where
  valid := h.valid.take
  fits := by
    have fits := h.fits
    simp only [List.length_cons] at fits
    simp only [Ring.take]
    omega
  count := by simp [Ring.take, h.count]
  tail := by
    simp only [Ring.take, next, h.tail, List.length_cons]
    rw [Nat.add_mod_mod]
    congr 1
    omega
  slots := by
    have length := h.valid.slots
    have inside : 0 < q.slots.length := length ▸ Nat.lt_of_le_of_lt (Nat.zero_le _) h.valid.head
    have place : q.head = (0 + q.head) % q.slots.length := by
      rw [Nat.zero_add, length, Nat.mod_eq_of_lt h.valid.head]
    have emptied : (q.slots.set q.head .null).rotate q.head =
        .null :: (rest ++ List.replicate (q.capacity - (rest.length + 1)) .null) := by
      conv => lhs; arg 1; rw [place]
      rw [rotate_set inside, h.slots]
      rfl
    have fits := h.fits
    simp only [List.length_cons] at fits
    have more : q.capacity - rest.length = q.capacity - (rest.length + 1) + 1 := by omega
    have emptiedLength : (q.slots.set q.head .null).length = q.slots.length := List.length_set
    simp only [Ring.take, next]
    rw [← length, ← emptiedLength, List.rotate_mod,
      ← List.rotate_rotate, emptied, List.length_set, length, more]
    simp [List.replicate_succ']

/-- A process that checks puts an item in exactly if there is room. -/
theorem Holds.enqueue_eq (h : q.Holds contents) (x : Value) :
    q.enqueue .checked x =
      if contents.length < q.capacity then .ok (q.put x) else .error full := by
  unfold enqueue
  rw [h.count]
  by_cases room : contents.length < q.capacity
  · simp [room, bind, Except.bind, pure, Except.pure]
  · simp [room, bind, Except.bind]

/-- A process that checks takes nothing out of an empty queue. -/
theorem Holds.dequeue_nil (h : q.Holds []) : q.dequeue .checked = .error empty := by
  unfold dequeue
  rw [h.count]
  rfl

/-- A process that checks takes out the first item. -/
theorem Holds.dequeue_cons (h : q.Holds (x :: rest)) : q.dequeue .checked = .ok (x, q.take) := by
  have some : 0 < q.count := by
    rw [h.count]
    simp only [List.length_cons]
    omega
  exact dequeue_eq_ok_iff.2 ⟨fun _ => some, by rw [h.first]⟩

end Ring

end Covenant
