import Covenant.Proofs.Contract.Bracket
import Covenant.Proofs.Demo.Object
import Covenant.Proofs.Demo.Queue.Ring
import Covenant.Session.Demo

/-!
# Queues on the machine

A queue is an object whose fields are those of a ring (`Ring.On`), with its slots in a list of its
own. Each operation, called through its method, agrees with the calculation on the ring, under
either profile, and writes to no other cells than the two of the queue (`operate_enqueue_agrees`,
`operate_dequeue_agrees`); the number of items is what its length is (`length_agrees`).
-/

namespace Covenant

open Act

/-- The fields of a queue whose slots are in a given list. -/
def Ring.fields (q : Ring) (items : Ref) : Fields :=
  [("capacity", .int q.capacity), ("items", .ref items), ("head", .int q.head),
    ("tail", .int q.tail), ("count", .int q.count)]

/-- The machine with the fields of the ring in the object of a queue. -/
def Ring.putFields (q : Ring) (m : Machine) (object items : Ref) : Machine :=
  m.put object (.object (.known .queue) (q.fields items))

/-- A queue on the machine: an object with the fields of the ring, and the list of its slots. -/
structure Ring.On (q : Ring) (m : Machine) (object items : Ref) : Prop where
  fields : m.cell object = .object (.known .queue) (q.fields items)
  slots : m.cell items = .list q.slots
  stored : items < m.heap.size

namespace Ring.On

variable {call : Caller} {m n : Machine} {object items : Ref} {q : Ring}

/-- The object of a queue is not the list of its slots. -/
theorem ne (on : q.On m object items) : object ≠ items := by
  rintro rfl
  have both := on.fields.symm.trans on.slots
  cases both

theorem lt_size (on : q.On m object items) : object < m.heap.size :=
  Machine.lt_size_of_cell on.fields nofun

/-- What writes to no cell leaves a queue as it is. -/
theorem kept (on : q.On m object items) (grew : m.Grows [] n) : q.On n object items where
  fields := grew.cell_eq on.fields nofun List.not_mem_nil
  slots := (grew.cell items on.stored List.not_mem_nil).trans on.slots
  stored := Nat.lt_of_lt_of_le on.stored grew.size

/-! ### Reading and writing the fields -/

theorem field_capacity (on : q.On m object items) :
    field call (.ref object) "capacity" m = (.done (.int q.capacity), m) :=
  field_of_object on.fields rfl

theorem field_items (on : q.On m object items) :
    field call (.ref object) "items" m = (.done (.ref items), m) :=
  field_of_object on.fields rfl

theorem field_head (on : q.On m object items) :
    field call (.ref object) "head" m = (.done (.int q.head), m) :=
  field_of_object on.fields rfl

theorem field_tail (on : q.On m object items) :
    field call (.ref object) "tail" m = (.done (.int q.tail), m) :=
  field_of_object on.fields rfl

theorem field_count (on : q.On m object items) :
    field call (.ref object) "count" m = (.done (.int q.count), m) :=
  field_of_object on.fields rfl

/-- The list of the slots is written to. -/
theorem put_slots (on : q.On m object items) (slots : List Value) :
    ({ q with slots } : Ring).On (m.put items (.list slots)) object items where
  fields := (Machine.cell_put_of_ne on.ne).trans on.fields
  slots := Machine.cell_put_self on.stored
  stored := by simpa using on.stored

/-- The object is written to. -/
theorem put_fields (on : q.On m object items) (head tail : Nat) (count : Int) :
    ({ q with head, tail, count } : Ring).On
      (({ q with head, tail, count } : Ring).putFields m object items) object items where
  fields := Machine.cell_put_self on.lt_size
  slots := (Machine.cell_put_of_ne on.ne.symm).trans on.slots
  stored := by simpa [putFields] using on.stored

end Ring.On

namespace Act

variable {call : Caller} {m n : Machine} {p : Profile} {object items old : Ref} {q : Ring}
  {x : Value}

/-- The remainder of a natural number by a positive one. -/
theorem arithmetic_mod (call : Caller) {a b : Nat} (positive : 0 < b) (m : Machine) :
    arithmetic call .mod (.int a) (.int b) m = (.done (.int (a % b : Nat)), m) := by
  have nonzero : b ≠ 0 := by omega
  have whole : numberArithmetic? .mod (.int a) (.int b) m =
      (.done (some (.int (Int.fmod a b))), m) := by
    simp [numberArithmetic?, Value.int?, integerArithmetic, nonzero]
  unfold arithmetic arithmeticAs
  rw [bind_of_done whole, Int.fmod_eq_emod_of_nonneg _ (Int.natCast_nonneg b)]
  rfl

/-- A position of a list that can be stored is a position of its items. -/
theorem positionOf_int (call : Caller) (kind : String) {i : Nat} (h : i < storageLimit)
    (m : Machine) :
    positionOf call kind (.int i) m = (.done i, m) := by
  have small : (storageLimit : Int) ≤ largestLength := by decide
  have inside : outOfWord i = false := by
    simp only [outOfWord, Bool.or_eq_false_iff, decide_eq_false_iff_not]
    omega
  have asked : indexOf? call (.int i) m = (.done (some i), m) := rfl
  unfold positionOf
  rw [bind_of_done asked]
  dsimp only
  rw [inside]
  rfl

/-- Writing a slot writes to the list of the slots. -/
theorem setItem_slot (on : q.On m object items) (valid : q.Valid) {i : Nat} (h : i < q.capacity)
    (x : Value) : setItem call (.ref items) (.int i) x m =
      (.done (), m.put items (.list (q.slots.set i x))) := by
  have length := valid.slots
  have position := positionOf_int call "list" (Nat.lt_of_lt_of_le h valid.storable) m
  have replaced : replaceAt? q.slots i x = some (q.slots.set i x) := by
    have notNegative : ¬ (i : Int) < 0 := by omega
    have inside : ¬ (q.slots.length : Int) ≤ i := by omega
    simp [replaceAt?, notNegative, inside]
  unfold setItem
  simp only [load_bind, on.slots]
  rw [bind_of_done position, replaced]
  rfl

/-- Reading a slot reads the list of the slots. -/
theorem item_slot (on : q.On m object items) (valid : q.Valid) {i : Nat} (h : i < q.capacity) :
    item call (.ref items) (.int i) m = (.done (q.slots.getD i .null), m) := by
  have length := valid.slots
  have position := positionOf_int call "list" (Nat.lt_of_lt_of_le h valid.storable) m
  have inside : i < q.slots.length := length ▸ h
  have found : itemAt? q.slots i = some (q.slots.getD i .null) := by
    have notNegative : ¬ (i : Int) < 0 := by omega
    simp [itemAt?, notNegative, inside]
  unfold item
  simp only [load_bind, on.slots]
  unfold takeItem
  rw [bind_of_done position, found]
  rfl

/-- The tail moves on. -/
theorem advance_tail (plain : m.Plain) (on : q.On m object items) (valid : q.Valid) :
    Queue.advance call (.ref object) "tail" m =
      (.done (), ({ q with tail := q.next q.tail } : Ring).putFields m object items) := by
  have positive : 0 < q.capacity := Nat.lt_of_le_of_lt (Nat.zero_le _) valid.head
  unfold Queue.advance
  rw [bind_of_done on.field_tail, bind_of_done (arithmetic_add call q.tail 1 m),
    bind_of_done on.field_capacity, ← Int.natCast_succ,
    bind_of_done (arithmetic_mod call positive m), setAttribute_of_open plain on.fields rfl rfl]
  rfl

/-- The head moves on. -/
theorem advance_head (plain : m.Plain) (on : q.On m object items) (valid : q.Valid) :
    Queue.advance call (.ref object) "head" m =
      (.done (), ({ q with head := q.next q.head } : Ring).putFields m object items) := by
  have positive : 0 < q.capacity := Nat.lt_of_le_of_lt (Nat.zero_le _) valid.head
  unfold Queue.advance
  rw [bind_of_done on.field_head, bind_of_done (arithmetic_add call q.head 1 m),
    bind_of_done on.field_capacity, ← Int.natCast_succ,
    bind_of_done (arithmetic_mod call positive m), setAttribute_of_open plain on.fields rfl rfl]
  rfl

/-- One more item is counted. -/
theorem addToField_count (plain : m.Plain) (on : q.On m object items) :
    addToField call (.ref object) "count" (.int 1) m =
      (.done (), ({ q with count := q.count + 1 } : Ring).putFields m object items) :=
  addToField_apply plain on.fields rfl rfl rfl 1

/-- One item less is counted. -/
theorem subtractFromField_count (plain : m.Plain) (on : q.On m object items) :
    subtractFromField call (.ref object) "count" (.int 1) m =
      (.done (), ({ q with count := q.count - 1 } : Ring).putFields m object items) :=
  subtractFromField_apply plain on.fields rfl rfl rfl 1

/-! ## The bodies -/

/-- A snapshot is none of the two cells of a queue. -/
theorem not_mem_of_snapshot {fields : Fields} (on : q.On m object items)
    (snapshot : m.cell old = .snapshot fields) : old ∉ [object, items] := by
  intro mem
  simp only [List.mem_cons, List.not_mem_nil, or_false] at mem
  rcases mem with rfl | rfl
  · cases on.fields.symm.trans snapshot
  · cases on.slots.symm.trans snapshot

/-- A slot of a queue is written to, which leaves a queue. -/
theorem setItem_apply (call : Caller) (ready : m.Ready p) (on : q.On m object items)
    (valid : q.Valid) {i : Nat} (h : i < q.capacity) (x : Value) :
    ∃ n, setItem call (.ref items) (.int i) x m = (.done (), n) ∧ m.Grows [object, items] n ∧
      n.Ready p ∧ ({ q with slots := q.slots.set i x } : Ring).On n object items ∧
      ({ q with slots := q.slots.set i x } : Ring).Valid := by
  have grew : m.Grows [object, items] (m.put items (.list (q.slots.set i x))) :=
    .put m _ (List.mem_cons_of_mem _ List.mem_cons_self)
  exact ⟨_, setItem_slot on valid h x, grew, ready.grows grew, on.put_slots _, valid.storable,
    by simpa using valid.slots, valid.head, valid.tail⟩

/-- The fields of a queue are written to, which leaves a queue. -/
theorem putFields_grows (ready : m.Ready p) (on : q.On m object items) (head tail : Nat)
    (count : Int) :
    m.Grows [object, items] (({ q with head, tail, count } : Ring).putFields m object items) ∧
      (({ q with head, tail, count } : Ring).putFields m object items).Ready p ∧
      ({ q with head, tail, count } : Ring).On
        (({ q with head, tail, count } : Ring).putFields m object items) object items := by
  have grew : m.Grows [object, items]
      (({ q with head, tail, count } : Ring).putFields m object items) :=
    .put m _ List.mem_cons_self
  exact ⟨grew, ready.grows grew, on.put_fields head tail count⟩

/-- Putting an item into the slot at the tail, moving the tail on and counting the item. -/
theorem put_apply (call : Caller) (ready : m.Ready p) (on : q.On m object items)
    (valid : q.Valid) (x : Value) :
    ∃ m₁ m₂ n, setItem call (.ref items) (.int q.tail) x m = (.done (), m₁) ∧
      Queue.advance call (.ref object) "tail" m₁ = (.done (), m₂) ∧
      addToField call (.ref object) "count" (.int 1) m₂ = (.done (), n) ∧
      m.Grows [object, items] n ∧ (q.put x).On n object items := by
  obtain ⟨m₁, written, grew₁, ready₁, on₁, valid₁⟩ :=
    setItem_apply call ready on valid valid.tail x
  obtain ⟨grew₂, ready₂, on₂⟩ := putFields_grows ready₁ on₁ q.head (q.next q.tail) q.count
  obtain ⟨grew₃, -, on₃⟩ := putFields_grows ready₂ on₂ q.head (q.next q.tail) (q.count + 1)
  exact ⟨_, _, _, written, advance_tail ready₁.plain on₁ valid₁,
    addToField_count ready₂.plain on₂, (grew₁.trans grew₂).trans grew₃, on₃⟩

/-- Emptying the slot at the head, moving the head on and counting one item less. -/
theorem take_apply (call : Caller) (ready : m.Ready p) (on : q.On m object items)
    (valid : q.Valid) :
    ∃ m₁ m₂ n, setItem call (.ref items) (.int q.head) .null m = (.done (), m₁) ∧
      Queue.advance call (.ref object) "head" m₁ = (.done (), m₂) ∧
      subtractFromField call (.ref object) "count" (.int 1) m₂ = (.done (), n) ∧
      m.Grows [object, items] n ∧ q.take.On n object items := by
  obtain ⟨m₁, written, grew₁, ready₁, on₁, valid₁⟩ :=
    setItem_apply call ready on valid valid.head .null
  obtain ⟨grew₂, ready₂, on₂⟩ := putFields_grows ready₁ on₁ (q.next q.head) q.tail q.count
  obtain ⟨grew₃, -, on₃⟩ := putFields_grows ready₂ on₂ (q.next q.head) q.tail (q.count - 1)
  exact ⟨_, _, _, written, advance_head ready₁.plain on₁ valid₁,
    subtractFromField_count ready₂.plain on₂, (grew₁.trans grew₂).trans grew₃, on₃⟩

/-- The body of putting an item in agrees with the ring. -/
theorem enqueueBody_agrees (ready : m.Ready p) (on : q.On m object items) (valid : q.Valid)
    (snapshot : m.cell old = .snapshot [("count", .int q.count), ("item", x)]) :
    Agrees m [object, items] (Queue.enqueueBody call (.ref old) (.ref object) m) (q.enqueue p x)
      fun after v n => v = .null ∧ after.On n object items := by
  unfold Queue.enqueueBody Ring.enqueue
  rw [bind_of_done on.field_count, bind_of_done on.field_capacity,
    bind_of_done (compare_int call .lt q.count q.capacity m)]
  refine .demand (assertThat_agrees ready .pre _ _) ?_
  rintro _ - rfl -
  obtain ⟨m₁, m₂, n, written, moved, counted, grew, put⟩ := put_apply call ready on valid x
  have kept := grew.cell_eq snapshot nofun (not_mem_of_snapshot on snapshot)
  rw [bind_of_done (field_of_snapshot snapshot rfl), bind_of_done on.field_items,
    bind_of_done on.field_tail, bind_of_done written, bind_of_done moved, bind_of_done counted,
    bind_of_done put.field_count, bind_of_done (field_of_snapshot kept rfl),
    bind_of_done (arithmetic_add call q.count 1 n), bind_of_done (compare_int call .eq _ _ n)]
  have same : Comparison.eq.onInts (q.put x).count (q.count + 1) = true := by
    simp [Comparison.onInts, Ring.put]
  rw [same, bind_of_done (assertThat_of_true call .post _ n)]
  exact .of_done rfl grew ⟨rfl, put⟩

/-- The body of taking an item out agrees with the ring. -/
theorem dequeueBody_agrees (ready : m.Ready p) (on : q.On m object items) (valid : q.Valid)
    (snapshot : m.cell old = .snapshot [("count", .int q.count)]) :
    Agrees m [object, items] (Queue.dequeueBody call (.ref old) (.ref object) m) (q.dequeue p)
      fun after v n => v = after.1 ∧ after.2.On n object items := by
  unfold Queue.dequeueBody Ring.dequeue
  rw [bind_of_done on.field_count, bind_of_done (compare_int call .gt q.count 0 m)]
  refine .demand (assertThat_agrees ready .pre _ _) ?_
  rintro _ - rfl -
  obtain ⟨m₁, m₂, n, written, moved, counted, grew, take⟩ := take_apply call ready on valid
  have kept := grew.cell_eq snapshot nofun (not_mem_of_snapshot on snapshot)
  rw [bind_of_done on.field_items, bind_of_done on.field_head,
    bind_of_done (item_slot on valid valid.head), bind_of_done on.field_items,
    bind_of_done on.field_head, bind_of_done written, bind_of_done moved, bind_of_done counted,
    bind_of_done take.field_count, bind_of_done (field_of_snapshot kept rfl),
    bind_of_done (arithmetic_sub call q.count 1 n), bind_of_done (compare_int call .eq _ _ n)]
  have same : Comparison.eq.onInts q.take.count (q.count - 1) = true := by
    simp [Comparison.onInts, Ring.take]
  rw [same, bind_of_done (assertThat_of_true call .post _ n)]
  exact .of_done rfl grew ⟨rfl, take⟩

/-! ## The invariant -/

/-- A field holds a position in the ring if it is neither negative nor as large as the capacity. -/
theorem inRing_int {capacity i : Int} {name : String}
    (position : field call (.ref object) name m = (.done (.int i), m))
    (room : field call (.ref object) "capacity" m = (.done (.int capacity), m)) :
    Queue.inRing call (.ref object) name m =
      (.done (.bool (decide (0 ≤ i) && decide (i < capacity))), m) := by
  unfold Queue.inRing
  rw [bind_of_done position, bind_of_done (holds_int call .le 0 i m)]
  by_cases negative : 0 ≤ i
  · rw [if_pos (by simpa [Comparison.onInts] using negative), bind_of_done room, compare_int]
    simp [Comparison.onInts, negative]
  · rw [if_neg (by simpa [Comparison.onInts] using negative)]
    simp only [negative, decide_false, Bool.false_and]
    rfl

/-- A field with a position in the ring is found to hold one. -/
theorem inRing_of_lt (on : q.On m object items) {name : String} {i : Nat}
    (position : field call (.ref object) name m = (.done (.int i), m)) (h : i < q.capacity) :
    Queue.inRing call (.ref object) name m = (.done (.bool true), m) := by
  have notNegative : (0 : Int) ≤ i := Int.natCast_nonneg i
  have inside : (i : Int) < q.capacity := Int.ofNat_lt.2 h
  rw [inRing_int position on.field_capacity, decide_eq_true notNegative, decide_eq_true inside,
    Bool.and_self]

/-- The invariant of a queue that holds no more than it can is found to hold. -/
theorem queueInvariant_apply (on : q.On m object items) (valid : q.Valid)
    (fits : q.count ≤ q.capacity) :
    Queue.invariant call (.ref object) m = (.done .null, m) := by
  have few : Comparison.le.onInts q.count q.capacity = true := by
    simpa [Comparison.onInts] using fits
  unfold Queue.invariant
  rw [bind_of_done on.field_count, bind_of_done on.field_capacity,
    bind_of_done (compare_int call .le q.count q.capacity m), few,
    bind_of_done (assertThat_of_true call .pre _ m),
    bind_of_done (inRing_of_lt on on.field_head valid.head),
    bind_of_done (assertThat_of_true call .pre _ m),
    bind_of_done (inRing_of_lt on on.field_tail valid.tail),
    bind_of_done (assertThat_of_true call .pre _ m)]
  rfl

/-- The checks of a queue that holds no more than it can pass. -/
theorem checksPass_queue {d : Nat} (ready : m.Ready .checked) (on : q.On m object items)
    (valid : q.Valid) (fits : q.count ≤ q.capacity) :
    ChecksPass (callWithin (d + 1)) (.ref object) m := by
  intro n e c grew
  have ready' := ready.grows grew
  have on' := on.kept grew
  have handled : q.On { n with handling := e } object items := ⟨on'.fields, on'.slots, on'.stored⟩
  refine checkAt_of_holds (k := .queue) (r := .queueInvariant) (ready'.plain.handling e)
    ready'.active ?_ rfl ?_ c
  · rw [Machine.classOf_ref, handled.fields]
    rfl
  · intro k grows
    exact queueInvariant_apply (handled.kept grows) valid fits

/-! ## The operations -/

/-- The body of putting an item in agrees with the ring also under its contract. -/
theorem runEnqueue_agrees {d : Nat} (ready : m.Ready p) (on : q.On m object items)
    (valid : q.Valid) (fits : p = .checked → q.count ≤ q.capacity)
    (snapshot : m.cell old = .snapshot [("count", .int q.count), ("item", x)]) :
    Agrees m [object, items] (runActive (callWithin (d + 1)) (.ref object) (.ref old)
      (Queue.enqueueBody (callWithin (d + 1))) m) (q.enqueue p x)
      fun after v n => v = .null ∧ after.On n object items := by
  rw [runActive_eq ready]
  refine runUnder_agrees .strict ?_ ?_ ?_ ?_
  · rintro rfl
    exact checksPass_queue ready on valid (fits rfl)
  · intro n grows
    exact enqueueBody_agrees (ready.grows grows) (on.kept grows) valid
      (grows.cell_eq snapshot nofun List.not_mem_nil)
  · rintro rfl b v n ok grows ⟨-, holds⟩
    obtain ⟨room, rfl⟩ := Ring.enqueue_eq_ok_iff.1 ok
    exact checksPass_queue (ready.grows grows) holds (valid.put x) (room rfl)
  · rintro b v n k - grows ⟨null, holds⟩
    exact ⟨null, holds.kept grows⟩

/-- Putting an item in agrees with the ring. -/
theorem enqueue_agrees {d : Nat} (ready : m.Ready p) (on : q.On m object items) (valid : q.Valid)
    (fits : p = .checked → q.count ≤ q.capacity) (x : Value) :
    Agrees m [object, items] (Queue.enqueue (callWithin (d + 1)) (.ref object) x m)
      (q.enqueue p x) fun after v n => v = .null ∧ after.On n object items := by
  have grew := Machine.Grows.push [] m (.snapshot [("count", .int q.count), ("item", x)])
  have ran := runEnqueue_agrees (d := d) (ready.grows grew) (on.kept grew) valid fits
    (Machine.cell_push_size m _)
  unfold Queue.enqueue
  rw [bind_of_done on.field_count, bind_of_done (newSnapshot_apply ready.plain rfl)]
  exact .of_grows grew (ran.followed fun b v n holds => ⟨.null, rfl, rfl, holds.2⟩)

/-- Taking an item out agrees with the ring. -/
theorem dequeue_agrees {d : Nat} (ready : m.Ready p) (on : q.On m object items) (valid : q.Valid)
    (fits : p = .checked → q.count ≤ q.capacity) :
    Agrees m [object, items] (Queue.dequeue (callWithin (d + 1)) (.ref object) m) (q.dequeue p)
      fun after v n => v = after.1 ∧ after.2.On n object items := by
  have grew := Machine.Grows.push [] m (.snapshot [("count", .int q.count)])
  have ready' := ready.grows grew
  have on' := on.kept grew
  unfold Queue.dequeue
  rw [bind_of_done on.field_count, bind_of_done (newSnapshot_apply ready.plain rfl),
    runActive_eq ready']
  refine .of_grows grew (runUnder_agrees .strict ?_ ?_ ?_ ?_)
  · rintro rfl
    exact checksPass_queue ready' on' valid (fits rfl)
  · intro n grows
    exact dequeueBody_agrees (ready'.grows grows) (on'.kept grows) valid
      (grows.cell_eq (Machine.cell_push_size m _) nofun List.not_mem_nil)
  · rintro rfl b v n ok grows ⟨-, holds⟩
    obtain ⟨some, rfl⟩ := Ring.dequeue_eq_ok_iff.1 ok
    refine checksPass_queue (ready'.grows grows) holds valid.take ?_
    have := fits rfl
    simp only [Ring.take]
    omega
  · rintro b v n k - grows ⟨result, holds⟩
    exact ⟨result, holds.kept grows⟩

/-! ## Calls of the methods -/

/-- Calling the method that puts an item in agrees with the ring. -/
theorem operate_enqueue_agrees (ready : m.Ready p) (on : q.On m object items) (valid : q.Valid)
    (fits : p = .checked → q.count ≤ q.capacity) (x : Value) :
    Agrees m [object, items] (Session.operate (.ref object) "enqueue" [x] [] m) (q.enqueue p x)
      fun after v n => v = .null ∧ after.On n object items := by
  refine operate_agrees .queueEnqueue ready.plain on.fields rfl rfl rfl rfl nofun [x] ?_
  intro n grew
  exact enqueue_agrees (d := callDepth - 3) (ready.grows grew) (on.kept grew) valid fits x

/-- Calling the method that takes an item out agrees with the ring. -/
theorem operate_dequeue_agrees (ready : m.Ready p) (on : q.On m object items) (valid : q.Valid)
    (fits : p = .checked → q.count ≤ q.capacity) :
    Agrees m [object, items] (Session.operate (.ref object) "dequeue" [] [] m) (q.dequeue p)
      fun after v n => v = after.1 ∧ after.2.On n object items := by
  refine operate_agrees .queueDequeue ready.plain on.fields rfl rfl rfl rfl nofun [] ?_
  intro n grew
  exact dequeue_agrees (d := callDepth - 3) (ready.grows grew) (on.kept grew) valid fits

/-! ## The length -/

/-- What a count comes to as a length: no length is negative, and none exceeds the largest one. -/
def lengthOf (count : Int) : Except Fault Nat :=
  if count < 0 then
    .error (.fresh (.known (.fault .valueError)) [.text "__len__() should return >= 0"] [])
  else if largestLength < count then
    .error (.fresh (.known (.fault .overflowError))
      [.text "cannot fit 'int' into an index-sized integer"] [])
  else .ok count.toNat

/-- A number of items that can be stored is a length. -/
theorem lengthOf_natCast {count : Nat} (few : count ≤ storageLimit) :
    lengthOf count = .ok count := by
  have small : (storageLimit : Int) ≤ largestLength := by decide
  have notNegative : ¬ (count : Int) < 0 := by omega
  have notLarge : ¬ largestLength < (count : Int) := by omega
  rw [lengthOf, if_neg notNegative, if_neg notLarge]
  rfl

/-- An integer is taken as a length. -/
theorem asLength_agrees (free : m.handling = none) (count : Int) :
    Agrees m [] (asLength call (.int count) m) (lengthOf count) fun k v n => v = k ∧ n = m := by
  have asked : indexOf call (.int count) m = (.done count, m) := rfl
  have named : typeName (.int count) m = (.done "int", m) := rfl
  unfold asLength lengthOf
  rw [bind_of_done asked]
  by_cases negative : count < 0
  · rw [if_pos negative, if_pos negative, fail_of_handling free]
    exact .of_raised rfl (.push [] m _) (Machine.cell_push_size m _)
  rw [if_neg negative, if_neg negative]
  by_cases large : largestLength < count
  · rw [if_pos large, if_pos large, failWord, bind_of_done named, fail_of_handling free]
    exact .of_raised rfl (.push [] m _) (Machine.cell_push_size m _)
  · rw [if_neg large, if_neg large]
    exact .of_done rfl (.refl [] m) ⟨rfl, rfl⟩

/-- The length of a queue is its count, if that is the length of anything. -/
theorem length_agrees {fields : Fields} {count : Int} (ready : m.Ready p)
    (cell : m.cell object = .object (.known .queue) fields)
    (own : fields.get? "count" = some (.int count)) :
    Agrees m [] (Act.length Act.call (.ref object) m) (lengthOf count)
      fun k v n => v = k ∧ n = m := by
  have cls : m.classOf (.ref object) = .known .queue := by
    rw [Machine.classOf_ref, cell]
    rfl
  have through : callThrough Act.call (.ref object) (.routine .queueLength) [] [] m =
      (.done (.int count), m) := field_of_object cell own
  have special : callSpecial? Act.call (.ref object) "len" [] m =
      (.done (some (.int count)), m) := by
    unfold callSpecial?
    rw [bind_of_done (special?_of_plain ready.plain cls _)]
    exact bind_of_done through _
  have owned : Agrees m [] (ownLength? Act.call (.ref object) m) (lengthOf count)
      fun k v n => v = some k ∧ n = m := by
    unfold ownLength?
    rw [bind_of_done special]
    exact (asLength_agrees ready.free count).followed fun k _ n h => ⟨_, rfl, h.1 ▸ rfl, h.2⟩
  have found : length? Act.call (.ref object) m = ownLength? Act.call (.ref object) m := by
    unfold length?
    simp only [load_bind, cell]
  unfold Act.length
  refine .followed (x := length? Act.call (.ref object)) (found ▸ owned) ?_
  rintro k _ n ⟨rfl, rfl⟩
  exact ⟨k, rfl, rfl, rfl⟩

end Act

end Covenant
