import Covenant.Proofs.Demo.Queue.Operation

/-!
# New queues

Calling the class of queues with an integer makes a queue with an empty ring of that capacity
(`makeQueue_apply`). In a process that checks, a capacity that is not positive is refused
(`makeQueue_of_nonpositive`); one that does not makes a queue without any slots from it. A capacity
with more slots than a list can have fails with the fault that tells so, whether the process checks
or not (`makeQueue_of_many`).
-/

namespace Covenant

/-- A queue on the machine as it was made: an object with the fields of a new queue, and the list of
its slots. -/
structure Act.Queue.New (capacity : Int) (m : Machine) (object items : Ref) : Prop where
  fields : m.cell object = .object (.known .queue) [("capacity", .int capacity),
    ("items", .ref items), ("head", .int 0), ("tail", .int 0), ("count", .int 0)]
  slots : m.cell items = .list (List.replicate capacity.toNat .null)
  stored : items < m.heap.size

namespace Act

variable {call : Caller} {m : Machine} {p : Profile} {object items : Ref}

/-- A new queue with a natural capacity has an empty ring. -/
theorem Queue.New.on {capacity : Nat} (new : Queue.New capacity m object items) :
    (Ring.fresh capacity).On m object items :=
  ⟨new.fields, new.slots, new.stored⟩

/-- The fault of a queue without room. -/
def noCapacity : Fault :=
  Side.pre.violation "Queue capacity must be positive"

/-- The slots of a new queue are made beside the object. -/
theorem newSlots_apply (call : Caller) (ready : m.Ready p) {capacity : Int}
    (storable : isStorable capacity = true) :
    ∃ items n, (do
        arithmetic call .mul (← allocValue (.list [.null])) (.int capacity)) m =
        (.done (.ref items), n) ∧
      m.Grows [] n ∧ m.heap.size ≤ items ∧ items < n.heap.size ∧
      n.cell items = .list (List.replicate capacity.toNat .null) := by
  have grew := Machine.Grows.push [] m (.list [.null])
  have made := arithmetic_repeat call (ready.grows grew).plain
    (Machine.cell_push_size m _) storable
  refine ⟨_, _, made, grew.trans (.push [] _ _), ?_, ?_, Machine.cell_push_size _ _⟩
  · simp
  · simp

/-- A capacity that is positive if the process checks is accepted. -/
theorem demandCapacity_apply (call : Caller) (ready : m.Ready p) {capacity : Int}
    (met : p = .checked → 0 < capacity) :
    (do
      assertThat call .pre (← compare call .gt (.int capacity) (.int 0))
        "Queue capacity must be positive") m = (.done (), m) := by
  rw [bind_of_done (compare_int call .gt capacity 0 m)]
  cases p with
  | unchecked => exact ifChecked_of_unchecked ready.active
  | checked =>
    have holds : Comparison.gt.onInts capacity 0 = true := by
      simpa [Comparison.onInts] using met rfl
    rw [holds, assertThat_of_true]

/-- A new object is started as a queue with an empty ring. -/
theorem queueStart_apply (call : Caller) (ready : m.Ready p)
    (cell : m.cell object = .object (.known .queue) []) {capacity : Int}
    (met : p = .checked → 0 < capacity) (storable : isStorable capacity = true) :
    ∃ n items, Queue.start call (.ref object) (.int capacity) m = (.done (), n) ∧
      m.Grows [object] n ∧ m.heap.size ≤ items ∧ Queue.New capacity n object items := by
  obtain ⟨m₁, set₁, grew₁, ready₁, cell₁⟩ :=
    setField_apply call "capacity" ready cell rfl rfl (.int capacity)
  obtain ⟨items, m₂, made, grew₂, past, stored, slots⟩ := newSlots_apply call ready₁ storable
  have there := Machine.lt_size_of_cell cell₁ (by rintro ⟨⟩)
  have cell₂ := (grew₂.cell object there List.not_mem_nil).trans cell₁
  obtain ⟨m₃, set₃, grew₃, ready₃, cell₃⟩ :=
    setField_apply call "items" (ready₁.grows grew₂) cell₂ rfl rfl (.ref items)
  obtain ⟨m₄, set₄, grew₄, ready₄, cell₄⟩ :=
    setField_apply call "head" ready₃ cell₃ rfl rfl (.int 0)
  obtain ⟨m₅, set₅, grew₅, ready₅, cell₅⟩ :=
    setField_apply call "tail" ready₄ cell₄ rfl rfl (.int 0)
  obtain ⟨n, set₆, grew₆, -, cell₆⟩ := setField_apply call "count" ready₅ cell₅ rfl rfl (.int 0)
  have grew := ((grew₃.trans grew₄).trans grew₅).trans grew₆
  have apart : items ≠ object := Nat.ne_of_gt (Nat.lt_of_lt_of_le there past)
  refine ⟨n, items, ?_, (grew₁.trans grew₂.weaken).trans grew, Nat.le_trans grew₁.size past,
    cell₆, ?_, Nat.lt_of_lt_of_le stored grew.size⟩
  · unfold Queue.start
    rw [← bind_assoc, bind_of_done (demandCapacity_apply call ready met), bind_of_done set₁,
      ← bind_assoc, bind_of_done made, bind_of_done set₃, bind_of_done set₄, bind_of_done set₅,
      set₆]
  · rw [grew.cell items stored (by simpa using apart), slots]

/-! ## Calling the class -/

/-- An integer that queues can have as their capacity makes an empty queue. -/
theorem makeQueue_apply (ready : m.Ready p) {capacity : Int} (met : p = .checked → 0 < capacity)
    (storable : isStorable capacity = true) :
    ∃ n items, Act.call (.cls (.known .queue)) [.int capacity] [] m =
        (.done (.ref m.heap.size), n) ∧
      m.Grows [] n ∧ m.heap.size < items ∧ Queue.New capacity n m.heap.size items := by
  have grew := Machine.Grows.push [] m (.object (.known .queue) [])
  obtain ⟨n, items, ran, grows, past, new⟩ := queueStart_apply (callWithin (callDepth - 2))
    (ready.grows grew) (Machine.cell_push_size m _) met storable
  have started : Agrees (m.push (.object (.known .queue) [])) [m.heap.size]
      (callWithin (callDepth - 1) (.routine .queueStart) [.ref m.heap.size, .int capacity] []
        (m.push (.object (.known .queue) []))) (.ok ())
      fun _ v n => v = .null ∧ Queue.New capacity n m.heap.size items :=
    .of_done (bind_of_done ran _) grows ⟨rfl, new⟩
  obtain ⟨v, n, made, grows, rfl, new⟩ := call_class_agrees ready.plain rfl rfl rfl started
  exact ⟨n, items, made, grows, Nat.lt_of_succ_le (by simpa using past), new⟩

/-- A process that checks makes no queue with a capacity that is not positive. -/
theorem makeQueue_of_nonpositive (ready : m.Ready .checked) {capacity : Int} (h : capacity ≤ 0) :
    ∃ e n, Act.call (.cls (.known .queue)) [.int capacity] [] m = (.raised e, n) ∧
      m.Grows [] n ∧ n.cell e = .fault noCapacity := by
  have grew := Machine.Grows.push [] m (.object (.known .queue) [])
  have holds : Comparison.gt.onInts capacity 0 = false := by
    simpa [Comparison.onInts] using h
  have ran : Agrees (m.push (.object (.known .queue) [])) []
      (Queue.start (callWithin (callDepth - 2)) (.ref m.heap.size) (.int capacity)
        (m.push (.object (.known .queue) []))) (.error noCapacity : Except Fault Unit)
      fun _ _ _ => False := by
    unfold Queue.start
    rw [bind_of_done (compare_int _ .gt capacity 0 _), holds]
    obtain ⟨e, n, raised, grows, cell⟩ := assertThat_agrees (ready.grows grew) .pre false
      "Queue capacity must be positive"
    exact .of_raised (bind_of_raised raised _) grows cell
  obtain ⟨e, n, ran, grows, cell⟩ := ran
  have started : Agrees (m.push (.object (.known .queue) [])) [m.heap.size]
      (callWithin (callDepth - 1) (.routine .queueStart) [.ref m.heap.size, .int capacity] []
        (m.push (.object (.known .queue) []))) (.error noCapacity : Except Fault Unit)
      fun _ v _ => v = .null ∧ True :=
    .of_raised (bind_of_raised ran _) grows cell
  exact call_class_agrees ready.plain rfl rfl rfl started

/-- No process makes a queue with more slots than a list can have. -/
theorem makeQueue_of_many (ready : m.Ready p) {capacity : Int} (met : p = .checked → 0 < capacity)
    (h : isStorable capacity = false) :
    ∃ e n, Act.call (.cls (.known .queue)) [.int capacity] [] m = (.raised e, n) ∧
      m.Grows [] n ∧ n.cell e = .fault (tooManyItems capacity) := by
  have grew := Machine.Grows.push [] m (.object (.known .queue) [])
  obtain ⟨m₁, set, grew₁, ready₁, -⟩ := setField_apply (callWithin (callDepth - 2))
    "capacity" (ready.grows grew) (Machine.cell_push_size m _) rfl rfl (.int capacity)
  have slot := Machine.Grows.push [] m₁ (.list [.null])
  have failed := arithmetic_repeat_of_many (callWithin (callDepth - 2)) (ready₁.grows slot).plain
    (ready₁.grows slot).free (Machine.cell_push_size m₁ _) h
  have ran : Queue.start (callWithin (callDepth - 2)) (.ref m.heap.size) (.int capacity)
      (m.push (.object (.known .queue) [])) =
      (.raised (m₁.push (.list [.null])).heap.size,
        (m₁.push (.list [.null])).push (.fault (tooManyItems capacity))) := by
    unfold Queue.start
    rw [← bind_assoc, bind_of_done (demandCapacity_apply _ (ready.grows grew) met),
      bind_of_done set, bind_of_done (allocValue_apply _ m₁), bind_of_raised failed]
  have made : Act.call (.cls (.known .queue)) [.int capacity] [] m = _ :=
    (call_class (d := callDepth - 1) ready.plain rfl rfl [.int capacity]).trans
      (bind_of_raised (startWith_of_raised rfl (bind_of_raised ran _)) _)
  exact ⟨_, _, made, (grew₁.trans slot.weaken).of_push.trans (.push [] _ _),
    Machine.cell_push_size _ _⟩

/-- A capacity above the number of items that a list can have makes no queue. -/
theorem makeQueue_of_storageLimit_lt (ready : m.Ready p) {capacity : Int}
    (many : storageLimit < capacity) :
    ∃ e n, Act.call (.cls (.known .queue)) [.int capacity] [] m = (.raised e, n) ∧
      n.cell e = .fault (tooManyItems capacity) := by
  have large : isStorable capacity = false := by
    simp only [isStorable, Bool.and_eq_false_iff, decide_eq_false_iff_not]
    omega
  have positive : 0 < capacity := by omega
  obtain ⟨e, n, raised, -, cell⟩ := makeQueue_of_many ready (fun _ => positive) large
  exact ⟨e, n, raised, cell⟩

end Act

end Covenant
