import Covenant.Proofs.Demo.Queue.Start

/-!
# Queues without slots

A process that does not check makes a queue of any capacity that the machine can bear. From one that
is not positive it makes a queue without slots, which stays as it was made: there is no slot to put
an item into (`operate_enqueue_of_vacant`) and none to take one out of
(`operate_dequeue_of_vacant`), and both fail before anything is written.
-/

namespace Covenant

/-- The fault of writing to a slot that there is not. -/
def Ring.unwritten : Fault :=
  .fresh (.known (.fault .indexError)) [.text "list assignment index out of range"] []

/-- The fault of reading a slot that there is not. -/
def Ring.unread : Fault :=
  .fresh (.known (.fault .indexError)) [.text "list index out of range"] []

namespace Act

variable {call : Caller} {m : Machine} {object items old : Ref} {capacity : Int}

namespace Queue.New

/-- What writes to no cell leaves a new queue as it is. -/
theorem kept {n : Machine} (new : Queue.New capacity m object items) (grew : m.Grows [] n) :
    Queue.New capacity n object items where
  fields := grew.cell_eq new.fields nofun List.not_mem_nil
  slots := (grew.cell items new.stored List.not_mem_nil).trans new.slots
  stored := Nat.lt_of_lt_of_le new.stored grew.size

/-- A queue of a capacity that is not positive has no slots. -/
theorem no_slots (new : Queue.New capacity m object items) (vacant : capacity ≤ 0) :
    m.cell items = .list [] := by
  rw [new.slots, Int.toNat_of_nonpos vacant]
  rfl

end Queue.New

/-- A list without items has none to write over. -/
theorem setItem_of_empty (free : m.handling = none) (slots : m.cell items = .list [])
    (x : Value) : setItem call (.ref items) (.int 0) x m =
      (.raised m.heap.size, m.push (.fault Ring.unwritten)) := by
  have position := positionOf_int call "list" (i := 0) (by decide) m
  unfold setItem
  simp only [load_bind, slots]
  exact (bind_of_done position _).trans (fail_of_handling free .indexError _)

/-- A list without items has none to read. -/
theorem item_of_empty (free : m.handling = none) (slots : m.cell items = .list []) :
    item call (.ref items) (.int 0) m = (.raised m.heap.size, m.push (.fault Ring.unread)) := by
  have position := positionOf_int call "list" (i := 0) (by decide) m
  unfold item
  simp only [load_bind, slots]
  exact (bind_of_done position _).trans (fail_of_handling free .indexError _)

/-- The body of putting an item in finds no slot for it. -/
theorem enqueueBody_of_vacant {x : Value} (ready : m.Ready .unchecked)
    (new : Queue.New capacity m object items) (vacant : capacity ≤ 0)
    (snapshot : m.cell old = .snapshot [("count", .int 0), ("item", x)]) :
    Agrees m [] (Queue.enqueueBody call (.ref old) (.ref object) m)
      (.error Ring.unwritten : Except Fault Unit) fun _ _ _ => False := by
  unfold Queue.enqueueBody
  rw [bind_of_done (field_of_object new.fields rfl), bind_of_done (field_of_object new.fields rfl),
    bind_of_done (compare_int call .lt 0 capacity m), assertThat,
    bind_of_done (ifChecked_of_unchecked ready.active),
    bind_of_done (field_of_snapshot snapshot rfl), bind_of_done (field_of_object new.fields rfl),
    bind_of_done (field_of_object new.fields rfl),
    bind_of_raised (setItem_of_empty ready.free (new.no_slots vacant) x)]
  exact .of_raised rfl (.push [] m _) (Machine.cell_push_size m _)

/-- The body of taking an item out finds no slot with one. -/
theorem dequeueBody_of_vacant (ready : m.Ready .unchecked)
    (new : Queue.New capacity m object items) (vacant : capacity ≤ 0) :
    Agrees m [] (Queue.dequeueBody call (.ref old) (.ref object) m)
      (.error Ring.unread : Except Fault Unit) fun _ _ _ => False := by
  unfold Queue.dequeueBody
  rw [bind_of_done (field_of_object new.fields rfl), bind_of_done (compare_int call .gt 0 0 m),
    assertThat, bind_of_done (ifChecked_of_unchecked ready.active),
    bind_of_done (field_of_object new.fields rfl), bind_of_done (field_of_object new.fields rfl),
    bind_of_raised (item_of_empty ready.free (new.no_slots vacant))]
  exact .of_raised rfl (.push [] m _) (Machine.cell_push_size m _)

/-- Nothing can be put into a queue without slots. -/
theorem enqueue_of_vacant (ready : m.Ready .unchecked) (new : Queue.New capacity m object items)
    (vacant : capacity ≤ 0) (x : Value) :
    Agrees m [] (Queue.enqueue call (.ref object) x m)
      (.error Ring.unwritten : Except Fault Unit) fun _ _ _ => False := by
  have grew := Machine.Grows.push [] m (.snapshot [("count", .int 0), ("item", x)])
  have ran : Agrees (m.push (.snapshot [("count", .int 0), ("item", x)])) []
      (runActive call (.ref object) (.ref m.heap.size) (Queue.enqueueBody call)
        (m.push (.snapshot [("count", .int 0), ("item", x)])))
      (.error Ring.unwritten : Except Fault Unit) fun _ _ _ => False := by
    rw [runActive_eq (ready.grows grew)]
    exact enqueueBody_of_vacant (ready.grows grew) (new.kept grew) vacant
      (Machine.cell_push_size m _)
  unfold Queue.enqueue
  rw [bind_of_done (field_of_object new.fields rfl),
    bind_of_done (newSnapshot_apply ready.plain rfl)]
  exact .of_grows grew (ran.followed fun _ _ _ none => none.elim)

/-- Nothing can be taken out of a queue without slots. -/
theorem dequeue_of_vacant (ready : m.Ready .unchecked) (new : Queue.New capacity m object items)
    (vacant : capacity ≤ 0) :
    Agrees m [] (Queue.dequeue call (.ref object) m) (.error Ring.unread : Except Fault Unit)
      fun _ _ _ => False := by
  have grew := Machine.Grows.push [] m (.snapshot [("count", .int 0)])
  unfold Queue.dequeue
  rw [bind_of_done (field_of_object new.fields rfl),
    bind_of_done (newSnapshot_apply ready.plain rfl), runActive_eq (ready.grows grew)]
  exact .of_grows grew (dequeueBody_of_vacant (ready.grows grew) (new.kept grew) vacant)

/-- Calling the method that puts an item in fails where there is no slot. -/
theorem operate_enqueue_of_vacant (ready : m.Ready .unchecked)
    (new : Queue.New capacity m object items) (vacant : capacity ≤ 0) (x : Value) :
    Agrees m [] (Session.operate (.ref object) "enqueue" [x] [] m)
      (.error Ring.unwritten : Except Fault Unit) fun _ _ _ => False := by
  refine operate_agrees .queueEnqueue ready.plain new.fields rfl rfl rfl rfl nofun [x] ?_
  intro n grew
  exact enqueue_of_vacant (ready.grows grew) (new.kept grew) vacant x

/-- Calling the method that takes an item out fails where there is no slot. -/
theorem operate_dequeue_of_vacant (ready : m.Ready .unchecked)
    (new : Queue.New capacity m object items) (vacant : capacity ≤ 0) :
    Agrees m [] (Session.operate (.ref object) "dequeue" [] [] m)
      (.error Ring.unread : Except Fault Unit) fun _ _ _ => False := by
  refine operate_agrees .queueDequeue ready.plain new.fields rfl rfl rfl rfl nofun [] ?_
  intro n grew
  exact dequeue_of_vacant (ready.grows grew) (new.kept grew) vacant

end Act

end Covenant
