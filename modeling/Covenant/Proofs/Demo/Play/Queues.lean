import Covenant.Proofs.Demo.Play.Deals

/-!
# Moves with queues are played

A queue with slots is a ring, whose operations agree with those on the stage item by item
(`Lane.On.enqueue_agrees`, `Lane.On.dequeue_agrees`); one without slots fails as it does there. The
other objects of a scene stay as they are when one queue is operated (`Shows.queued`) or made
(`Shows.queueMade`), so that every move is played (`Shows.plays`).
-/

namespace Covenant

open Act

/-! ## One queue -/

namespace Lane

variable {p : Profile} {q : Lane} {m n : Machine} {object items : Ref} {x : Item} {v : Value}
  {named : Item → Option Value} {values : List Value} {capacity : Int}

/-- The ring of a queue with slots. -/
def ring (q : Lane) (values : List Value) : Ring :=
  ⟨q.capacity.toNat, values, q.head, q.tail, q.count⟩

/-! ### Fields that are kept regular -/

theorem Regular.fresh (storable : isStorable capacity = true) (met : p = .checked → 0 < capacity) :
    (fresh capacity).Regular p where
  storable := storable
  slots := List.length_replicate
  head := fun positive => Int.lt_toNat.2 positive
  tail := fun positive => Int.lt_toNat.2 positive
  vacant := fun _ => rfl
  fits := fun checked => ⟨met checked, Int.le_of_lt (met checked)⟩

theorem next_lt (positive : 0 < q.capacity) (i : Nat) : q.next i < q.capacity.toNat :=
  Nat.mod_lt _ (Int.lt_toNat.2 positive)

theorem Regular.put (regular : q.Regular p) (positive : 0 < q.capacity)
    (room : p = .checked → q.count < q.capacity) (x : Item) : (q.put x).Regular p where
  storable := regular.storable
  slots := by simpa [Lane.put] using regular.slots
  head := regular.head
  tail := fun _ => next_lt positive _
  vacant := fun nonpositive => absurd positive (Int.not_lt.2 nonpositive)
  fits := fun checked => ⟨positive, room checked⟩

theorem Regular.take (regular : q.Regular p) (positive : 0 < q.capacity) : q.take.Regular p where
  storable := regular.storable
  slots := by simpa [Lane.take] using regular.slots
  head := fun _ => next_lt positive _
  tail := regular.tail
  vacant := fun nonpositive => absurd positive (Int.not_lt.2 nonpositive)
  fits := by
    intro checked
    have fits := (regular.fits checked).2
    refine ⟨positive, ?_⟩
    simp only [Lane.take]
    omega

/-- The ring of a regular queue with slots is valid. -/
theorem Regular.valid (regular : q.Regular p) (positive : 0 < q.capacity)
    (length : values.length = q.slots.length) : (q.ring values).Valid where
  storable := by
    have storable := regular.storable
    simp only [isStorable, Bool.and_eq_true, decide_eq_true_eq] at storable
    simp only [ring]
    omega
  slots := length.trans regular.slots
  head := regular.head positive
  tail := regular.tail positive

/-- A queue without slots has been made by a process that does not check. -/
theorem Regular.unchecked (regular : q.Regular p) (vacant : q.capacity ≤ 0) : p = .unchecked := by
  cases p with
  | unchecked => rfl
  | checked => exact absurd (regular.fits rfl).1 (Int.not_lt.2 vacant)

/-! ### The ring of a queue -/

theorem ring_fields (positive : 0 < q.capacity) (values : List Value) (items : Ref) :
    (q.ring values).fields items = q.fields items := by
  simp only [Ring.fields, ring, fields, Int.toNat_of_nonneg (Int.le_of_lt positive)]

/-- A queue with slots is a ring on the machine. -/
theorem On.ring (on : q.On named m object) (positive : 0 < q.capacity) :
    ∃ values, (q.ring values).On m object (m.slotsOf object) ∧
      q.slots.map named = values.map some ∧ values.length = q.slots.length := by
  obtain ⟨fields, ⟨values, cell, carries⟩, stored⟩ := on
  refine ⟨values, ⟨?_, cell, stored⟩, carries, ?_⟩
  · rw [ring_fields positive]
    exact fields
  · simpa using (congrArg List.length carries).symm

/-- A ring on the machine is a queue with slots. -/
theorem On.of_ring (here : (q.ring values).On m object items) (positive : 0 < q.capacity)
    (carries : q.slots.map named = values.map some) :
    q.On named m object ∧ m.slotsOf object = items := by
  obtain ⟨fields, cell, stored⟩ := here
  rw [ring_fields positive] at fields
  have same := slotsOf_eq fields
  rw [← same] at fields cell stored
  exact ⟨⟨fields, ⟨values, cell, carries⟩, stored⟩, same⟩

/-- A queue without slots is as it was made. -/
theorem On.new (on : q.On named m object) (regular : q.Regular p) (vacant : q.capacity ≤ 0) :
    Act.Queue.New q.capacity m object (m.slotsOf object) := by
  obtain ⟨fields, ⟨values, cell, carries⟩, stored⟩ := on
  have made := regular.vacant vacant
  have none : q.slots = [] := by
    rw [made, Lane.fresh, Int.toNat_of_nonpos vacant]
    rfl
  rw [none] at carries
  refine ⟨?_, ?_, stored⟩
  · rw [fields]
    conv => lhs; rw [made]
    rfl
  · rw [cell, Int.toNat_of_nonpos vacant, List.map_eq_nil_iff.1 carries.symm]
    rfl

/-- A queue on the machine as it was made is a new one. -/
theorem On.of_new (new : Act.Queue.New capacity m object items)
    (nothing : named (.value .null) = some .null) :
    (fresh capacity).On named m object ∧ m.slotsOf object = items := by
  obtain ⟨fields, cell, stored⟩ := new
  have same : m.slotsOf object = items := slotsOf_eq (q := fresh capacity) fields
  subst same
  refine ⟨⟨fields, ⟨_, cell, ?_⟩, stored⟩, rfl⟩
  simp only [fresh, List.map_replicate, nothing]

/-! ### Operations -/

/-- Putting an item into a queue with slots agrees with the stage. -/
theorem On.enqueue_of_positive (ready : m.Ready p) (on : q.On named m object)
    (regular : q.Regular p) (positive : 0 < q.capacity) (item : named x = some v) :
    Agrees m [object, m.slotsOf object] (Session.operate (.ref object) "enqueue" [v] [] m)
      (q.enqueue p x) fun after w n => w = .null ∧ after.On named n object ∧ after.Regular p ∧
        n.slotsOf object = m.slotsOf object := by
  obtain ⟨values, here, carries, length⟩ := on.ring positive
  have valid := regular.valid positive length
  have nonneg := Int.toNat_of_nonneg (Int.le_of_lt positive)
  have ran := operate_enqueue_agrees ready here valid
    (fun checked => Int.le_trans (regular.fits checked).2 (Int.le_of_eq nonneg.symm)) v
  have inside : q.tail < q.slots.length := regular.slots ▸ regular.tail positive
  have calculation : (q.ring values).enqueue p v =
      (demand p (q.count < q.capacity) Ring.full >>= fun _ => .ok ((q.ring values).put v)) := by
    unfold Ring.enqueue
    simp only [Lane.ring, nonneg]
    rfl
  rw [calculation] at ran
  unfold Lane.enqueue
  simp only [inside, if_true]
  cases met : demand p (decide (q.count < q.capacity)) Ring.full with
  | error f =>
    rw [met] at ran
    exact ran
  | ok u =>
    rw [met] at ran
    obtain ⟨w, n, gave, grew, rfl, put⟩ := ran
    have room : p = .checked → q.count < q.capacity := fun checked =>
      of_decide_eq_true (demand_eq_ok_iff.1 met checked)
    have held : (q.put x).slots.map named = (values.set q.tail v).map some := by
      simp only [Lane.put, List.map_set, carries, item]
    obtain ⟨on', same⟩ := On.of_ring (q := q.put x) put positive held
    exact .of_done gave grew ⟨rfl, on', regular.put positive room x, same⟩

/-- Taking an item out of a queue with slots agrees with the stage. -/
theorem On.dequeue_of_positive (ready : m.Ready p) (on : q.On named m object)
    (regular : q.Regular p) (positive : 0 < q.capacity)
    (nothing : named (.value .null) = some .null) :
    Agrees m [object, m.slotsOf object] (Session.operate (.ref object) "dequeue" [] [] m)
      (q.dequeue p) fun after w n => named after.1 = some w ∧ after.2.On named n object ∧
        after.2.Regular p ∧ n.slotsOf object = m.slotsOf object := by
  obtain ⟨values, here, carries, length⟩ := on.ring positive
  have valid := regular.valid positive length
  have nonneg := Int.toNat_of_nonneg (Int.le_of_lt positive)
  have ran := operate_dequeue_agrees ready here valid
    (fun checked => Int.le_trans (regular.fits checked).2 (Int.le_of_eq nonneg.symm))
  have inside : q.head < q.slots.length := regular.slots ▸ regular.head positive
  have first : (q.slots.map named)[q.head]? = (values.map some)[q.head]? := by rw [carries]
  rw [List.getElem?_map, List.getElem?_map, List.getElem?_eq_getElem inside,
    List.getElem?_eq_getElem (length ▸ inside)] at first
  unfold Lane.dequeue
  have calculation : (q.ring values).dequeue p = (demand p (0 < q.count) Ring.empty >>= fun _ =>
      .ok (values.getD q.head .null, (q.ring values).take)) := rfl
  rw [calculation] at ran
  rw [List.getElem?_eq_getElem inside]
  cases met : demand p (decide (0 < q.count)) Ring.empty with
  | error f =>
    rw [met] at ran
    exact ran
  | ok u =>
    rw [met] at ran
    obtain ⟨w, n, gave, grew, rfl, take⟩ := ran
    have held : q.take.slots.map named = (values.set q.head .null).map some := by
      simp only [Lane.take, List.map_set, carries, nothing]
    obtain ⟨on', same⟩ := On.of_ring (q := q.take) take positive held
    refine .of_done gave grew ⟨?_, on', regular.take positive, same⟩
    rw [List.getD_eq_getElem?_getD, List.getElem?_eq_getElem (length ▸ inside)]
    exact Option.some.inj first

/-- Putting an item into a queue agrees with the stage. -/
theorem On.enqueue_agrees (ready : m.Ready p) (on : q.On named m object) (regular : q.Regular p)
    (item : named x = some v) :
    Agrees m [object, m.slotsOf object] ((QueueCall.enqueue v).perform (.ref object) m)
      (q.enqueue p x) fun after w n => w = .null ∧ after.On named n object ∧ after.Regular p ∧
        n.slotsOf object = m.slotsOf object := by
  by_cases positive : 0 < q.capacity
  · exact on.enqueue_of_positive ready regular positive item
  have vacant : q.capacity ≤ 0 := Int.not_lt.1 positive
  obtain rfl := regular.unchecked vacant
  have none : q.slots.length = 0 := by rw [regular.slots, Int.toNat_of_nonpos vacant]
  have fails : q.enqueue .unchecked x = .error Ring.unwritten := by
    unfold Lane.enqueue
    simp only [none, Nat.not_lt_zero, if_false]
    rfl
  rw [fails]
  exact operate_enqueue_of_vacant ready (on.new regular vacant) vacant v

/-- Taking an item out of a queue agrees with the stage. -/
theorem On.dequeue_agrees (ready : m.Ready p) (on : q.On named m object) (regular : q.Regular p)
    (nothing : named (.value .null) = some .null) :
    Agrees m [object, m.slotsOf object] (QueueCall.dequeue.perform (.ref object) m)
      (q.dequeue p) fun after w n => named after.1 = some w ∧ after.2.On named n object ∧
        after.2.Regular p ∧ n.slotsOf object = m.slotsOf object := by
  by_cases positive : 0 < q.capacity
  · exact on.dequeue_of_positive ready regular positive nothing
  have vacant : q.capacity ≤ 0 := Int.not_lt.1 positive
  obtain rfl := regular.unchecked vacant
  have none : q.slots = [] := by
    rw [← List.length_eq_zero_iff, regular.slots, Int.toNat_of_nonpos vacant]
  have fails : q.dequeue .unchecked = .error Ring.unread := by
    unfold Lane.dequeue
    rw [none]
    rfl
  rw [fails]
  exact operate_dequeue_of_vacant ready (on.new regular vacant) vacant

/-- The length of a queue agrees with the stage. -/
theorem On.length_agrees (ready : m.Ready p) (on : q.On named m object) :
    Agrees m [] (QueueCall.length.perform (.ref object) m) (lengthOf q.count)
      fun k w n => w = .int k ∧ n = m :=
  (Act.length_agrees ready on.fields rfl).followed fun k _ _ holds =>
    ⟨.int k, by rw [holds.1]; rfl, rfl, holds.2⟩

/-- Making a queue agrees with the stage. -/
theorem make_agrees (ready : m.Ready p) (named : Item → Option Value)
    (nothing : named (.value .null) = some .null) (capacity : Int) :
    Agrees m [] (Act.call (.cls (.known .queue)) [.int capacity] [] m) (opening p capacity)
      fun q v n => v = .ref m.heap.size ∧ q.Regular p ∧ q.On named n m.heap.size ∧
        m.heap.size < n.slotsOf m.heap.size := by
  unfold opening
  by_cases met : p = .checked → 0 < capacity
  · have accepted : demand p (decide (0 < capacity)) noCapacity = .ok () :=
      demand_eq_ok_iff.2 fun checked => decide_eq_true (met checked)
    rw [accepted]
    cases storable : isStorable capacity with
    | true =>
      obtain ⟨n, items, made, grew, past, new⟩ := makeQueue_apply ready met storable
      obtain ⟨on, same⟩ := On.of_new new nothing
      exact .of_done made grew ⟨rfl, .fresh storable met, on, same ▸ past⟩
    | false =>
      obtain ⟨e, n, failed, grew, cell⟩ := makeQueue_of_many ready met storable
      exact .of_raised failed grew cell
  · obtain ⟨rfl, nonpositive⟩ := Classical.not_imp.1 met
    obtain ⟨e, n, failed, grew, cell⟩ := makeQueue_of_nonpositive ready (Int.not_lt.1 nonpositive)
    simp only [nonpositive, decide_false, demand_false]
    exact .of_raised failed grew cell

end Lane

/-! ## The queues of a scene -/

namespace Scene

variable {p : Profile} {s : Scene} {st : Stage} {n : Machine} {q after : Lane} {i j : Nat}
  {object other : Ref}

/-- The cells of the queues of a scene. -/
def queueCells (s : Scene) : List Ref :=
  s.queues ++ s.queues.map s.machine.slotsOf

theorem subset_queueCells (at_i : s.queues[i]? = some object) :
    [object, s.machine.slotsOf object] ⊆ s.queueCells := by
  have mem := List.mem_of_getElem? at_i
  exact List.cons_subset.2 ⟨List.mem_append_left _ mem, List.cons_subset.2
    ⟨List.mem_append_right _ (List.mem_map_of_mem mem), List.nil_subset _⟩⟩

namespace Shows

/-- A scene has as many queues as the stage. -/
theorem queues_length (shows : s.Shows p st) : s.queues.length = st.queues.length := by
  have here := shows.queues s.queues.length
  have there := shows.queues st.queues.length
  rw [List.getElem?_eq_none (Nat.le_refl _)] at here there
  generalize found : st.queues[s.queues.length]? = o at here
  generalize foundToo : s.queues[st.queues.length]? = o' at there
  cases here
  cases there
  exact Nat.le_antisymm (List.getElem?_eq_none_iff.1 foundToo) (List.getElem?_eq_none_iff.1 found)

/-- A queue is found on the scene exactly if it is on the stage. -/
theorem queue_agrees (shows : s.Shows p st) (i : Nat) :
    Agrees s.machine [] (s.value (.queue i) s.machine) (find st.queues i) fun q v n =>
      n = s.machine ∧ ∃ object, v = .ref object ∧ s.queues[i]? = some object ∧
        q.On s.value? s.machine object ∧ q.Regular p := by
  unfold find
  cases at_i : s.queues[i]? with
  | some object =>
    obtain ⟨q, there, on, regular⟩ := shows.queue_at at_i
    rw [there]
    exact .of_done (value_queue_of_some at_i _) (.refl _ _) ⟨rfl, object, rfl, rfl, on, regular⟩
  | none =>
    rw [shows.queue_none at_i]
    exact .of_raised (value_queue_of_none at_i shows.orderly.ready.free) (.push [] _ _)
      (Machine.cell_push_size _ _)

/-- What is to be put into a queue is found on the scene exactly if it is on the stage. -/
theorem item_agrees (shows : s.Shows p st) (x : Item) :
    Agrees s.machine [] (s.value x s.machine) (st.demandItem x) fun _ v n =>
      n = s.machine ∧ s.value? x = some v := by
  cases x with
  | value v => exact .of_done rfl (.refl _ _) ⟨rfl, rfl⟩
  | account i =>
    refine (shows.account_agrees i).mapped ?_
    rintro _ _ _ - - ⟨rfl, r, rfl, at_i, -⟩
    exact ⟨rfl, congrArg (Option.map Value.ref) at_i⟩
  | queue i =>
    refine (shows.queue_agrees i).mapped ?_
    rintro _ _ _ - - ⟨rfl, object, rfl, at_i, -⟩
    exact ⟨rfl, congrArg (Option.map Value.ref) at_i⟩

/-- Two queues share no cell. -/
theorem apart_of_ne (shows : s.Shows p st) (at_i : s.queues[i]? = some object)
    (at_j : s.queues[j]? = some other) (ne : i ≠ j) :
    other ∉ [object, s.machine.slotsOf object] ∧
      s.machine.slotsOf other ∉ [object, s.machine.slotsOf object] := by
  obtain ⟨q, -, on, -⟩ := shows.queue_at at_i
  obtain ⟨r, -, onToo, -⟩ := shows.queue_at at_j
  obtain ⟨values, slots, -⟩ := on.slots
  obtain ⟨valuesToo, slotsToo, -⟩ := onToo.slots
  have lists : s.machine.slotsOf other ≠ s.machine.slotsOf object := by
    intro same
    have lt : i < (s.queues.map s.machine.slotsOf).length := by
      rw [List.length_map]
      exact (List.getElem?_eq_some_iff.1 at_i).1
    refine ne ((List.getElem?_inj lt shows.apart).1 ?_)
    rw [List.getElem?_map, List.getElem?_map, at_i, at_j]
    exact congrArg some same.symm
  constructor
  · intro mem
    simp only [List.mem_cons, List.not_mem_nil, or_false] at mem
    rcases mem with rfl | rfl
    · exact lists rfl
    · cases onToo.fields.symm.trans slots
  · intro mem
    simp only [List.mem_cons, List.not_mem_nil, or_false] at mem
    rcases mem with eq | eq
    · rw [eq] at slotsToo
      cases on.fields.symm.trans slotsToo
    · exact lists eq

/-- Where one queue has been written to, the others and the accounts are as they were. -/
theorem queued (shows : s.Shows p st) (at_i : s.queues[i]? = some object)
    (grew : s.machine.Grows [object, s.machine.slotsOf object] n)
    (on : after.On s.value? n object) (regular : after.Regular p)
    (same : n.slotsOf object = s.machine.slotsOf object) :
    (s.moved n).Shows p { st with queues := st.queues.set i after } := by
  obtain ⟨q, there, -⟩ := shows.queue_at at_i
  obtain ⟨none, noneToo⟩ := shows.not_account at_i
  obtain ⟨orderly, holdings⟩ := shows.accounts_kept grew fun r mem written => by
    simp only [List.mem_cons, List.not_mem_nil, or_false] at written
    rcases written with rfl | rfl
    · exact none mem
    · exact noneToo mem
  have kept {j : Nat} {other : Ref} (at_j : s.queues[j]? = some other) (ne : i ≠ j) :=
    shows.queue_kept (t := s.moved n) at_j grew (shows.apart_of_ne at_i at_j ne)
      (List.prefix_refl _) (List.prefix_refl _)
  refine ⟨orderly, holdings, fun j => ?_, ?_⟩
  · change Option.Rel _ s.queues[j]? (st.queues.set i after)[j]?
    by_cases mine : i = j
    · subst mine
      rw [at_i, List.getElem?_set_self (List.getElem?_eq_some_iff.1 there).1]
      exact .some ⟨on, regular⟩
    rw [List.getElem?_set_ne mine]
    cases at_j : s.queues[j]? with
    | none =>
      rw [shows.queue_none at_j]
      exact .none
    | some other =>
      obtain ⟨r, thereToo, still, -⟩ := kept at_j mine
      rw [thereToo]
      exact .some still
  · have slots {j : Nat} {other : Ref} (at_j : s.queues[j]? = some other) :
        n.slotsOf other = s.machine.slotsOf other := by
      by_cases mine : i = j
      · subst mine
        obtain rfl := Option.some.inj (at_i.symm.trans at_j)
        exact same
      · have ⟨_, _, _, unchanged⟩ := kept at_j mine
        exact unchanged
    change (s.queues.map n.slotsOf).Nodup
    rw [map_slotsOf slots]
    exact shows.apart

/-- Where a queue has been made, the others and the accounts are as they were. -/
theorem queueMade (shows : s.Shows p st) (grew : s.machine.Grows [] n)
    (on : q.On (Scene.mk ⟨n, s.bank.accounts⟩ (s.queues ++ [object])).value? n object)
    (regular : q.Regular p) (new : s.machine.heap.size ≤ n.slotsOf object) :
    (Scene.mk ⟨n, s.bank.accounts⟩ (s.queues ++ [object])).Shows p
      { st with queues := st.queues ++ [q] } := by
  obtain ⟨orderly, holdings⟩ := shows.accounts_kept grew fun _ _ => List.not_mem_nil
  have kept {j : Nat} {other : Ref} (at_j : s.queues[j]? = some other) :=
    shows.queue_kept (t := ⟨⟨n, s.bank.accounts⟩, s.queues ++ [object]⟩) at_j grew
      ⟨List.not_mem_nil, List.not_mem_nil⟩ (List.prefix_refl _) (List.prefix_append _ _)
  refine ⟨orderly, holdings, fun j => ?_, ?_⟩
  · change Option.Rel _ (s.queues ++ [object])[j]? (st.queues ++ [q])[j]?
    rw [List.getElem?_append, List.getElem?_append, ← shows.queues_length]
    split
    · next lt =>
      have at_j : s.queues[j]? = some s.queues[j] := List.getElem?_eq_getElem lt
      obtain ⟨r, there, still, -⟩ := kept at_j
      rw [at_j, there]
      exact .some still
    · cases j - s.queues.length with
      | zero => exact .some ⟨on, regular⟩
      | succ k => exact .none
  · change ((s.queues ++ [object]).map n.slotsOf).Nodup
    rw [List.map_append, map_slotsOf fun at_j => have ⟨_, _, _, slots⟩ := kept at_j; slots,
      List.map_singleton, List.nodup_append]
    refine ⟨shows.apart, List.nodup_singleton _, ?_⟩
    rintro _ mem _ made same
    obtain ⟨other, memToo, rfl⟩ := List.mem_map.1 mem
    obtain ⟨j, at_j⟩ := List.mem_iff_getElem?.1 memToo
    obtain ⟨r, -, onToo, -⟩ := shows.queue_at at_j
    have old := onToo.stored
    rw [same, List.mem_singleton.1 made] at old
    exact Nat.lt_irrefl _ (Nat.lt_of_lt_of_le old new)

/-! ### Moves -/

theorem enqueue (shows : s.Shows p st) (i : Nat) (x : Item) : Played p s st (.enqueue i x) := by
  refine .of_operation s.queueCells shows rfl rfl ?_
  refine (shows.queue_agrees i).bind ?_
  rintro q _ _ - - ⟨rfl, object, rfl, at_i, on, regular⟩
  refine (shows.item_agrees x).bind ?_
  rintro _ v _ - - ⟨rfl, item⟩
  refine ((on.enqueue_agrees shows.orderly.ready regular item).mapped ?_).widen
    (subset_queueCells at_i)
  rintro after _ n - grew ⟨rfl, onToo, regularToo, same⟩
  exact ⟨rfl, shows.queued at_i grew onToo regularToo same⟩

theorem dequeue (shows : s.Shows p st) (i : Nat) : Played p s st (.dequeue i) := by
  refine .of_operation s.queueCells shows rfl rfl ?_
  refine (shows.queue_agrees i).bind ?_
  rintro q _ _ - - ⟨rfl, object, rfl, at_i, on, regular⟩
  refine ((on.dequeue_agrees shows.orderly.ready regular rfl).mapped ?_).widen
    (subset_queueCells at_i)
  rintro ⟨x, after⟩ v n - grew ⟨item, onToo, regularToo, same⟩
  exact ⟨item, shows.queued at_i grew onToo regularToo same⟩

theorem length (shows : s.Shows p st) (i : Nat) : Played p s st (.length i) := by
  refine .of_operation s.queueCells shows rfl rfl ?_
  refine (shows.queue_agrees i).bind ?_
  rintro q _ _ - - ⟨rfl, object, rfl, at_i, on, regular⟩
  refine ((on.length_agrees shows.orderly.ready).mapped ?_).widen (List.nil_subset _)
  rintro k _ n - grew ⟨rfl, -⟩
  exact ⟨rfl, shows.kept grew⟩

/-- Making a queue adds an empty one. -/
theorem newQueue (shows : s.Shows p st) (capacity : Int) :
    Played p s st (.newQueue capacity) := by
  have run := Lane.make_agrees shows.orderly.ready
    (Scene.mk s.bank (s.queues ++ [s.machine.heap.size])).value? rfl capacity
  refine .of_agrees shows rfl (run.ran.mapped ?_)
  rintro q _ n - grew ⟨ran, rfl, regular, on, past⟩
  have ended : s.outcome (.newQueue capacity) = .done (.ref s.machine.heap.size) :=
    congrArg Prod.fst ran
  have machine : (s.after (.newQueue capacity)).machine = n := after_machine ran
  have queues : (s.after (.newQueue capacity)).queues = s.queues ++ [s.machine.heap.size] := by
    simp only [after, ended]
  have scene : s.after (.newQueue capacity) =
      ⟨⟨n, s.bank.accounts⟩, s.queues ++ [s.machine.heap.size]⟩ := by
    rw [← machine, ← queues]
    rfl
  rw [scene]
  constructor
  · rw [← shows.queues_length]
    exact congrArg (Option.map Value.ref) List.getElem?_concat_length
  · exact shows.queueMade grew on regular (Nat.le_of_lt past)

/-- Every move is played as on the stage. -/
theorem plays (shows : s.Shows p st) (mv : Move) : Played p s st mv := by
  cases mv with
  | deal d => exact shows.deal d
  | newQueue capacity => exact shows.newQueue capacity
  | enqueue i x => exact shows.enqueue i x
  | dequeue i => exact shows.dequeue i
  | length i => exact shows.length i

end Shows

end Scene

end Covenant
