import Covenant.Class
import Covenant.Proofs.Machine.Fault

/-!
# How a machine grows

Code under contract changes a machine in few ways: it adds cells, it writes to the cells of the
objects that it works on, it looks invariants up, and, if the process checks, it records what it
does. `Machine.Grows written m n` says that this is all that happened between `m` and `n`, and that
of the cells of `m` at most those in `written` are other ones in `n`. Runs are put together by
`Grows.trans` and `Grows.after`; the second of them forgets what was written to cells that the
first run had added.

`Machine.Plain` is what such code can rely on in a process in which no script has changed a class:
the initial classes have their own attributes, settings are in effect, and what has been looked up
is what the classes have. Growing keeps it (`Plain.grows`).
-/

namespace Covenant

/-- The attribute that an initial class has from the start, its own or an inherited one. -/
def Known.attribute? (k : Known) (name : String) : Option Value :=
  (k :: k.above).findSome? (·.fields.get? name)

namespace Machine

/-- The same machine with one more cell. -/
def push (m : Machine) (c : Cell) : Machine :=
  { m with heap := m.heap.push c }

/-- The same machine with another cell at an address. -/
def put (m : Machine) (r : Ref) (c : Cell) : Machine :=
  { m with heap := m.heap.setIfInBounds r c }

variable {m n k : Machine} {r s : Ref} {c : Cell} {written more : List Ref}

@[simp] theorem size_push (m : Machine) (c : Cell) : (m.push c).heap.size = m.heap.size + 1 := by
  simp [push]

@[simp] theorem size_put (m : Machine) (r : Ref) (c : Cell) :
    (m.put r c).heap.size = m.heap.size := by
  simp [put]

/-- The new cell stands at the end. -/
@[simp] theorem cell_push_size (m : Machine) (c : Cell) : (m.push c).cell m.heap.size = c :=
  Act.cell_alloc_self

theorem cell_push_of_lt (h : r < m.heap.size) : (m.push c).cell r = m.cell r :=
  Act.cell_alloc_of_lt h

theorem cell_put_self (h : r < m.heap.size) : (m.put r c).cell r = c :=
  Act.cell_store_self h

theorem cell_put_of_ne (h : s ≠ r) : (m.put r c).cell s = m.cell s :=
  Act.cell_store_of_ne h

/-- A cell with something in it is there. -/
theorem lt_size_of_cell (h : m.cell r = c) (ne : c ≠ .list []) : r < m.heap.size := by
  refine Nat.lt_of_not_le fun past => ne ?_
  rw [← h]
  simp [cell, Array.getD_eq_getD_getElem?, past]

/-- What has been looked up for a class is the invariant that the class has from the start. -/
def IsNative (found : ClassRef × Option Value) : Prop :=
  ∀ k, found.1 = .known k → found.2 = k.attribute? "invariant"

/-- Between two machines cells were added, those in `written` may have been written to, invariants
were looked up, and, if the process checks, something may have been recorded. -/
structure Grows (written : List Ref) (m n : Machine) : Prop where
  rest : n = { m with heap := n.heap, lookups := n.lookups, trace := n.trace }
  size : m.heap.size ≤ n.heap.size
  cell : ∀ r < m.heap.size, r ∉ written → n.cell r = m.cell r
  lookups : ∀ found ∈ n.lookups, found ∈ m.lookups ∨ IsNative found
  quiet : m.active = .unchecked → n.trace = m.trace

namespace Grows

/-- A machine as it is. -/
theorem refl (written : List Ref) (m : Machine) : Grows written m m :=
  ⟨rfl, Nat.le_refl _, fun _ _ _ => rfl, fun _ h => .inl h, fun _ => rfl⟩

/-- What runs has to do with the profile does not change. -/
theorem active (h : Grows written m n) : n.active = m.active := by
  rw [h.rest]

theorem handling (h : Grows written m n) : n.handling = m.handling := by
  rw [h.rest]

theorem patches (h : Grows written m n) : n.patches = m.patches := by
  rw [h.rest]

/-- A cell that is not written to keeps what it has. -/
theorem cell_eq (h : Grows written m n) (here : m.cell r = c) (ne : c ≠ .list [])
    (untouched : r ∉ written) : n.cell r = c := by
  rw [h.cell r (lt_size_of_cell here ne) untouched, here]

/-- A run and then another, which may also write to the cells that the first one has added. -/
theorem after (first : Grows written m n) (second : Grows more n k)
    (old : ∀ r ∈ more, r < m.heap.size → r ∈ written) : Grows written m k where
  rest := by
    conv => lhs; rw [second.rest, first.rest]
  size := Nat.le_trans first.size second.size
  cell := by
    intro r lt untouched
    have outside : r ∉ more := fun mem => untouched (old r mem lt)
    rw [second.cell r (Nat.lt_of_lt_of_le lt first.size) outside, first.cell r lt untouched]
  lookups := by
    intro found mem
    rcases second.lookups found mem with before | native
    · exact first.lookups found before
    · exact .inr native
  quiet := by
    intro unchecked
    rw [second.quiet (first.active.trans unchecked), first.quiet unchecked]

/-- A run and then another that writes to the same cells. -/
theorem trans (first : Grows written m n) (second : Grows written n k) : Grows written m k :=
  first.after second fun _ mem _ => mem

/-- More cells may be said to be written to. -/
theorem mono (h : Grows written m n) (sub : written ⊆ more) : Grows more m n :=
  ⟨h.rest, h.size, fun r lt untouched => h.cell r lt fun mem => untouched (sub mem), h.lookups,
    h.quiet⟩

/-- What writes to no cell may be said to write to any. -/
theorem weaken (h : Grows [] m n) : Grows written m n :=
  h.mono (List.nil_subset written)

/-- A new cell. -/
theorem push (written : List Ref) (m : Machine) (c : Cell) : Grows written m (m.push c) where
  rest := rfl
  size := by simp
  cell := fun _ lt _ => cell_push_of_lt lt
  lookups := fun _ mem => .inl mem
  quiet := fun _ => rfl

/-- What writes to a new cell only writes to none of those that there were. -/
theorem of_push (h : Grows [m.heap.size] (m.push c) n) : Grows [] m n := by
  refine (push [] m c).after h ?_
  intro r mem lt
  rw [List.mem_singleton.1 mem] at lt
  exact absurd lt (Nat.lt_irrefl _)

/-- Another cell at an address that may be written to. -/
theorem put (m : Machine) (c : Cell) (mem : r ∈ written) : Grows written m (m.put r c) where
  rest := rfl
  size := by simp
  cell := fun s _ untouched => cell_put_of_ne fun same => untouched (same ▸ mem)
  lookups := fun _ mem => .inl mem
  quiet := fun _ => rfl

/-- Something is recorded by a process that checks. -/
theorem record (written : List Ref) (checked : m.active = .checked) (e : Entry) :
    Grows written m { m with trace := e :: m.trace } where
  rest := rfl
  size := Nat.le_refl _
  cell := fun _ _ _ => rfl
  lookups := fun _ mem => .inl mem
  quiet := fun unchecked => absurd (checked.symm.trans unchecked) (by decide)

/-- The invariant of a class is looked up. -/
theorem look (written : List Ref) (m : Machine) {found : ClassRef × Option Value}
    (native : IsNative found) : Grows written m { m with lookups := found :: m.lookups } where
  rest := rfl
  size := Nat.le_refl _
  cell := fun _ _ _ => rfl
  lookups := by
    intro other mem
    rcases List.mem_cons.1 mem with rfl | before
    · exact .inr native
    · exact .inl before
  quiet := fun _ => rfl

/-- A run while a fault counts as being handled is a run all the same. -/
theorem whileHandling {e : Option Ref} (h : Grows written { m with handling := e } n) :
    Grows written m { n with handling := m.handling } where
  rest := by
    conv => lhs; rw [h.rest]
  size := h.size
  cell := h.cell
  lookups := h.lookups
  quiet := h.quiet

end Grows

/-- A machine on which no script has changed anything that belongs to the initial classes, and on
which settings are in effect. -/
structure Plain (m : Machine) : Prop where
  patches : m.patches = []
  attached : m.attached = []
  settings : m.current.isSome = true
  lookups : ∀ found ∈ m.lookups, IsNative found

/-- A plain machine grows to a plain one. -/
theorem Plain.grows (plain : m.Plain) (h : Grows written m n) : n.Plain where
  patches := h.patches.trans plain.patches
  attached := by rw [h.rest]; exact plain.attached
  settings := by rw [h.rest]; exact plain.settings
  lookups := by
    intro found mem
    rcases h.lookups found mem with before | native
    · exact plain.lookups found before
    · exact native

/-- What is being handled does not matter. -/
theorem Plain.handling (plain : m.Plain) (e : Option Ref) : Plain { m with handling := e } :=
  ⟨plain.patches, plain.attached, plain.settings, plain.lookups⟩

end Machine

namespace Act

/-! ## Single actions -/

section Actions

variable {α β : Type}

@[simp] theorem read_apply (f : Machine → α) (m : Machine) : read f m = (.done (f m), m) :=
  rfl

@[simp] theorem rethrow_apply (e : Ref) (m : Machine) : (rethrow e : Act α) m = (.raised e, m) :=
  rfl

/-- Asking the machine something comes before what is done with the answer. -/
@[simp] theorem read_bind (f : Machine → α) (g : α → Act β) (m : Machine) :
    (read f >>= g) m = g (f m) m :=
  rfl

@[simp] theorem load_bind (r : Ref) (g : Cell → Act β) (m : Machine) :
    (load r >>= g) m = g (m.cell r) m :=
  rfl

@[simp] theorem classOf_bind (v : Value) (g : ClassRef → Act β) (m : Machine) :
    (classOf v >>= g) m = g (m.classOf v) m :=
  rfl

@[simp] theorem alloc_apply (c : Cell) (m : Machine) : alloc c m = (.done m.heap.size, m.push c) :=
  rfl

@[simp] theorem allocValue_apply (c : Cell) (m : Machine) :
    allocValue c m = (.done (.ref m.heap.size), m.push c) :=
  rfl

@[simp] theorem store_apply (r : Ref) (c : Cell) (m : Machine) :
    store r c m = (.done (), m.put r c) :=
  rfl

/-- What an action gives that ends well is what comes of trying it. -/
theorem attempt_of_done {x : Act α} {m n : Machine} {a : α} (h : x m = (.done a, n)) :
    attempt x m = (.done (.ok a), n) := by
  simp [attempt, h]

theorem attempt_of_raised {x : Act α} {m n : Machine} {e : Ref} (h : x m = (.raised e, n)) :
    attempt x m = (.done (.error e), n) := by
  simp [attempt, h]

theorem attempt_of_exhausted {x : Act α} {m n : Machine} (h : x m = (.exhausted, n)) :
    attempt x m = (.exhausted, n) := by
  simp [attempt, h]

/-! ## Raising where no fault is being handled -/

/-- What is raised flies as it is. -/
theorem raise_of_handling {m : Machine} (free : m.handling = none) (e : Ref) :
    (raise e : Act α) m = (.raised e, m) := by
  simp [raise, chain, free]

/-- What fails does so with a new fault. -/
theorem failWith_of_handling {m : Machine} (free : m.handling = none) (cls : FaultClass)
    (args : List Value) :
    (failWith cls args : Act α) m = (.raised m.heap.size,
      m.push (.fault (.fresh (.known (.fault cls)) args []))) := by
  unfold failWith newFault
  rw [bind_of_done (alloc_apply _ m)]
  exact raise_of_handling (by exact free) m.heap.size

theorem fail_of_handling {m : Machine} (free : m.handling = none) (cls : FaultClass)
    (message : String) :
    (fail cls message : Act α) m = (.raised m.heap.size,
      m.push (.fault (.fresh (.known (.fault cls)) [.text message] []))) :=
  failWith_of_handling free cls [.text message]

end Actions

end Act

end Covenant
