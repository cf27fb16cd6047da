import Covenant.Proofs.Machine.Links

/-!
# Machines that are alike but for some cells

Two machines are alike but for some cells if nothing else tells them apart, except for what has been
recorded (`Machine.AlikeBut`). A run that only looks at the other cells goes the same way on both.
That is so of raising a fault that stands in one of the cells that differ: the walk that links it to
the fault being handled passes by the others (`AlikeBut.cutContext`), so both faults fly in the same
context, and the machines are as alike as before (`AlikeBut.raise`).
-/

namespace Covenant

namespace Machine

/-- Nothing tells two machines apart but some cells and what has been recorded. -/
structure AlikeBut (cells : List Ref) (m n : Machine) : Prop where
  rest : n = { m with heap := n.heap, trace := n.trace }
  size : n.heap.size = m.heap.size
  cell : ∀ r ∉ cells, n.cell r = m.cell r

/-- What only links faults changes nothing but cells, and some of them not. -/
structure LinksBut (cells : List Ref) (m n : Machine) : Prop where
  rest : n = { m with heap := n.heap }
  cell : ∀ r ∈ cells, n.cell r = m.cell r

variable {m n k l : Machine} {cells more : List Ref} {e r : Ref} {f g : Fault} {c d : Cell}

/-- A new cell stands behind all others. -/
theorem cell_push (m : Machine) (c : Cell) (r : Ref) :
    (m.push c).cell r = if r = m.heap.size then c else m.cell r := by
  split
  · next here =>
    rw [here, cell_push_size]
  · next other =>
    simp [push, cell, Array.getD_eq_getD_getElem?, Array.getElem?_push, other]

/-- A cell that is there is replaced, and no other one. -/
theorem cell_put (m : Machine) (r : Ref) (c : Cell) (s : Ref) :
    (m.put r c).cell s = if s = r ∧ r < m.heap.size then c else m.cell s := by
  by_cases same : s = r
  · subst same
    by_cases here : s < m.heap.size
    · rw [cell_put_self here, if_pos ⟨rfl, here⟩]
    · have unchanged : m.put s c = m := by
        unfold put
        rw [Array.setIfInBounds_eq_of_size_le (Nat.le_of_not_lt here)]
      rw [unchanged, if_neg fun both => here both.2]
  · rw [cell_put_of_ne same, if_neg fun both => same both.1]

namespace LinksBut

theorem refl (m : Machine) : m.LinksBut cells m :=
  ⟨rfl, fun _ _ => rfl⟩

theorem put (m : Machine) (other : r ∉ cells) (c : Cell) : m.LinksBut cells (m.put r c) :=
  ⟨rfl, fun _ mem => cell_put_of_ne fun same => other (same ▸ mem)⟩

end LinksBut

/-- A fault flies on a machine with the given links, which was made from another by linking
faults alone. -/
structure Flies (cells : List Ref) (m : Machine) (e : Ref) (f : Fault) (n : Machine) : Prop where
  rest : n = { m with heap := n.heap }
  stands : n.cell e = .fault f
  cell : ∀ r ∈ cells, r ≠ e → n.cell r = m.cell r

theorem Flies.of_put (cut : m.LinksBut cells n) (here : n.cell e = .fault f) :
    m.Flies cells e g (n.put e (.fault g)) where
  rest := by
    conv => lhs; rw [cut.rest]
    rfl
  stands := cell_put_self (lt_size_of_cell here nofun)
  cell r mem ne := (cell_put_of_ne ne).trans (cut.cell r mem)

namespace AlikeBut

theorem refl (m : Machine) : m.AlikeBut cells m :=
  ⟨rfl, rfl, fun _ _ => rfl⟩

/-- More cells can be said to differ. -/
theorem mono (alike : m.AlikeBut cells n) (sub : cells ⊆ more) : m.AlikeBut more n :=
  ⟨alike.rest, alike.size, fun r other => alike.cell r fun mem => other (sub mem)⟩

/-- What has been recorded is no matter. -/
theorem record (alike : m.AlikeBut cells n) (before after : List Entry) :
    AlikeBut cells { m with trace := before } { n with trace := after } where
  rest := by
    conv => lhs; rw [alike.rest]
  size := alike.size
  cell := alike.cell

/-- The same new cell. -/
theorem push (alike : m.AlikeBut cells n) (c : Cell) : (m.push c).AlikeBut cells (n.push c) where
  rest := by
    conv => lhs; rw [alike.rest]
    rfl
  size := by simp [alike.size]
  cell r other := by rw [cell_push, cell_push, alike.size, alike.cell r other]

/-- New cells that may differ. -/
theorem push_both (alike : m.AlikeBut cells n) (c d : Cell) :
    (m.push c).AlikeBut (m.heap.size :: cells) (n.push d) where
  rest := by
    conv => lhs; rw [alike.rest]
    rfl
  size := by simp [alike.size]
  cell r other := by
    obtain ⟨past, outside⟩ : r ≠ m.heap.size ∧ r ∉ cells := by simpa using other
    rw [cell_push, cell_push, alike.size, if_neg past, if_neg past, alike.cell r outside]

/-- The same cell in place of another. -/
theorem put (alike : m.AlikeBut cells n) (r : Ref) (c : Cell) :
    (m.put r c).AlikeBut cells (n.put r c) where
  rest := by
    conv => lhs; rw [alike.rest]
    rfl
  size := by simp [alike.size]
  cell s other := by
    rw [cell_put, cell_put, alike.size, alike.cell s other]

/-- Cells that may differ in place of others. -/
theorem put_both (alike : m.AlikeBut cells n) (mem : r ∈ cells) (c d : Cell) :
    (m.put r c).AlikeBut cells (n.put r d) where
  rest := by
    conv => lhs; rw [alike.rest]
    rfl
  size := by simp [alike.size]
  cell s other := by
    have ne : s ≠ r := fun same => other (same ▸ mem)
    rw [cell_put_of_ne ne, cell_put_of_ne ne, alike.cell s other]

/-- A walk that cuts the link to a fault goes the same way on machines that are alike but for cells
that it passes by. -/
theorem cutContext (alike : m.AlikeBut cells n)
    (unlinked : ∀ s ∈ cells, s ≠ e → (m.faultAt s).context = none ∧ (n.faultAt s).context = none)
    (steps : Nat) (ne : r ≠ e) :
    ∃ k l, Act.cutContext e steps r m = (.done (), k) ∧ Act.cutContext e steps r n = (.done (), l) ∧
      k.AlikeBut cells l ∧ m.LinksBut cells k ∧ n.LinksBut cells l := by
  induction steps generalizing r with
  | zero => exact ⟨m, n, rfl, rfl, alike, .refl m, .refl n⟩
  | succ steps ih =>
    unfold Act.cutContext
    rw [Act.bind_of_done (Act.loadFault_apply r m), Act.bind_of_done (Act.loadFault_apply r n)]
    by_cases mem : r ∈ cells
    · obtain ⟨first, second⟩ := unlinked r mem ne
      rw [first, second]
      exact ⟨m, n, rfl, rfl, alike, .refl m, .refl n⟩
    · have same : n.faultAt r = m.faultAt r := by
        unfold Machine.faultAt
        rw [alike.cell r mem]
      rw [same]
      cases context : (m.faultAt r).context with
      | none => exact ⟨m, n, rfl, rfl, alike, .refl m, .refl n⟩
      | some next =>
        dsimp only
        by_cases found : next = e
        · rw [if_pos found]
          exact ⟨_, _, rfl, rfl, alike.put r _, .put m mem _, .put n mem _⟩
        · rw [if_neg found]
          exact ih found

/-- A fault that is linked to the one being handled is so on machines that are alike but for its own
cell and others that no links go out from. -/
theorem chain (alike : m.AlikeBut cells n) (mem : e ∈ cells) (here : m.cell e = .fault f)
    (there : n.cell e = .fault g) (free : f.context = none ∧ g.context = none)
    (unlinked : ∀ s ∈ cells, s ≠ e →
      (m.faultAt s).context = none ∧ (n.faultAt s).context = none) :
    ∃ context k l, Act.chain e m = (.done (), k) ∧ Act.chain e n = (.done (), l) ∧
      k.AlikeBut cells l ∧ m.Flies cells e { f with context } k ∧
      n.Flies cells e { g with context } l := by
  have handling : n.handling = m.handling := by rw [alike.rest]
  by_cases alone : m.handling = none ∨ m.handling = some e
  · refine ⟨none, m, n, Act.chain_of_handling alone, Act.chain_of_handling (handling ▸ alone),
      alike, ⟨rfl, ?_, fun _ _ _ => rfl⟩, ⟨rfl, ?_, fun _ _ _ => rfl⟩⟩
    · rw [here, ← free.1]
    · rw [there, ← free.2]
  · obtain ⟨h, handled⟩ : ∃ h, m.handling = some h :=
      Option.ne_none_iff_exists'.1 fun none => alone (.inl none)
    have ne : h ≠ e := fun same => alone (.inr (same ▸ handled))
    obtain ⟨k, l, first, second, alike', cut, cut'⟩ := alike.cutContext unlinked m.heap.size ne
    have stands : k.cell e = .fault f := (cut.cell e mem).trans here
    have stands' : l.cell e = .fault g := (cut'.cell e mem).trans there
    have chained {m k : Machine} {f : Fault} (handled : m.handling = some h)
        (walk : Act.cutContext e m.heap.size h m = (.done (), k)) (stands : k.cell e = .fault f) :
        Act.chain e m = (.done (), k.put e (.fault { f with context := some h })) := by
      unfold Act.chain
      rw [Act.read_bind, handled]
      dsimp only
      rw [if_neg ne, Act.read_bind, Act.bind_of_done walk,
        Act.bind_of_done (Act.loadFault_apply e k), faultAt_of_cell stands]
      rfl
    refine ⟨some h, _, _, chained handled first stands,
      chained (handling.trans handled) (alike.size ▸ second) stands',
      alike'.put_both mem _ _, .of_put cut stands, .of_put cut' stands'⟩

/-- A fault flies in the same context on such machines. -/
theorem raise (alike : m.AlikeBut cells n) (mem : e ∈ cells) (here : m.cell e = .fault f)
    (there : n.cell e = .fault g) (free : f.context = none ∧ g.context = none)
    (unlinked : ∀ s ∈ cells, s ≠ e → (m.faultAt s).context = none ∧ (n.faultAt s).context = none)
    (α : Type) :
    ∃ context k l, (Act.raise e : Act α) m = (.raised e, k) ∧
      (Act.raise e : Act α) n = (.raised e, l) ∧ k.AlikeBut cells l ∧
      m.Flies cells e { f with context } k ∧ n.Flies cells e { g with context } l := by
  obtain ⟨context, k, l, first, second, alike', flies, flies'⟩ :=
    alike.chain mem here there free unlinked
  exact ⟨context, k, l, Act.bind_of_done first _, Act.bind_of_done second _, alike', flies, flies'⟩

end AlikeBut

end Machine

end Covenant
