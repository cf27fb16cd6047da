import Covenant.Proofs.Machine.Links

/-!
# Actions that spare what is there

Reading something of a value makes new cells at most, and where it fails, a new fault is linked to
the one being handled. `Machine.Spares m n` says that this is all that happened between `m` and `n`:
every cell of `m` that is no fault is the same in `n`, and faults are still faults. An action spares
the machine (`Act.Sparing`) if that is so of all its runs and if what it raises is a fault. What is
put together from such actions is such an action (`Sparing.bind`), so for a definition it is enough
to look at its single steps.
-/

namespace Covenant

namespace Machine

/-- Between two machines cells were added, and of those that there were only faults have changed. -/
structure Spares (m n : Machine) : Prop where
  rest : n = { m with heap := n.heap }
  size : m.heap.size ≤ n.heap.size
  cell : ∀ r < m.heap.size, (∀ f, m.cell r ≠ .fault f) → n.cell r = m.cell r
  fault : ∀ r f, m.cell r = .fault f → ∃ g, n.cell r = .fault g

variable {m n k : Machine} {r e : Ref} {f g : Fault} {c : Cell}

namespace Spares

theorem refl (m : Machine) : m.Spares m :=
  ⟨rfl, Nat.le_refl _, fun _ _ _ => rfl, fun _ f here => ⟨f, here⟩⟩

theorem trans (first : m.Spares n) (second : n.Spares k) : m.Spares k where
  rest := by
    conv => lhs; rw [second.rest, first.rest]
  size := Nat.le_trans first.size second.size
  cell r lt other := by
    have same := first.cell r lt other
    rw [second.cell r (Nat.lt_of_lt_of_le lt first.size) (by rw [same]; exact other), same]
  fault r f here := by
    obtain ⟨g, there⟩ := first.fault r f here
    exact second.fault r g there

theorem push (m : Machine) (c : Cell) : m.Spares (m.push c) where
  rest := rfl
  size := by simp
  cell _ lt _ := cell_push_of_lt lt
  fault _ f here := ⟨f, (cell_push_of_lt (lt_size_of_cell here nofun)).trans here⟩

/-- A fault in place of another. -/
theorem put (here : m.cell r = .fault f) (g : Fault) : m.Spares (m.put r (.fault g)) where
  rest := rfl
  size := by simp
  cell s _ other := by
    refine cell_put_of_ne ?_
    rintro rfl
    exact other f here
  fault s f' there := by
    by_cases same : s = r
    · subst same
      exact ⟨g, cell_put_self (lt_size_of_cell here nofun)⟩
    · exact ⟨f', (cell_put_of_ne same).trans there⟩

/-- What stands in a cell and is no fault is still there. -/
theorem cell_eq (spared : m.Spares n) (here : m.cell r = c) (there : c ≠ .list [])
    (other : ∀ f, c ≠ .fault f) : n.cell r = c := by
  rw [spared.cell r (lt_size_of_cell here there) (by rw [here]; exact other), here]

end Spares

/-- Cutting the link to a fault spares all but a fault. -/
theorem spares_cutContext (m : Machine) (e : Ref) (steps : Nat) (r : Ref) :
    ∃ n, Act.cutContext e steps r m = (.done (), n) ∧ m.Spares n := by
  induction steps generalizing r with
  | zero => exact ⟨m, rfl, .refl m⟩
  | succ steps ih =>
    unfold Act.cutContext
    rw [Act.bind_of_done (Act.loadFault_apply r m)]
    cases context : (m.faultAt r).context with
    | none => exact ⟨m, rfl, .refl m⟩
    | some next =>
      dsimp only
      split
      · exact ⟨_, rfl, .put (cell_of_cause_or_context (.inr context)) _⟩
      · exact ih next

/-- Raising a fault spares all but faults. -/
theorem spares_raise (α : Type) (here : m.cell e = .fault f) :
    ∃ n g, (Act.raise e : Act α) m = (.raised e, n) ∧ m.Spares n ∧ n.cell e = .fault g := by
  by_cases alone : m.handling = none ∨ m.handling = some e
  · exact ⟨m, f, Act.bind_of_done (Act.chain_of_handling alone) _, .refl m, here⟩
  · obtain ⟨h, handled⟩ : ∃ h, m.handling = some h :=
      Option.ne_none_iff_exists'.1 fun free => alone (.inl free)
    have ne : h ≠ e := fun same => alone (.inr (same ▸ handled))
    obtain ⟨n, cut, spared⟩ := spares_cutContext m e m.heap.size h
    obtain ⟨g, there⟩ := spared.fault e f here
    refine ⟨n.put e (.fault { g with context := some h }), _, ?_, spared.trans (.put there _),
      cell_put_self (lt_size_of_cell there nofun)⟩
    unfold Act.raise Act.chain
    rw [bind_assoc, Act.read_bind, handled]
    dsimp only
    rw [if_neg ne]
    simp only [bind_assoc, Act.read_bind]
    rw [Act.bind_of_done cut, Act.bind_of_done (Act.loadFault_apply e n), faultAt_of_cell there]
    rfl

end Machine

namespace Act

/-- An action that adds to a machine, and changes nothing that was there but faults; what it raises
is a fault. -/
def Sparing {α : Type} (x : Act α) : Prop :=
  ∀ m, m.Spares (x m).2 ∧ ∀ e, (x m).1 = .raised e → ∃ f, (x m).2.cell e = .fault f

namespace Sparing

variable {α β : Type} {x : Act α} {f : α → Act β}

theorem pure (a : α) : Sparing (pure a : Act α) :=
  fun m => ⟨.refl m, nofun⟩

theorem read (g : Machine → α) : Sparing (read g) :=
  fun m => ⟨.refl m, nofun⟩

theorem load (r : Ref) : Sparing (load r) :=
  .read _

theorem alloc (c : Cell) : Sparing (alloc c) :=
  fun m => ⟨.push m c, nofun⟩

theorem bind (first : Sparing x) (rest : ∀ a, Sparing (f a)) : Sparing (x >>= f) := by
  intro m
  obtain ⟨spared, fault⟩ := first m
  cases ran : x m with
  | mk o n =>
    rw [ran] at spared fault
    cases o with
    | done a =>
      rw [bind_of_done ran]
      obtain ⟨spared', fault'⟩ := rest a n
      exact ⟨spared.trans spared', fault'⟩
    | raised e =>
      rw [bind_of_raised ran]
      refine ⟨spared, fun e' same => ?_⟩
      cases same
      exact fault e rfl
    | exhausted =>
      rw [bind_of_exhausted ran]
      exact ⟨spared, nofun⟩

theorem allocValue (c : Cell) : Sparing (allocValue c) :=
  .bind (.alloc c) fun r => .pure (Value.ref r)

theorem fail (cls : FaultClass) (message : String) : Sparing (fail cls message : Act α) := by
  intro m
  obtain ⟨n, g, raised, spared, there⟩ := Machine.spares_raise α
    (Machine.cell_push_size m (.fault (.fresh (.known (.fault cls)) [.text message] [])))
  have failed : (Act.fail cls message : Act α) m = (.raised m.heap.size, n) := by
    unfold Act.fail failWith newFault
    rw [bind_of_done (alloc_apply _ m)]
    exact raised
  rw [failed]
  refine ⟨(Machine.Spares.push m _).trans spared, fun e same => ?_⟩
  cases same
  exact ⟨g, there⟩

end Sparing

end Act

end Covenant
