import Covenant.Proofs.Machine.Growth
import Mathlib.Logic.Relation

/-!
# The links between faults

Behind a fault stands its cause or, if it has none, the fault that was being handled when it was
raised (`Machine.behind`). `Machine.Leads` is the way from a fault to another along these links.

A fault that is raised for the first time (`Machine.IsNew`) is linked to the one being handled, and
a link to it from further up that chain is cut, lest the chain become a cycle. No way to another
fault comes through a fault that nothing stands behind (`Leads.avoid`), so whatever could be reached
from the fault being handled can be reached from the one raised: `leads_of_raise`, and
`leads_of_raiseFrom` if it is raised from the one being handled.
-/

namespace Covenant

/-- What stands behind a fault: its cause if that is set, and else its context. -/
def Fault.behind (f : Fault) : Option Ref :=
  f.cause.or f.context

namespace Machine

/-- What stands behind the fault at an address. -/
def behind (m : Machine) (e : Ref) : Option Ref :=
  (m.faultAt e).behind

/-- The fault `x` is reached from `y` by stepping to what stands behind, any number of times. -/
def Leads (m : Machine) : Ref → Ref → Prop :=
  Relation.ReflTransGen fun y z => m.behind y = some z

/-- A fault that has neither cause nor context, as one that has not been raised yet. -/
def IsNew (m : Machine) (e : Ref) : Prop :=
  ∃ f, m.cell e = .fault f ∧ f.cause = none ∧ f.context = none

/-- Between two machines no fault has lost what stands behind it, and the same fault is being
handled. -/
structure KeepsLinks (m n : Machine) : Prop where
  handling : n.handling = m.handling
  behind : ∀ e z, m.behind e = some z → n.behind e = some z

variable {m n k : Machine} {e h r x y : Ref} {f : Fault}

theorem behind_of_cell (here : m.cell e = .fault f) : m.behind e = f.behind := by
  simp only [behind, faultAt_of_cell here]

theorem behind_of_same_cell (same : n.cell e = m.cell e) : n.behind e = m.behind e := by
  simp only [behind, faultAt, same]

theorem IsNew.behind (new : m.IsNew e) : m.behind e = none := by
  obtain ⟨f, here, cause, context⟩ := new
  rw [behind_of_cell here, Fault.behind, cause, context]
  rfl

/-- Only where a fault stands can another stand behind it. -/
theorem cell_of_cause_or_context
    (h : (m.faultAt e).cause = some x ∨ (m.faultAt e).context = some x) :
    m.cell e = .fault (m.faultAt e) := by
  unfold faultAt at h ⊢
  cases here : m.cell e <;> rw [here] at h <;> first | rfl | simp [Fault.fresh] at h

theorem cell_of_behind (h : m.behind e = some x) : m.cell e = .fault (m.faultAt e) := by
  refine cell_of_cause_or_context (x := x) ?_
  unfold Machine.behind Fault.behind at h
  cases cause : (m.faultAt e).cause with
  | some c => rw [cause] at h; exact .inl h
  | none => rw [cause] at h; exact .inr h

namespace KeepsLinks

theorem refl (m : Machine) : m.KeepsLinks m :=
  ⟨rfl, fun _ _ h => h⟩

theorem trans (first : m.KeepsLinks n) (second : n.KeepsLinks k) : m.KeepsLinks k :=
  ⟨second.handling.trans first.handling, fun e z h => second.behind e z (first.behind e z h)⟩

/-- What could be reached still can. -/
theorem leads (kept : m.KeepsLinks n) (h : m.Leads y x) : n.Leads y x :=
  Relation.ReflTransGen.mono kept.behind y x h

end KeepsLinks

/-- All links are kept where nothing happens to the cells that there are. -/
theorem KeepsLinks.of_cell (handling : n.handling = m.handling)
    (same : ∀ r < m.heap.size, n.cell r = m.cell r) : m.KeepsLinks n := by
  refine ⟨handling, fun e z h => ?_⟩
  rw [behind_of_same_cell (same e (lt_size_of_cell (cell_of_behind h) nofun)), h]

/-- A new cell takes no link from a fault. -/
theorem KeepsLinks.push (m : Machine) (c : Cell) : m.KeepsLinks (m.push c) :=
  .of_cell rfl fun _ lt => cell_push_of_lt lt

/-- A run that writes to no cell keeps all links. -/
theorem Grows.keepsLinks (grew : m.Grows [] n) : m.KeepsLinks n :=
  .of_cell grew.handling fun r lt => grew.cell r lt List.not_mem_nil

/-- A way to another fault does not come through a fault that nothing stands behind, so it is still
there when only that one and the links to it have changed. -/
theorem Leads.avoid (way : m.Leads y x) (last : m.behind e = none) (other : e ≠ x)
    (kept : ∀ s z, s ≠ e → z ≠ e → m.behind s = some z → k.behind s = some z) : k.Leads y x := by
  induction way using Relation.ReflTransGen.head_induction_on with
  | refl => exact .refl
  | @head y z step rest ih =>
    have source : y ≠ e := by
      rintro rfl
      exact absurd (last.symm.trans step) nofun
    have target : z ≠ e := by
      rintro rfl
      rcases rest.cases_head with same | ⟨z', step', -⟩
      · exact other same
      · exact absurd (last.symm.trans step') nofun
    exact .head (kept y z source target step) ih

end Machine

namespace Act

variable {m k : Machine} {e h r x : Ref} {f : Fault} {α : Type}

/-- Cutting the link to a fault changes nothing about that fault, and no other link. -/
theorem cutContext_apply (steps : Nat) (ne : r ≠ e) : ∃ k, cutContext e steps r m = (.done (), k) ∧
    k = { m with heap := k.heap } ∧ k.cell e = m.cell e ∧
    ∀ s z, z ≠ e → m.behind s = some z → k.behind s = some z := by
  induction steps generalizing r with
  | zero => exact ⟨m, rfl, rfl, rfl, fun _ _ _ h => h⟩
  | succ steps ih =>
    unfold cutContext
    rw [bind_of_done (loadFault_apply r m)]
    cases context : (m.faultAt r).context with
    | none => exact ⟨m, rfl, rfl, rfl, fun _ _ _ h => h⟩
    | some next =>
      dsimp only
      by_cases found : next = e
      · rw [if_pos found]
        refine ⟨m.put r (.fault { m.faultAt r with context := none }), rfl, rfl,
          Machine.cell_put_of_ne ne.symm, fun s z target h => ?_⟩
        have here := Machine.cell_of_cause_or_context (.inr context)
        by_cases at_r : s = r
        · subst at_r
          -- the link that is cut is none that a walk follows, unless it leads to the fault itself
          rw [Machine.behind_of_cell here] at h
          rw [Machine.behind_of_cell (Machine.cell_put_self (Machine.lt_size_of_cell here nofun))]
          unfold Fault.behind at h ⊢
          rw [context, found] at h
          cases cause : (m.faultAt s).cause with
          | none => rw [cause] at h; exact absurd (Option.some.inj h).symm target
          | some c => rw [cause] at h; exact h
        · rw [Machine.behind_of_same_cell (Machine.cell_put_of_ne at_r), h]
      · rw [if_neg found]
        exact ih found

/-- Chaining a fault to another one that is being handled. -/
theorem chain_apply (handled : m.handling = some h) (ne : h ≠ e) (here : m.cell e = .fault f) :
    ∃ k, chain e m = (.done (), k) ∧ k = { m with heap := k.heap } ∧
      k.cell e = .fault { f with context := some h } ∧
      ∀ s z, s ≠ e → z ≠ e → m.behind s = some z → k.behind s = some z := by
  obtain ⟨k, cut, rest, same, kept⟩ := cutContext_apply (m := m) m.heap.size ne
  have stands : k.cell e = .fault f := same.trans here
  refine ⟨k.put e (.fault { f with context := some h }), ?_, ?_,
    Machine.cell_put_self (Machine.lt_size_of_cell stands nofun), fun s z source target step => ?_⟩
  · unfold chain
    rw [read_bind, handled]
    dsimp only
    rw [if_neg ne, read_bind, bind_of_done cut, bind_of_done (loadFault_apply e k),
      Machine.faultAt_of_cell stands]
    rfl
  · rw [rest]
    rfl
  · rw [Machine.behind_of_same_cell (Machine.cell_put_of_ne source)]
    exact kept s z target step

/-- A fault is not chained to itself, nor to anything where nothing is being handled. -/
theorem chain_of_handling (alone : m.handling = none ∨ m.handling = some e) :
    chain e m = (.done (), m) := by
  unfold chain
  rw [read_bind]
  rcases alone with handled | handled <;> rw [handled]
  · rfl
  · dsimp only
    rw [if_pos rfl]
    rfl

/-- Raising changes nothing but the links of faults; of the one that is raised, the context. -/
theorem exists_raise (α : Type) (here : m.cell e = .fault f) :
    ∃ k context, (raise e : Act α) m = (.raised e, k) ∧ k = { m with heap := k.heap } ∧
      k.cell e = .fault { f with context } := by
  by_cases alone : m.handling = none ∨ m.handling = some e
  · exact ⟨m, f.context, bind_of_done (chain_of_handling alone) _, rfl, here⟩
  · obtain ⟨h, handled⟩ : ∃ h, m.handling = some h :=
      Option.ne_none_iff_exists'.1 fun free => alone (.inl free)
    have ne : h ≠ e := fun same => alone (.inr (same ▸ handled))
    obtain ⟨k, chained, rest, stands, -⟩ := chain_apply handled ne here
    exact ⟨k, some h, bind_of_done chained _, rest, stands⟩

/-- A new fault with a message is raised, and nothing has changed but the links of faults. -/
theorem exists_fail (α : Type) (cls : FaultClass) (message : String) (m : Machine) :
    ∃ k context, (fail cls message : Act α) m = (.raised m.heap.size, k) ∧
      k = { m with heap := k.heap } ∧
      k.cell m.heap.size =
        .fault { Fault.fresh (.known (.fault cls)) [.text message] [] with context } := by
  obtain ⟨k, context, raised, rest, stands⟩ := exists_raise α
    (Machine.cell_push_size m (.fault (.fresh (.known (.fault cls)) [.text message] [])))
  refine ⟨k, context, ?_, by rw [rest]; rfl, stands⟩
  unfold fail failWith newFault
  rw [bind_of_done (alloc_apply _ m)]
  exact raised

/-- What follows the raising of a fault is not done. -/
theorem raise_bind {α β : Type} (e : Ref) (f : α → Act β) :
    ((raise e : Act α) >>= f) = raise e :=
  bind_assoc (chain e) (fun _ => rethrow e) f

/-- What follows a failure is not done. -/
theorem fail_bind {α β : Type} (cls : FaultClass) (message : String) (f : α → Act β) :
    ((fail cls message : Act α) >>= f) = fail cls message := by
  unfold fail failWith
  rw [bind_assoc]
  congr 1
  funext e
  exact raise_bind e f

/-- Raising from another fault sets the cause besides. -/
theorem exists_raiseFrom (α : Type) (here : m.cell e = .fault f) (cause : Option Ref) :
    ∃ k context, (raiseFrom e cause : Act α) m = (.raised e, k) ∧ k = { m with heap := k.heap } ∧
      k.cell e = .fault { f with cause, suppressed := true, context } := by
  obtain ⟨k, context, raised, rest, stands⟩ := exists_raise α
    (Machine.cell_put_self (c := .fault { f with cause, suppressed := true })
      (Machine.lt_size_of_cell here nofun))
  refine ⟨k, context, ?_, by rw [rest]; rfl, stands⟩
  unfold raiseFrom
  rw [bind_of_done (loadFault_apply e m), Machine.faultAt_of_cell here]
  exact (bind_of_done (store_apply e _ m) _).trans raised

/-- A new fault is raised, whatever is being handled. -/
theorem raise_of_isNew (α : Type) (new : m.IsNew e) :
    (raise e : Act α) m = (.raised e, ((raise e : Act α) m).2) := by
  obtain ⟨f, here, -⟩ := new
  obtain ⟨k, -, raised, -⟩ := exists_raise α here
  rw [raised]

/-- So it is from another one. -/
theorem raiseFrom_of_isNew (α : Type) (new : m.IsNew e) (cause : Option Ref) :
    (raiseFrom e cause : Act α) m = (.raised e, ((raiseFrom e cause : Act α) m).2) := by
  obtain ⟨f, here, -⟩ := new
  obtain ⟨k, -, raised, -⟩ := exists_raiseFrom α here cause
  rw [raised]

/-- A new fault that is raised leads wherever the fault being handled does. -/
theorem leads_of_raise (handled : m.handling = some h) (new : m.IsNew e) (way : m.Leads h x)
    (raised : (raise e : Act α) m = (.raised e, k)) : k.Leads e x := by
  by_cases itself : h = e
  · subst itself
    have alone := chain_of_handling (.inr handled)
    have same : m = k := (Prod.mk.inj ((bind_of_done alone _).symm.trans raised)).2
    rwa [← same]
  · have last : m.behind e = none := new.behind
    obtain ⟨f, here, cause, -⟩ := new
    obtain ⟨k', chained, -, stands, kept⟩ := chain_apply handled itself here
    have same : k' = k := (Prod.mk.inj ((bind_of_done chained _).symm.trans raised)).2
    have behind : k'.behind e = some h := by
      rw [Machine.behind_of_cell stands, Fault.behind, cause]
      rfl
    rw [← same]
    by_cases target : e = x
    · rw [target]
      exact .refl
    · exact .head behind (way.avoid last target kept)

/-- A new fault that is raised from the one being handled leads wherever that one does. -/
theorem leads_of_raiseFrom (handled : m.handling = some h) (new : m.IsNew e) (way : m.Leads h x)
    (raised : (raiseFrom e (some h) : Act α) m = (.raised e, k)) : k.Leads e x := by
  by_cases target : e = x
  · rw [target]
    exact .refl
  · have last : m.behind e = none := new.behind
    obtain ⟨f, here, -, -⟩ := new
    have itself : h ≠ e := by
      rintro rfl
      rcases way.cases_head with same | ⟨z, step, -⟩
      · exact target same
      · exact absurd (last.symm.trans step) nofun
    let caused : Fault := { f with cause := some h, suppressed := true }
    have there : (m.put e (.fault caused)).cell e = .fault caused :=
      Machine.cell_put_self (Machine.lt_size_of_cell here nofun)
    obtain ⟨k', chained, -, stands, kept⟩ :=
      chain_apply (m := m.put e (.fault caused)) handled itself there
    have behind : k'.behind e = some h := Machine.behind_of_cell stands
    have run : (raiseFrom e (some h) : Act α) m = (.raised e, k') := by
      unfold raiseFrom
      rw [bind_of_done (loadFault_apply e m), Machine.faultAt_of_cell here,
        bind_of_done (store_apply e (.fault caused) m)]
      exact bind_of_done chained _
    have same : k' = k := (Prod.mk.inj (run.symm.trans raised)).2
    rw [← same]
    refine .head behind (way.avoid last target fun s z source other step => ?_)
    refine kept s z source other ?_
    rw [Machine.behind_of_same_cell (Machine.cell_put_of_ne source), step]

end Act

end Covenant
