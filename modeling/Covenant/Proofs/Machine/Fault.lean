import Covenant.Contract.Runner

/-!
# Faults of a machine

What an action finds out about a fault is a function of the machine it runs on: the fault at an
address (`Machine.faultAt`), its nearest initial class (`Machine.faultClassAt`), and whether a
runner treats it as ordinary (`Machine.isOrdinary`). The actions that ask for them leave the
machine alone.
-/

namespace Covenant

namespace Machine

/-- The fault at an address; a bare fault of the root class if something else stands there. -/
def faultAt (m : Machine) (e : Ref) : Fault :=
  match m.cell e with
  | .fault f => f
  | _ => .fresh (.known (.fault .baseException)) [] []

theorem faultAt_of_cell {m : Machine} {e : Ref} {f : Fault} (here : m.cell e = .fault f) :
    m.faultAt e = f := by
  simp only [faultAt, here]

/-- The nearest initial class of faults of the fault at an address. -/
def faultClassAt (m : Machine) (e : Ref) : FaultClass :=
  m.faultClass (m.faultAt e).cls

/-- Whether the fault at an address is an exception that is no violation. -/
def isOrdinary (m : Machine) (e : Ref) : Bool :=
  (m.faultClassAt e).isA .exception && !(m.faultClassAt e).isA .violation

/-- A violation is never ordinary, and neither is what is no exception. -/
theorem isOrdinary_eq_false_iff {m : Machine} {e : Ref} :
    m.isOrdinary e = false ↔
      (m.faultClassAt e).isA .violation = true ∨ (m.faultClassAt e).isA .exception = false := by
  unfold isOrdinary
  cases (m.faultClassAt e).isA .violation <;> cases (m.faultClassAt e).isA .exception <;> simp

/-! ### What the class of a fault depends on -/

section Dependence

variable {m n : Machine} {e : Ref}

theorem ancestry_of_classes (h : n.classes = m.classes) (steps : Nat) (c : ClassRef) :
    n.ancestry steps c = m.ancestry steps c := by
  induction steps generalizing c with
  | zero => cases c <;> rfl
  | succ steps ih =>
    cases c with
    | known k => rfl
    | made i =>
      have info : n.classInfo? (.made i) = m.classInfo? (.made i) := by simp [classInfo?, h]
      have above : n.ancestry steps = m.ancestry steps := funext ih
      simp only [ancestry, info, above]

/-- Of a class only the classes made by scripts say what it is as a class of faults. -/
theorem faultClass_of_classes (h : n.classes = m.classes) (c : ClassRef) :
    n.faultClass c = m.faultClass c := by
  have lineage : n.lineage c = m.lineage c := by
    unfold lineage
    rw [ancestry_of_classes h, h]
  simp only [faultClass, lineage]

/-- A fault stays ordinary, or not, for as long as its cell and the classes stay what they are. -/
theorem isOrdinary_of_cell (classes : n.classes = m.classes) (cell : n.cell e = m.cell e) :
    n.isOrdinary e = m.isOrdinary e := by
  have fault : n.faultAt e = m.faultAt e := by simp only [faultAt, cell]
  have cls : n.faultClassAt e = m.faultClassAt e := by
    unfold faultClassAt
    rw [fault, faultClass_of_classes classes]
  simp only [isOrdinary, cls]

end Dependence

end Machine

/-- The violation of an invariant is a violation. -/
theorem FaultClass.isA_violation_of_isA_invariantError {f : FaultClass}
    (h : f.isA .invariantError = true) : f.isA .violation = true := by
  cases f <;> first | rfl | cases h

namespace Act

@[simp] theorem loadFault_apply (e : Ref) (m : Machine) :
    loadFault e m = (.done (m.faultAt e), m) := by
  unfold loadFault Machine.faultAt
  rw [bind_of_done (load_apply e m)]
  cases m.cell e <;> rfl

@[simp] theorem faultClassOf_apply (e : Ref) (m : Machine) :
    faultClassOf e m = (.done (m.faultClassAt e), m) := by
  unfold faultClassOf
  rw [bind_of_done (loadFault_apply e m)]
  rfl

@[simp] theorem isOrdinary_apply (e : Ref) (m : Machine) :
    isOrdinary e m = (.done (m.isOrdinary e), m) := by
  unfold isOrdinary
  rw [bind_of_done (faultClassOf_apply e m)]
  rfl

end Act

end Covenant
