import Covenant.Proofs.Span.Impartial

/-!
# Values and their classes

What the machine knows of classes has nothing to do with the span, so whatever is asked about a
value or its class is answered the same way under every span, and what only asks such things and
raises faults is impartial.
-/

namespace Covenant

namespace Machine

variable (m : Machine) (s : Span)

@[simp] theorem classes_under : (m.under s).classes = m.classes :=
  rfl

@[simp] theorem cell_under (r : Ref) : (m.under s).cell r = m.cell r :=
  rfl

@[simp] theorem classInfo?_under (c : ClassRef) : (m.under s).classInfo? c = m.classInfo? c := by
  cases c <;> rfl

@[simp] theorem className_under (c : ClassRef) : (m.under s).className c = m.className c := by
  cases c <;> rfl

@[simp] theorem qualifiedName_under (c : ClassRef) :
    (m.under s).qualifiedName c = m.qualifiedName c := by
  cases c <;> rfl

@[simp] theorem classFields_under (c : ClassRef) : (m.under s).classFields c = m.classFields c := by
  cases c <;> rfl

@[simp] theorem ancestry_under (steps : Nat) (c : ClassRef) :
    (m.under s).ancestry steps c = m.ancestry steps c := by
  induction steps generalizing c with
  | zero => cases c <;> rfl
  | succ steps ih =>
    have above : (m.under s).ancestry steps = m.ancestry steps := funext ih
    cases c with
    | known k => rfl
    | made n => simp [ancestry, above]

@[simp] theorem lineage_under (c : ClassRef) : (m.under s).lineage c = m.lineage c := by
  simp [lineage]

@[simp] theorem isSubclass_under (c d : ClassRef) :
    (m.under s).isSubclass c d = m.isSubclass c d := by
  simp [isSubclass]

@[simp] theorem classAttribute?_under (c : ClassRef) (name : String) :
    (m.under s).classAttribute? c name = m.classAttribute? c name := by
  simp [classAttribute?]

@[simp] theorem faultClass_under (c : ClassRef) : (m.under s).faultClass c = m.faultClass c := by
  simp [faultClass]

@[simp] theorem metaclass_under (c : ClassRef) : (m.under s).metaclass c = m.metaclass c := by
  simp [metaclass]

@[simp] theorem classOf_under (v : Value) : (m.under s).classOf v = m.classOf v := by
  cases v <;> simp [classOf]

@[simp] theorem typeName_under (v : Value) : (m.under s).typeName v = m.typeName v := by
  simp [typeName]

@[simp] theorem entryOf?_under (c : ClassRef) (name : String) :
    (m.under s).entryOf? c name = m.entryOf? c name := by
  have own : (m.under s).ownEntryOf? name = m.ownEntryOf? name := by
    funext d
    cases d <;> simp [ownEntryOf?]
  simp [entryOf?, own]

end Machine

namespace Act

variable {way : Way} {call : Caller} [∀ f args named, Impartial way (call f args named)]

/-! ## Asking the machine -/

instance (v : Value) : Impartial way (read (·.attachedTo v)) :=
  .read fun _ _ => rfl

instance (c : ClassRef) : Impartial way (read (·.className c)) :=
  .read fun _ _ => by simp

instance (c : ClassRef) : Impartial way (read (·.qualifiedName c)) :=
  .read fun _ _ => by simp

instance (c : ClassRef) : Impartial way (read (·.lineage c)) :=
  .read fun _ _ => by simp

instance (c : ClassRef) : Impartial way (read (·.faultClass c)) :=
  .read fun _ _ => by simp

instance (c : ClassRef) (name : String) : Impartial way (read (·.classAttribute? c name)) :=
  .read fun _ _ => by simp

instance (c : ClassRef) (name : String) : Impartial way (read (·.entryOf? c name)) :=
  .read fun _ _ => by simp

instance : Impartial way (read Machine.handling) :=
  .read fun _ _ => rfl

instance : Impartial way (read Machine.active) :=
  .read fun _ _ => rfl

/-! ## Raising -/

instance (r : Ref) : Impartial way (loadFault r) := by
  unfold loadFault
  refine .seq inferInstance fun _ => ?_
  split <;> infer_instance

instance (c : Cell) : Impartial way (allocValue c) := by
  unfold allocValue
  infer_instance

instance (cls : FaultClass) (args : List Value) : Impartial way (newFault cls args) := by
  unfold newFault
  infer_instance

instance (e : Ref) (steps : Nat) (r : Ref) : Impartial way (cutContext e steps r) := by
  induction steps generalizing r with
  | zero => exact .pure ()
  | succ steps ih =>
    rw [cutContext]
    refine .seq inferInstance fun _ => ?_
    split <;> infer_instance

instance (e : Ref) : Impartial way (chain e) := by
  unfold chain
  refine .seq inferInstance fun _ => ?_
  split
  · infer_instance
  · split
    · infer_instance
    · exact .seq (.read fun _ _ => rfl) inferInstance

instance {α : Type} (e : Ref) : Impartial way (raise e : Act α) := by
  unfold raise
  infer_instance

instance {α : Type} (e : Ref) (cause : Option Ref) :
    Impartial way (raiseFrom e cause : Act α) := by
  unfold raiseFrom
  infer_instance

instance {α : Type} (cls : FaultClass) (args : List Value) :
    Impartial way (failWith cls args : Act α) := by
  unfold failWith
  infer_instance

instance {α : Type} (cls : FaultClass) (message : String) :
    Impartial way (fail cls message : Act α) := by
  unfold fail
  infer_instance

instance (failure : Failure) : Impartial way (newFailure failure) := by
  unfold newFailure
  infer_instance

instance {α : Type} (failure : Failure) : Impartial way (failValidation failure : Act α) := by
  unfold failValidation
  infer_instance

/-! ## Classes -/

instance (e : Ref) : Impartial way (faultClassOf e) := by
  unfold faultClassOf
  infer_instance

instance (v : Value) : Impartial way (classOf v) := by
  unfold classOf
  exact .read fun _ _ => by simp

instance (v : Value) : Impartial way (typeName v) := by
  unfold typeName
  exact .read fun _ _ => by simp

/-! ## Special methods -/

instance (v : Value) (name : String) : Impartial way (special? v name) := by
  unfold special?
  exact .read fun _ _ => by simp

instance (v : Value) : Impartial way (bindsToObject v) := by
  unfold bindsToObject
  split <;> try infer_instance
  refine .seq inferInstance fun _ => ?_
  split <;> infer_instance

instance (found : Value) (cls : ClassRef) (self : Value) :
    Impartial way (describedBy call found cls self) := by
  unfold describedBy
  refine .seq inferInstance fun _ => ?_
  split
  · infer_instance
  · dsimp only
    split <;> infer_instance

instance (self found : Value) : Impartial way (throughObject call self found) := by
  unfold throughObject
  split
  · refine .seq inferInstance fun _ => ?_
    split <;> infer_instance
  · infer_instance

instance (self found : Value) (args : List Value) (named : Fields) :
    Impartial way (callThrough call self found args named) := by
  unfold callThrough
  infer_instance

instance (c : ClassRef) (found : Value) : Impartial way (throughClass call c found) := by
  unfold throughClass
  split
  · refine .seq inferInstance fun _ => ?_
    split <;> infer_instance
  · infer_instance

instance (v : Value) : Impartial way (isProperty v) := by
  unfold isProperty
  split
  · refine .seq inferInstance fun _ => ?_
    split <;> infer_instance
  · infer_instance

instance (v : Value) (name : String) (args : List Value) :
    Impartial way (callSpecial? call v name args) := by
  unfold callSpecial?
  refine .seq inferInstance fun _ => ?_
  split <;> infer_instance

instance {α : Type} (p : Script.Probe) (what : String) (r : Script.Reaction α) :
    Impartial way (react p what r) := by
  unfold react
  refine .seq (.record rfl) fun _ => ?_
  split <;> infer_instance

instance (v : Value) : Impartial way (indexOf? call v) := by
  unfold indexOf?
  split
  · infer_instance
  · refine .seq inferInstance fun _ => ?_
    split
    · infer_instance
    · split <;> infer_instance

instance (v : Value) : Impartial way (indexOf call v) := by
  unfold indexOf
  refine .seq inferInstance fun _ => ?_
  split <;> infer_instance

instance {α : Type} (cls : FaultClass) (v : Value) : Impartial way (failWord cls v : Act α) := by
  unfold failWord
  infer_instance

/-! ## Lengths and truth -/

instance (v : Value) : Impartial way (asLength call v) := by
  unfold asLength
  infer_instance

instance (v : Value) : Impartial way (ownLength? call v) := by
  unfold ownLength?
  refine .seq inferInstance fun _ => ?_
  split <;> infer_instance

instance (dict : Ref) : Impartial way (viewLength dict) := by
  unfold viewLength
  refine .seq inferInstance fun _ => ?_
  split <;> infer_instance

instance (v : Value) : Impartial way (length? call v) := by
  unfold length?
  split <;> try infer_instance
  all_goals
    refine .seq inferInstance fun _ => ?_
    split <;> infer_instance

instance (v : Value) : Impartial way (objectTruth call v) := by
  unfold objectTruth
  refine .seq inferInstance fun _ => ?_
  split <;> try infer_instance
  refine .seq inferInstance fun _ => ?_
  split <;> infer_instance

instance (v : Value) : Impartial way (truth call v) := by
  unfold truth
  split <;> try infer_instance
  refine .seq inferInstance fun _ => ?_
  split <;> infer_instance

instance (v : Value) : Impartial way (length call v) := by
  unfold length
  refine .seq inferInstance fun _ => ?_
  split <;> infer_instance

end Act

end Covenant
