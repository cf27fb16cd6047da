import Covenant.Proofs.Machine.Growth
import Covenant.Script.Construct

/-!
# Attributes on a plain machine

Where no script has changed an initial class, what the class has under a name is settled
(`Known.entryOf?`, `Known.attribute?`), and so is what reading an attribute gives. A method that is
read through an object is a new cell (`getAttribute_of_method`); a field of an object and the parts
of a violation that its report asks for are read without any change. What is set is written to the
cell of the object (`setAttribute_of_open`).
-/

namespace Covenant

namespace Known

/-- What an initial class itself has under a name from the start. -/
def ownEntryOf? (k : Known) (name : String) : Option ClassEntry :=
  match k.fields.get? name with
  | some v => some (.set v)
  | none => (k.nature? name).map (.natural k)

/-- What an initial class or one above it has under a name from the start. -/
def entryOf? (k : Known) (name : String) : Option ClassEntry :=
  (k :: k.above ++ [Known.object]).findSome? (·.ownEntryOf? name)

/-- Whether objects of an initial class that are made by the demos hold fields and nothing else. -/
def isSimple : Known → Bool
  | .account | .queue | .positive => true
  | _ => false

variable {k : Known}

theorem usual_of_isSimple (h : k.isSimple = true) :
    k.attribute? (special "getattribute") = none := by
  unfold isSimple at h
  split at h
  · rfl
  · rfl
  · rfl
  · cases h

theorem ne_snapshot_of_isSimple (h : k.isSimple = true) : k ≠ .snapshot := by
  rintro rfl
  cases h

theorem ne_auxiliary_of_isSimple (h : k.isSimple = true) (name : String) : k ≠ .auxiliary name := by
  rintro rfl
  cases h

/-- Whether objects of an initial class that are made by the demos can be given attributes. -/
def isOpen : Known → Bool
  | .account | .queue => true
  | _ => false

theorem usual_setattr_of_isOpen (h : k.isOpen = true) :
    k.attribute? (special "setattr") = none := by
  unfold isOpen at h
  split at h
  · rfl
  · rfl
  · cases h

theorem ne_auxiliary_of_isOpen (h : k.isOpen = true) (name : String) : k ≠ .auxiliary name := by
  rintro rfl
  cases h

end Known

namespace Machine

variable {m : Machine}

theorem lineage_known (m : Machine) (k : Known) :
    m.lineage (.known k) = (k :: k.above).map .known := by
  unfold lineage
  cases m.classes.size <;> rfl

/-- The nearest initial class of a fault of an initial class is that class. -/
theorem faultClassAt_of_cell {e : Ref} {f : Fault} {cls : FaultClass} (cell : m.cell e = .fault f)
    (own : f.cls = .known (.fault cls)) : m.faultClassAt e = cls := by
  unfold faultClassAt faultClass
  rw [faultAt_of_cell cell, own, lineage_known]
  rfl

/-- The nearest initial class of an initial class is that class. -/
theorem knownAbove_known (m : Machine) (k : Known) : Act.knownAbove m (.known k) = k := by
  unfold Act.knownAbove
  rw [lineage_known]
  rfl

/-- No script has changed what the initial classes have under a name. -/
def Untouched (m : Machine) (name : String) : Prop :=
  ∀ k, (m.classFields (.known k)).get? name = k.fields.get? name

namespace Untouched

variable {name : String}

theorem ownEntryOf? (untouched : m.Untouched name) (k : Known) :
    m.ownEntryOf? name (.known k) = k.ownEntryOf? name := by
  unfold Machine.ownEntryOf? Known.ownEntryOf?
  rw [untouched k]
  cases k.fields.get? name <;> rfl

theorem entryOf? (untouched : m.Untouched name) (k : Known) :
    m.entryOf? (.known k) name = k.entryOf? name := by
  unfold Machine.entryOf? Known.entryOf?
  rw [lineage_known, ← List.map_singleton, ← List.map_append, List.findSome?_map]
  congr 1
  funext d
  exact untouched.ownEntryOf? d

theorem classAttribute? (untouched : m.Untouched name) (k : Known) :
    m.classAttribute? (.known k) name = k.attribute? name := by
  unfold Machine.classAttribute? Known.attribute?
  rw [lineage_known, List.findSome?_map]
  congr 1
  funext d
  exact untouched d

/-- Only scripts change the attributes of the initial classes. -/
theorem of_patches {n : Machine} (untouched : m.Untouched name) (patches : n.patches = m.patches) :
    n.Untouched name := by
  intro k
  have same : n.classFields (.known k) = m.classFields (.known k) := by
    simp [Machine.classFields, patches]
  rw [same]
  exact untouched k

/-- Of the attributes of the initial classes those stay that are set anew as they are. -/
theorem setClassFields {cls : ClassRef} {fields : Fields} (untouched : m.Untouched name)
    (same : fields.get? name = (m.classFields cls).get? name) :
    (m.setClassFields cls fields).Untouched name := by
  intro d
  cases cls with
  | made n =>
    have patches : (m.setClassFields (.made n) fields).patches = m.patches := by
      unfold Machine.setClassFields
      dsimp only
      split <;> rfl
    exact untouched.of_patches patches d
  | known k =>
    by_cases itself : k = d
    · subst itself
      have now : (m.setClassFields (.known k) fields).classFields (.known k) = fields := by
        simp [Machine.setClassFields, Machine.classFields]
      rw [now, same, untouched k]
    · have still : (m.setClassFields (.known k) fields).classFields (.known d) =
          m.classFields (.known d) := by
        have others : (m.patches.filter (·.1 != k)).find? (·.1 == d) =
            m.patches.find? (·.1 == d) := by
          rw [List.find?_filter]
          congr 1
          funext p
          by_cases here : p.1 = d
          · simp [here, Ne.symm itself]
          · simp [here]
        have first : (k == d) = false := beq_eq_false_iff_ne.2 itself
        simp only [Machine.setClassFields, Machine.classFields, List.find?_cons, first, others]
      rw [still, untouched d]

end Untouched

/-- Where no script has changed an initial class, what they have is as from the start. -/
theorem untouched_of_patches (patches : m.patches = []) (name : String) : m.Untouched name :=
  fun k => by simp [Machine.classFields, patches]

theorem Plain.untouched (plain : m.Plain) (name : String) : m.Untouched name :=
  untouched_of_patches plain.patches name

theorem Plain.entryOf? (plain : m.Plain) (k : Known) (name : String) :
    m.entryOf? (.known k) name = k.entryOf? name :=
  (plain.untouched name).entryOf? k

theorem Plain.classAttribute? (plain : m.Plain) (k : Known) (name : String) :
    m.classAttribute? (.known k) name = k.attribute? name :=
  (plain.untouched name).classAttribute? k

theorem classOf_ref (m : Machine) (r : Ref) : m.classOf (.ref r) = cellClass (m.cell r) :=
  rfl

theorem Plain.attachedTo (plain : m.Plain) (v : Value) : m.attachedTo v = [] := by
  simp [Machine.attachedTo, plain.attached]

end Machine

namespace Act

variable {call : Caller} {m n : Machine} {k : Known} {r : Ref} {v x found : Value} {name : String}
  {fields : Fields}

/-! ## Reading -/

/-- What the usual rules give is what is read. -/
theorem getAttribute_of_done (h : lookUpByClass call v name m = (.done x, n)) :
    getAttribute call v name m = (.done x, n) := by
  unfold getAttribute
  rw [bind_of_done (attempt_of_done h)]
  rfl

/-- A special method is what the class has under its name. -/
theorem special?_of_untouched (untouched : m.Untouched (special name))
    (cls : m.classOf v = .known k) :
    special? v name m = (.done (k.attribute? (special name)), m) := by
  simp [special?, cls, untouched.classAttribute?]

theorem special?_of_plain (plain : m.Plain) (cls : m.classOf v = .known k) (name : String) :
    special? v name m = (.done (k.attribute? (special name)), m) :=
  special?_of_untouched (plain.untouched _) cls

/-- Where the class has no special method, none is called. -/
theorem callSpecial?_of_untouched (untouched : m.Untouched (special name))
    (cls : m.classOf v = .known k) (usual : k.attribute? (special name) = none)
    (args : List Value) : callSpecial? call v name args m = (.done none, m) := by
  unfold callSpecial?
  rw [bind_of_done (special?_of_untouched untouched cls), usual]
  rfl

/-- Most classes leave look-up to the usual rules. -/
theorem lookUpByClass_of_untouched (untouched : m.Untouched (special "getattribute"))
    (cls : m.classOf v = .known k) (usual : k.attribute? (special "getattribute") = none) :
    lookUpByClass call v name m = lookUp call v name m := by
  unfold lookUpByClass
  rw [bind_of_done (special?_of_untouched untouched cls), usual]

theorem lookUpByClass_of_plain (plain : m.Plain) (cls : m.classOf v = .known k)
    (usual : k.attribute? (special "getattribute") = none) :
    lookUpByClass call v name m = lookUp call v name m :=
  lookUpByClass_of_untouched (plain.untouched _) cls usual

/-- What the class has under a name is what the look-up starts from. -/
theorem lookUpInObject_of_set (untouched : m.Untouched name) (cls : m.classOf v = .known k)
    (ordinary : k ≠ .snapshot) (entry : k.entryOf? name = some (.set found))
    (fixed : isProperty found m = (.done false, m)) (own : ownField? v name m = (.done none, m)) :
    lookUpInObject call v name m = throughObject call v found m := by
  unfold lookUpInObject
  simp only [classOf_bind, read_bind, cls, untouched.entryOf?, entry]
  rw [bind_of_done fixed]
  simp only [ordinary, ClassRef.known.injEq, Bool.or_false, beq_false_of_ne, ne_eq,
    not_false_eq_true, Bool.false_eq_true, if_false]
  rw [bind_of_done own]

/-- Where the class has nothing under a name, the object's own field is what is read. -/
theorem lookUpInObject_of_none (untouched : m.Untouched name) (cls : m.classOf v = .known k)
    (entry : k.entryOf? name = none) (own : ownField? v name m = (.done (some x), m)) :
    lookUpInObject call v name m = (.done x, m) := by
  unfold lookUpInObject
  simp only [classOf_bind, read_bind, cls, untouched.entryOf?, entry]
  rw [bind_of_done own]
  rfl

/-- The fields that an object has itself are those in its cell. -/
theorem ownFields_of_object (cell : m.cell r = .object (.known k) fields)
    (own : ∀ name, k ≠ .auxiliary name) : ownFields (.ref r) m = (.done fields, m) := by
  unfold ownFields
  simp only [load_bind, cell]
  cases k with
  | auxiliary name => exact absurd rfl (own name)
  | _ => rfl

/-- A field that an object has itself. -/
theorem ownField?_of_object (cell : m.cell r = .object (.known k) fields)
    (own : ∀ name, k ≠ .auxiliary name) (plain : m.Plain) :
    ownField? (.ref r) name m = (.done (fields.get? name), m) := by
  unfold ownField?
  dsimp only
  rw [read_bind, plain.attachedTo]
  exact bind_of_done (ownFields_of_object cell own) _

/-! ## Objects that are looked up by the usual rules -/

/-- A function of a class is bound to the object that it is read through. -/
theorem getAttribute_of_method (plain : m.Plain) (cell : m.cell r = .object (.known k) fields)
    (simple : k.isSimple = true) {routine : Routine} (binds : Machine.bindsRoutine routine = true)
    (entry : k.entryOf? name = some (.set (.routine routine))) (own : fields.get? name = none) :
    getAttribute call (.ref r) name m =
      (.done (.ref m.heap.size), m.push (.bound (.ref r) (.routine routine))) := by
  have cls : m.classOf (.ref r) = .known k := by simp [Machine.classOf, cell, Machine.cellClass]
  apply getAttribute_of_done
  rw [lookUpByClass_of_plain plain cls (Known.usual_of_isSimple simple)]
  have missing : ownField? (.ref r) name m = (.done none, m) := by
    rw [ownField?_of_object cell (Known.ne_auxiliary_of_isSimple simple) plain, own]
  simp only [lookUp, load_bind, cell]
  rw [lookUpInObject_of_set (plain.untouched _) cls (Known.ne_snapshot_of_isSimple simple) entry rfl
    missing]
  unfold throughObject
  simp [bindsToObject, binds]

/-! ## Setting -/

/-- What is set goes into the cell of the object. -/
theorem setAttribute_of_open (plain : m.Plain) (cell : m.cell r = .object (.known k) fields)
    (takes : k.isOpen = true) (entry : k.entryOf? name = none) :
    setAttribute call (.ref r) name x m =
      (.done (), m.put r (.object (.known k) (fields.set name x))) := by
  have cls : m.classOf (.ref r) = .known k := by simp [Machine.classOf, cell, Machine.cellClass]
  have usual : k.attribute? (special "setattr") = none := Known.usual_setattr_of_isOpen takes
  have unfrozen : m.recordNames? (.known k) = none := by
    unfold Machine.recordNames?
    rw [Machine.lineage_known]
    cases k <;> first | rfl | cases takes
  have taken : takesAttributes (.ref r) m = (.done true, m) := by
    simp only [takesAttributes, load_bind, cell]
    cases k <;> first | rfl | cases takes
  unfold setAttribute
  rw [bind_of_done (special?_of_plain plain cls _), usual]
  simp only [changeByKind, load_bind, cell, read_bind, unfrozen, Option.any_none,
    Bool.false_eq_true, if_false]
  simp only [changeByNature, classOf_bind, read_bind, cls, plain.entryOf?, entry, pure_bind,
    Bool.false_eq_true, if_false]
  rw [bind_of_done taken]
  simp only [if_true, changeField, takenFields, bind_assoc, load_bind, cell]
  rw [bind_of_done (ownFields_of_object cell (Known.ne_auxiliary_of_isOpen takes))]
  simp [putFields, cell]

end Act

end Covenant
