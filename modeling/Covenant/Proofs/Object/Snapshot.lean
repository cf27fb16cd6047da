import Covenant.Proofs.Contract.Unwinding
import Covenant.Proofs.Machine.Sparing
import Covenant.Proofs.Object.Attribute
import Covenant.Script.Call
import Mathlib.Data.List.Induction

/-!
# Snapshots in use

A snapshot keeps what was captured (`snapshots_stay_as_taken`): after any deeds of a program its
fields are read back, they are taken out as new dictionaries that nothing else writes to, and what
it has is neither deleted nor assigned to. Names that start with an underscore are outside of that
last rule: assigning to one attaches a value to the snapshot, and that is what is read from then on
(`hidden_field_is_not_frozen`), although a dictionary that is taken out has the captured value.

The names that can be captured are those that the class of snapshots does not have, which is checked
against the lists of its attributes once (`Snapshot.isReserved_of_natural`). So what is read under
such a name is what was attached or else captured (`Standing.getAttribute_of_some`). Reading any
other name makes new cells at most (`Standing.getAttribute_spares`), and a change that is refused
makes the fault that says so (`Frozen`). `Standing` is what each deed keeps (`Standing.perform`),
hence any number of them (`Standing.performAll`).
-/

namespace Covenant

/-! ## Names that are given more than once -/

namespace Fields

/-- Setting a name that is new puts it last. -/
theorem map_fst_set (fields : Fields) (name : String) (v : Value) :
    (set fields name v).map (·.1) =
      fields.map (·.1) ++ if name ∈ fields.map (·.1) then [] else [name] := by
  unfold set
  have known : fields.any (·.1 == name) = true ↔ name ∈ fields.map (·.1) := by simp
  by_cases there : name ∈ fields.map (·.1)
  · rw [if_pos (known.2 there), if_pos there, List.append_nil, List.map_map]
    refine List.map_congr_left fun p _ => ?_
    by_cases same : p.1 = name <;> simp [same]
  · rw [if_neg (mt known.1 there), if_neg there, List.map_append]
    rfl

theorem ofList_concat (entries : List (String × Value)) (p : String × Value) :
    ofList (entries ++ [p]) = (ofList entries).set p.1 p.2 :=
  List.foldl_append

/-- The names stand in the order in which they were first given. -/
theorem map_fst_ofList (entries : List (String × Value)) :
    (ofList entries).map (·.1) = (entries.map (·.1)).eraseDups := by
  induction entries using List.reverseRecOn with
  | nil => rfl
  | append_singleton entries p ih =>
    rw [ofList_concat, map_fst_set, ih, List.map_append, List.eraseDups_append]
    by_cases there : p.1 ∈ entries.map (·.1) <;>
      simp [List.removeAll, there, List.mem_eraseDups, List.eraseDups_cons]

theorem mem_of_get? {fields : Fields} {name : String} {x : Value}
    (held : fields.get? name = some x) : name ∈ fields.map (·.1) := by
  obtain ⟨p, found, -⟩ := Option.map_eq_some_iff.1 held
  have same : p.1 = name := by simpa using List.find?_some found
  exact same ▸ List.mem_map_of_mem (List.mem_of_find?_eq_some found)

/-- A name has the value that it was given last. -/
theorem get?_ofList (entries : List (String × Value)) (name : String) :
    (ofList entries).get? name = (entries.reverse.find? (·.1 == name)).map (·.2) := by
  induction entries using List.reverseRecOn with
  | nil => rfl
  | append_singleton entries p ih =>
    rw [ofList_concat, List.reverse_append]
    by_cases same : p.1 = name
    · subst same
      simp
    · simp [get?_set_of_ne (Ne.symm same), ih, same]

end Fields

/-! ## What snapshots have from the start -/

namespace Known

/-- The names of all attributes that an initial class has by nature. -/
def natural (k : Known) : List String :=
  k.operations.map special ++ k.methods ++ k.classMethods ++ k.statics ++ k.computed

theorem mem_natural_of_nature? {k : Known} {name : String} (h : (k.nature? name).isSome = true) :
    name ∈ k.natural := by
  unfold nature? at h
  unfold natural
  simp only [List.mem_append]
  split at h
  · next mem => exact .inl (.inl (.inl (.inl (List.contains_iff_mem.1 mem))))
  · split at h
    · next mem => exact .inl (.inl (.inl (.inr (List.contains_iff_mem.1 mem))))
    · split at h
      · next mem => exact .inl (.inl (.inr (List.contains_iff_mem.1 mem)))
      · split at h
        · next mem => exact .inl (.inr (List.contains_iff_mem.1 mem))
        · split at h
          · next mem => exact .inr (List.contains_iff_mem.1 mem)
          · cases h

theorem mem_computed_of_nature? {k : Known} {name : String} (h : k.nature? name = some .computed) :
    name ∈ k.computed := by
  unfold nature? at h
  split at h
  · cases h
  · split at h
    · cases h
    · split at h
      · cases h
      · split at h
        · cases h
        · split at h
          · next mem => exact List.contains_iff_mem.1 mem
          · cases h

end Known

namespace Snapshot

/-- What snapshots have from the start, by any name, is reserved. -/
theorem isReserved_of_natural :
    ∀ name ∈ Known.snapshot.fields.map (·.1) ++ Known.snapshot.natural ++ Known.object.natural,
      isReserved name = true := by
  decide +kernel

variable {k : Known} {name : String}

theorem get?_of_unreserved (free : isReserved name = false)
    (reserved : ∀ other ∈ k.fields.map (·.1), isReserved other = true) :
    k.fields.get? name = none := by
  rw [← Option.not_isSome_iff_eq_none, Fields.isSome_get?, List.any_eq_true]
  rintro ⟨p, mem, same⟩
  have held := reserved p.1 (List.mem_map_of_mem mem)
  rw [eq_of_beq same, free] at held
  cases held

theorem ownEntryOf?_of_unreserved (free : isReserved name = false)
    (reserved : ∀ other ∈ k.fields.map (·.1) ++ k.natural, isReserved other = true) :
    k.ownEntryOf? name = none := by
  have unset := get?_of_unreserved free fun other mem => reserved other (List.mem_append_left _ mem)
  have unnatural : k.nature? name = none := by
    rw [← Option.not_isSome_iff_eq_none]
    intro natural
    have held := reserved name (List.mem_append_right _ (Known.mem_natural_of_nature? natural))
    rw [free] at held
    cases held
  simp [Known.ownEntryOf?, unset, unnatural]

/-- The class of snapshots has nothing under a name that is not reserved. -/
theorem entryOf?_of_unreserved (free : isReserved name = false) :
    Known.snapshot.entryOf? name = none := by
  have own := ownEntryOf?_of_unreserved (k := .snapshot) free fun other mem =>
    isReserved_of_natural other (List.mem_append_left _ mem)
  have inherited := ownEntryOf?_of_unreserved (k := .object) free fun other mem =>
    isReserved_of_natural other (List.mem_append_right _ mem)
  simp [Known.entryOf?, Known.above, own, inherited]

/-- On a machine whose initial classes are as from the start, a name shadows an attribute only if it
is reserved. -/
theorem isShadowing_eq {m : Machine} (untouched : m.Untouched name) :
    isShadowing m name = isReserved name := by
  cases free : isReserved name with
  | true => simp [isShadowing, free]
  | false =>
    have unset : Known.snapshot.fields.get? name = none := get?_of_unreserved free fun other mem =>
      isReserved_of_natural other (by simp [mem])
    have none : Known.snapshot.attribute? name = .none := by
      simp [Known.attribute?, Known.above, unset]
    simp [isShadowing, free, untouched.classAttribute?, none]

/-- What the class of snapshots has under a name is one of its functions, or an attribute by nature;
what is worked out for an object is so by the rule of snapshots, but for the class of the object. -/
theorem entryOf?_eq_some {entry : ClassEntry}
    (found : Known.snapshot.entryOf? name = some entry) :
    (∃ r, entry = .set (.routine r)) ∨ ∃ owner n, entry = .natural owner n ∧
      (n = .computed → owner = .snapshot ∨ name = special "class") := by
  have either : Known.snapshot.ownEntryOf? name = some entry ∨
      Known.object.ownEntryOf? name = some entry := by
    unfold Known.entryOf? at found
    simp only [Known.above, List.cons_append, List.nil_append, List.findSome?_cons,
      List.findSome?_nil] at found
    cases own : Known.snapshot.ownEntryOf? name with
    | some own' =>
      rw [own] at found
      exact .inl found
    | none =>
      rw [own] at found
      cases inherited : Known.object.ownEntryOf? name with
      | some inherited' =>
        rw [inherited] at found
        exact .inr found
      | none =>
        rw [inherited] at found
        cases found
  rcases either with own | own <;> unfold Known.ownEntryOf? at own
  · cases held : Known.snapshot.fields.get? name with
    | some v =>
      rw [held] at own
      cases own
      simp only [Known.fields, Fields.get?_cons] at held
      split at held
      · cases held
        exact .inl ⟨_, rfl⟩
      · split at held
        · cases held
          exact .inl ⟨_, rfl⟩
        · cases held
    | none =>
      rw [held] at own
      obtain ⟨n, -, rfl⟩ := Option.map_eq_some_iff.1 own
      exact .inr ⟨_, n, rfl, fun _ => .inl rfl⟩
  · have unset : Known.object.fields.get? name = none := rfl
    rw [unset] at own
    obtain ⟨n, nature, rfl⟩ := Option.map_eq_some_iff.1 own
    refine .inr ⟨_, n, rfl, ?_⟩
    rintro rfl
    exact .inr (by simpa [Known.computed] using Known.mem_computed_of_nature? nature)

end Snapshot

namespace Act

variable {call : Caller} {m : Machine} {s : Ref} {name : String}

theorem sparing_ownFields (v : Value) : Sparing (ownFields v) := by
  unfold ownFields
  split
  · exact .read _
  · refine .bind (.read _) fun _ => ?_
    split <;> exact .pure _
  · exact .pure _
  · refine .bind (.load _) fun _ => ?_
    split <;> first | exact .pure _ | exact .read _
  · exact .read _

theorem sparing_ownField? (v : Value) (name : String) : Sparing (ownField? v name) := by
  unfold ownField?
  split
  · exact .pure _
  · refine .bind (.read _) fun _ => ?_
    split
    · exact .pure _
    · exact .bind (sparing_ownFields _) fun _ => .pure _

theorem sparing_newFieldDict (fields : Fields) : Sparing (newFieldDict fields) :=
  .allocValue _

theorem sparing_newTuple (items : List Value) : Sparing (newTuple items) :=
  .allocValue _

theorem sparing_newAuxiliary (name : String) : Sparing (newAuxiliary name) :=
  .allocValue _

theorem sparing_failAttribute (α : Type) (s : Ref) (name : String) :
    Sparing (failAttribute (.ref s) name : Act α) :=
  .bind (.read _) fun _ => .fail _ _

theorem sparing_modelClassPart? (s : Ref) (name : String) :
    Sparing (modelClassPart? (.ref s) name) := by
  unfold modelClassPart?
  split <;> first
    | exact .pure _
    | exact .bind (sparing_newAuxiliary _) fun _ => .pure _
    | exact .bind (sparing_newTuple _) fun _ => .pure _
    | exact .bind (sparing_newFieldDict _) fun _ => .pure _
    | exact .bind (sparing_newTuple _) fun _ => .bind (sparing_newTuple _) fun _ =>
        .bind (sparing_newFieldDict _) fun _ => .pure _

theorem sparing_modelPart? (s : Ref) (name : String) : Sparing (modelPart? (.ref s) name) := by
  unfold modelPart?
  dsimp only
  split
  · exact .bind (sparing_ownFields _) fun _ => .bind (sparing_newFieldDict _) fun _ => .pure _
  · exact .bind (sparing_ownFields _) fun _ => .bind (sparing_newFieldDict _) fun _ => .pure _
  · exact .bind (sparing_newAuxiliary _) fun _ => .pure _
  · exact .bind (sparing_newAuxiliary _) fun _ => .pure _
  · exact .bind (sparing_newAuxiliary _) fun _ => .pure _
  · exact .bind (.read _) fun _ => .bind (sparing_newFieldDict _) fun _ => .pure _
  · exact .pure _
  · exact .pure _
  · exact .bind (.read _) fun _ => .fail _ _
  · exact sparing_modelClassPart? s _

/-- What the class of a snapshot works out for it. -/
theorem sparing_computedPart? (s : Ref) {owner : Known} {name : String}
    (model : owner = .snapshot ∨ name = special "class") :
    Sparing (computedPart? (.ref s) owner name) := by
  unfold computedPart?
  split
  · exact .bind (.read _) fun _ => .pure _
  · next other =>
    obtain rfl | rfl := model
    · exact sparing_modelPart? s name
    · exact absurd rfl other

theorem sparing_naturalThroughObject (s : Ref) {owner : Known} {n : Nature} {name : String}
    (model : n = .computed → owner = .snapshot ∨ name = special "class") :
    Sparing (naturalThroughObject (.ref s) owner n name) := by
  unfold naturalThroughObject
  cases n with
  | operation => exact .allocValue _
  | method => exact .allocValue _
  | ofClass => exact .bind (.read _) fun _ => .allocValue _
  | static => exact .pure _
  | computed =>
    refine .bind (sparing_computedPart? s (model rfl)) fun found => ?_
    cases found with
    | some x => exact .pure x
    | none => exact sparing_failAttribute _ s name

theorem sparing_heldPart? (k : Known) (name : String) : Sparing (heldPart? k name) := by
  unfold heldPart?
  dsimp only
  split
  · exact .bind (.allocValue _) fun _ => .pure _
  · exact .bind (.allocValue _) fun _ => .pure _
  · exact .bind (.allocValue _) fun _ => .pure _
  · exact .pure _
  · split
    · exact .bind (sparing_newTuple _) fun _ => .pure _
    · split
      · exact .bind (sparing_newFieldDict _) fun _ => .pure _
      · exact .pure _

theorem sparing_heldAmong? (name : String) (classes : List ClassRef) :
    Sparing (heldAmong? name classes) := by
  induction classes with
  | nil => exact .pure _
  | cons c rest ih =>
    cases c with
    | made _ => exact ih
    | known k =>
      refine .bind (sparing_heldPart? k name) fun found => ?_
      cases found with
      | some x => exact .pure _
      | none => exact ih

theorem sparing_commonPart (s : Ref) (name : String) : Sparing (commonPart (.ref s) name) := by
  refine .bind (.read _) fun c => ?_
  split
  · exact .pure _
  · split
    · exact .pure _
    · refine .bind (.read _) fun classes => .bind (sparing_heldAmong? name classes) fun found => ?_
      cases found with
      | some x => exact .pure x
      | none => exact sparing_failAttribute _ s name

/-- Noting in a fault what was asked for spares all but that fault. -/
theorem noting_spares {e : Ref} {f : Fault} (here : m.cell e = .fault f) (v : Value)
    (name : String) :
    m.Spares ((do
      if (← faultClassOf e).isA .attributeError then noteAttribute v name e
      rethrow e : Act Value) m).2 := by
  rw [bind_of_done (faultClassOf_apply e m)]
  split
  · unfold noteAttribute
    rw [bind_assoc, bind_of_done (loadFault_apply e m)]
    split
    · exact .put here _
    · exact .refl m
  · exact .refl m

/-! ## A snapshot on a machine -/

/-- The fault of a snapshot that is asked to change what it has under a name. -/
def frozenFault (name : String) : Fault :=
  { Fault.fresh (.known (.fault .validationError)) [] [] with
    failure := some ⟨"OldState", [⟨"frozen_instance", [name], "Instance is frozen"⟩]⟩ }

/-- A change is refused by a new fault that says that the snapshot is frozen, and all else is
spared. -/
def Frozen (name : String) (m : Machine) (ended : Outcome Unit × Machine) : Prop :=
  ∃ n context, ended = (.raised m.heap.size, n) ∧ m.Spares n ∧
    n.cell m.heap.size = .fault { frozenFault name with context }

theorem failFrozen_apply (name : String) (m : Machine) : Frozen name m (failFrozen name m) := by
  have here := Machine.cell_push_size m (.fault (frozenFault name))
  obtain ⟨n, context, raised, -, stands⟩ := exists_raise Unit here
  obtain ⟨n', g, raised', spared, -⟩ := Machine.spares_raise Unit here
  have same : n' = n := (Prod.mk.inj (raised'.symm.trans raised)).2
  have failed : (failFrozen name : Act Unit) m = (.raised m.heap.size, n) := raised
  exact ⟨n, context, failed, (Machine.Spares.push m _).trans (same ▸ spared), stands⟩

/-- The fields of a snapshot as a dictionary. -/
def snapshotDict (fields : Fields) : Cell :=
  .dict (fields.map fun (name, v) => (.text name, v))

/-- A snapshot's fields, taken out as a dictionary by its method. -/
def takeOut (call : Caller) (s : Ref) : Act Value := do
  call (← getAttribute call (.ref s) "as_dict") [] []

/-- A snapshot stands on a machine with its fields, and scripts have given it some attributes; they
have left the initial classes alone. -/
structure Standing (s : Ref) (fields given : Fields) (m : Machine) : Prop where
  patches : m.patches = []
  cell : m.cell s = .snapshot fields
  given : m.attachedTo (.ref s) = given

namespace Standing

variable {fields given : Fields} {n : Machine} {x : Value}

theorem untouched (stands : Standing s fields given m) (name : String) : m.Untouched name :=
  Machine.untouched_of_patches stands.patches name

theorem classOf (stands : Standing s fields given m) :
    m.classOf (.ref s) = .known .snapshot := by
  rw [Machine.classOf_ref, stands.cell]
  rfl

/-- What spares the machine leaves the snapshot as it is. -/
theorem spared (stands : Standing s fields given m) (spared : m.Spares n) :
    Standing s fields given n where
  patches := by
    rw [spared.rest]
    exact stands.patches
  cell := spared.cell_eq stands.cell (by simp) (by simp)
  given := by
    rw [spared.rest]
    exact stands.given

/-- Snapshots have no special methods by which attributes are reached or changed. -/
theorem special? (stands : Standing s fields given m) {name : String}
    (plain : Known.snapshot.attribute? (special name) = none) :
    Act.special? (.ref s) name m = (.done none, m) := by
  simp [Act.special?, stands.classOf, (stands.untouched _).classAttribute?, plain]

theorem lookUpByClass (stands : Standing s fields given m) (name : String) :
    lookUpByClass call (.ref s) name m = lookUpInObject call (.ref s) name m := by
  rw [lookUpByClass_of_untouched (stands.untouched _) stands.classOf rfl]
  simp only [lookUp, load_bind, stands.cell]

theorem ownField? (stands : Standing s fields given m) (name : String) :
    ownField? (.ref s) name m = (.done ((given.get? name).or (fields.get? name)), m) := by
  have own : ownFields (.ref s) m = (.done fields, m) := by
    simp only [ownFields, load_bind, stands.cell]
    rfl
  unfold Act.ownField?
  dsimp only
  rw [read_bind, stands.given]
  cases given.get? name with
  | some x => rfl
  | none => exact bind_of_done own _

/-- A field with an accepted name is read back, unless it has been covered. -/
theorem getAttribute_of_some (stands : Standing s fields given m)
    (free : Snapshot.isReserved name = false)
    (there : (given.get? name).or (fields.get? name) = some x) :
    getAttribute call (.ref s) name m = (.done x, m) := by
  apply getAttribute_of_done
  rw [stands.lookUpByClass]
  refine lookUpInObject_of_none (stands.untouched _) stands.classOf
    (Snapshot.entryOf?_of_unreserved free) ?_
  rw [stands.ownField?, there]

/-- An own field is given as it is, and does no more than what there is without one. -/
theorem sparing_ownOr {otherwise : Act Value} (spares : Sparing otherwise) (own? : Option Value) :
    Sparing (match own? with
      | some own => pure own
      | none => otherwise) := by
  cases own? with
  | some x => exact .pure x
  | none => exact spares

/-- Looking an attribute up spares the machine. -/
theorem lookUpInObject_spares (stands : Standing s fields given m) (call : Caller)
    (name : String) : m.Spares (lookUpInObject call (.ref s) name m).2 ∧
      ∀ e, (lookUpInObject call (.ref s) name m).1 = .raised e →
        ∃ f, (lookUpInObject call (.ref s) name m).2.cell e = .fault f := by
  unfold lookUpInObject
  simp only [classOf_bind, read_bind, stands.classOf, (stands.untouched _).entryOf?]
  cases entry : Known.snapshot.entryOf? name with
  | none =>
    refine (?_ : Sparing _) m
    exact .bind (sparing_ownField? _ name) (sparing_ownOr (sparing_commonPart s name))
  | some entry' =>
    obtain ⟨r, rfl⟩ | ⟨owner, nature, rfl, model⟩ := Snapshot.entryOf?_eq_some entry
    · have spares : Sparing (throughObject call (.ref s) (.routine r)) := by
        refine .bind (.pure _) fun binds => ?_
        split
        · exact .allocValue _
        · exact .pure _
      exact spares m
    · have next := sparing_ownOr (sparing_naturalThroughObject s model)
      refine (?_ : Sparing _) m
      dsimp only
      split
      · exact .bind (.pure none) next
      · exact .bind (sparing_ownField? _ name) next

/-- Reading an attribute spares the machine, whatever its name. -/
theorem getAttribute_spares (stands : Standing s fields given m) (name : String) :
    m.Spares (getAttribute call (.ref s) name m).2 := by
  obtain ⟨spared, fault⟩ := stands.lookUpInObject_spares call name
  rw [← stands.lookUpByClass] at spared fault
  cases ran : Act.lookUpByClass call (.ref s) name m with
  | mk o n =>
    rw [ran] at spared fault
    cases o with
    | done x =>
      rw [getAttribute_of_done ran]
      exact spared
    | exhausted =>
      unfold getAttribute
      rw [bind_of_exhausted (attempt_of_exhausted ran)]
      exact spared
    | raised e =>
      obtain ⟨f, here⟩ := fault e rfl
      have noted := noting_spares here (.ref s) name
      unfold getAttribute
      rw [bind_of_done (attempt_of_raised ran)]
      dsimp only
      rw [bind_of_done (faultClassOf_apply e n)]
      -- no special method is asked for what is missing
      split
      · rw [bind_of_done ((stands.spared spared).special? rfl)]
        exact spared.trans noted
      · exact spared.trans noted

/-! ### Changing -/

/-- A name that is not hidden cannot be assigned to. -/
theorem setAttribute_frozen (stands : Standing s fields given m)
    (visible : isHiddenName name = false) (x : Value) :
    Frozen name m (setAttribute call (.ref s) name x m) := by
  unfold setAttribute
  rw [bind_of_done (stands.special? rfl)]
  simp only [changeByKind, load_bind, stands.cell, visible, Bool.false_and, Bool.false_eq_true,
    if_false]
  exact failFrozen_apply name m

/-- Nothing can be deleted. -/
theorem deleteAttribute_frozen (stands : Standing s fields given m) (name : String) :
    Frozen name m (deleteAttribute call (.ref s) name m) := by
  unfold deleteAttribute
  rw [bind_of_done (stands.special? rfl)]
  simp only [changeByKind, load_bind, stands.cell, Option.isSome_none, Bool.and_false,
    Bool.false_eq_true, if_false]
  exact failFrozen_apply name m

/-- What is assigned to a hidden name is attached to the snapshot. -/
theorem setAttribute_hidden (stands : Standing s fields given m) (hidden : isHiddenName name = true)
    (free : Snapshot.isReserved name = false) (x : Value) :
    setAttribute call (.ref s) name x m = (.done (), m.attach (.ref s) (given.set name x)) := by
  have entry : m.entryOf? (.known .snapshot) name = none :=
    ((stands.untouched name).entryOf? _).trans (Snapshot.entryOf?_of_unreserved free)
  unfold setAttribute
  rw [bind_of_done (stands.special? rfl)]
  simp only [changeByKind, load_bind, stands.cell, hidden, Option.isSome_some, Bool.and_true,
    if_true]
  simp only [changeByNature, classOf_bind, read_bind, stands.classOf, entry, pure_bind,
    Bool.false_eq_true, if_false, takesAttributes, bind_assoc, load_bind, stands.cell, if_true]
  simp only [changeField, takenFields, bind_assoc, load_bind, stands.cell, read_bind, stands.given,
    putFields]
  rfl

theorem attach (stands : Standing s fields given m) (more : Fields) :
    Standing s fields more (m.attach (.ref s) more) where
  patches := stands.patches
  cell := stands.cell
  given := by
    simp [Machine.attachedTo, Machine.attach, Value.same]

/-- The method by which the fields are taken out is always what is read under its name. -/
theorem getAttribute_asDict (stands : Standing s fields given m) :
    getAttribute call (.ref s) "as_dict" m =
      (.done (.ref m.heap.size), m.push (.bound (.ref s) (.routine .asDict))) := by
  have entry : m.entryOf? (.known .snapshot) "as_dict" = some (.set (.routine .asDict)) :=
    (stands.untouched _).entryOf? _
  apply getAttribute_of_done
  rw [stands.lookUpByClass]
  unfold lookUpInObject
  simp only [classOf_bind, read_bind, stands.classOf, entry]
  rfl

/-- The method takes the fields out of the cell of a snapshot. -/
theorem callRoutine_asDict (call : Caller) (s : Ref) :
    callRoutine call .asDict [.ref s] [] = (load s >>= fun
      | .snapshot fields => snapshotEntries fields
      | _ => getAttribute call (.ref s) "model_extra") :=
  rfl

/-- The fields are taken out as a new dictionary, with the names in their order. -/
theorem exists_takeOut (stands : Standing s fields given m) (depth : Nat) :
    ∃ n r, takeOut (callWithin (depth + 2)) s m = (.done (.ref r), n) ∧ m.heap.size ≤ r ∧
      m.Spares n ∧ n.cell r = snapshotDict fields := by
  generalize bound : m.push (.bound (.ref s) (.routine .asDict)) = k
  have spared : m.Spares k := bound ▸ .push m _
  have called : callWithin (depth + 2) (.ref m.heap.size) [] [] k =
      callRoutine (callWithin depth) .asDict [.ref s] [] k := by
    have here : k.cell m.heap.size = .bound (.ref s) (.routine .asDict) :=
      bound ▸ Machine.cell_push_size m _
    simp only [callWithin, callValue, load_bind, here]
  refine ⟨k.push (snapshotDict fields), k.heap.size, ?_, spared.size, spared.trans (.push k _),
    Machine.cell_push_size k _⟩
  unfold takeOut
  rw [bind_of_done stands.getAttribute_asDict, bound, called, callRoutine_asDict, load_bind,
    (stands.spared spared).cell]
  rfl

end Standing

/-- A new snapshot stands on the machine on which it was made. -/
theorem standing_newSnapshot (patches : m.patches = [])
    (unused : m.attachedTo (.ref m.heap.size) = []) (fields : Fields) :
    Standing m.heap.size fields [] (m.push (.snapshot fields)) where
  patches := patches
  cell := Machine.cell_push_size m _
  given := unused

/-- Fields with accepted names become a snapshot. -/
theorem newSnapshot_of_unreserved (patches : m.patches = []) {fields : Fields}
    (accepted : ∀ name ∈ fields.map (·.1), Snapshot.isReserved name = false) :
    newSnapshot fields m = (.done (.ref m.heap.size), m.push (.snapshot fields)) := by
  have none : (fields.map (·.1)).filter (Snapshot.isShadowing m) = [] := by
    rw [List.filter_eq_nil_iff]
    intro name mem
    simp [Snapshot.isShadowing_eq (Machine.untouched_of_patches patches name), accepted name mem]
  have clear : Snapshot.shadowing m (fields.map (·.1)) = [] := by
    unfold Snapshot.shadowing
    rw [none, List.mergeSort_nil]
  unfold newSnapshot
  rw [read_bind, clear]
  rfl

end Act

/-! ## Deeds

What a program does once it has a snapshot, in any order. -/

/-- One thing that a program does. -/
inductive SnapshotDeed where
  | get (name : String)
  | set (name : String) (x : Value)
  | delete (name : String)
  | takeOut
  /-- Something new is made. -/
  | make (c : Cell)
  /-- Something is changed that is not the snapshot: a captured value, or a dictionary taken out. -/
  | write (r : Ref) (c : Cell)

namespace SnapshotDeed

/-- The machine after a deed, however it ends. -/
def perform (call : Caller) (s : Ref) (m : Machine) : SnapshotDeed → Machine
  | get name => (Act.getAttribute call (.ref s) name m).2
  | set name x => (Act.setAttribute call (.ref s) name x m).2
  | delete name => (Act.deleteAttribute call (.ref s) name m).2
  | takeOut => (Act.takeOut call s m).2
  | make c => m.push c
  | write r c => m.put r c

/-- The machine after several deeds. -/
def performAll (call : Caller) (s : Ref) (m : Machine) (deeds : List SnapshotDeed) : Machine :=
  deeds.foldl (perform call s) m

/-- Deeds do not reach into the cell of the snapshot, and what they assign to is either visible and
refused, or hidden and not among the attributes that the snapshot works by. -/
def Fits (s : Ref) : SnapshotDeed → Prop
  | set name _ => Act.isHiddenName name = true → Snapshot.isReserved name = false
  | write r _ => r ≠ s
  | _ => True

/-- What the snapshot has been given by way of attributes, after a deed. -/
def cover (given : Fields) : SnapshotDeed → Fields
  | set name x => if Act.isHiddenName name then given.set name x else given
  | _ => given

/-- Only what is hidden can be given, and only by assigning it. -/
theorem get?_foldl_cover {name : String} {deeds : List SnapshotDeed}
    (unset : Act.isHiddenName name = true → ∀ x, set name x ∉ deeds) (given : Fields) :
    (deeds.foldl cover given).get? name = given.get? name := by
  induction deeds generalizing given with
  | nil => rfl
  | cons d deeds ih =>
    rw [List.foldl_cons, ih fun hidden x mem => unset hidden x (List.mem_cons_of_mem _ mem)]
    unfold cover
    split
    · next other x =>
      split
      · next hidden =>
        refine Fields.get?_set_of_ne ?_
        rintro rfl
        exact unset hidden x List.mem_cons_self
      · rfl
    · rfl

end SnapshotDeed

namespace Act

variable {depth : Nat} {m : Machine} {s : Ref} {fields given : Fields} {d : SnapshotDeed}
  {deeds : List SnapshotDeed}

/-- A change that is refused spares the machine. -/
theorem Frozen.spares {name : String} {ended : Outcome Unit × Machine}
    (frozen : Frozen name m ended) : m.Spares ended.2 := by
  obtain ⟨n, -, rfl, spared, -⟩ := frozen
  exact spared

namespace Standing

/-- What a deed can do: it spares the machine, or attaches something hidden to the snapshot, or
writes elsewhere. -/
theorem perform_cases (stands : Standing s fields given m) (fits : d.Fits s) (depth : Nat) :
    (m.Spares (d.perform (callWithin (depth + 2)) s m) ∧ d.cover given = given) ∨
    (d.perform (callWithin (depth + 2)) s m = m.attach (.ref s) (d.cover given)) ∨
    (∃ r c, d = .write r c ∧ r ≠ s) := by
  cases d with
  | get name => exact .inl ⟨stands.getAttribute_spares name, rfl⟩
  | delete name => exact .inl ⟨(stands.deleteAttribute_frozen name).spares, rfl⟩
  | takeOut =>
    obtain ⟨n, r, taken, -, spared, -⟩ := stands.exists_takeOut depth
    have after : SnapshotDeed.takeOut.perform (callWithin (depth + 2)) s m = n :=
      congrArg Prod.snd taken
    exact .inl ⟨after ▸ spared, rfl⟩
  | make c => exact .inl ⟨.push m c, rfl⟩
  | write r c => exact .inr (.inr ⟨r, c, rfl, fits⟩)
  | set name x =>
    cases hidden : isHiddenName name with
    | false =>
      refine .inl ⟨(stands.setAttribute_frozen hidden x).spares, ?_⟩
      simp [SnapshotDeed.cover, hidden]
    | true =>
      refine .inr (.inl ?_)
      simp [SnapshotDeed.perform, stands.setAttribute_hidden hidden (fits hidden) x,
        SnapshotDeed.cover, hidden]

/-- The snapshot still stands with its fields after a deed. -/
theorem perform (stands : Standing s fields given m) (fits : d.Fits s) :
    Standing s fields (d.cover given) (d.perform (callWithin (depth + 2)) s m) := by
  rcases stands.perform_cases fits depth with ⟨spared, same⟩ | attached | ⟨r, c, rfl, ne⟩
  · rw [same]
    exact stands.spared spared
  · rw [attached]
    exact stands.attach _
  · exact ⟨stands.patches, (Machine.cell_put_of_ne (Ne.symm ne)).trans stands.cell, stands.given⟩

/-- The snapshot still stands with its fields after any deeds. -/
theorem performAll (stands : Standing s fields given m) (fits : ∀ d ∈ deeds, d.Fits s) :
    Standing s fields (deeds.foldl SnapshotDeed.cover given)
      (SnapshotDeed.performAll (callWithin (depth + 2)) s m deeds) := by
  -- what has been given grows with the deeds, so it is generalized along with the machine
  induction deeds generalizing m given with
  | nil => exact stands
  | cons d deeds ih =>
    exact ih (stands.perform (fits d List.mem_cons_self))
      fun other mem => fits other (List.mem_cons_of_mem _ mem)

/-- A deed that does not write to a place leaves what stands there. -/
theorem cell_perform (stands : Standing s fields given m) (fits : d.Fits s) {r : Ref} {c : Cell}
    (here : m.cell r = c) (there : c ≠ .list []) (other : ∀ f, c ≠ .fault f)
    (elsewhere : ∀ c', d ≠ .write r c') :
    (d.perform (callWithin (depth + 2)) s m).cell r = c := by
  rcases stands.perform_cases fits depth with ⟨spared, -⟩ | attached | ⟨r', c', rfl, -⟩
  · exact spared.cell_eq here there other
  · rw [attached]
    exact here
  · have ne : r ≠ r' := by
      rintro rfl
      exact elsewhere c' rfl
    exact (Machine.cell_put_of_ne ne).trans here

/-- Deeds that do not write to a place leave what stands there. -/
theorem cell_performAll (stands : Standing s fields given m) (fits : ∀ d ∈ deeds, d.Fits s)
    {r : Ref} {c : Cell} (here : m.cell r = c) (there : c ≠ .list []) (other : ∀ f, c ≠ .fault f)
    (elsewhere : ∀ c', .write r c' ∉ deeds) :
    (SnapshotDeed.performAll (callWithin (depth + 2)) s m deeds).cell r = c := by
  induction deeds generalizing m given with
  | nil => exact here
  | cons d deeds ih =>
    have now := fits d List.mem_cons_self
    refine ih (stands.perform now) (fun d mem => fits d (List.mem_cons_of_mem _ mem))
      (stands.cell_perform now here there other ?_) fun c' mem =>
        elsewhere c' (List.mem_cons_of_mem _ mem)
    rintro c' rfl
    exact elsewhere c' List.mem_cons_self

end Standing

/-- Where scripts have left the initial classes alone, and nothing is attached to a cell that is yet
to be made, fields with accepted names become a snapshot; of several values under one name it has
the last, at the place of the first. After any deeds a field is read back as captured, unless its
name is hidden and has been assigned to. The fields are taken out as a dictionary with just these
names and values in their order; it is new, and what is done later leaves it alone, unless that
writes to it. Assigning to a name that is not hidden and deleting whatever name are refused and
change nothing. But what is assigned to a hidden name is what is read from then on. -/
theorem snapshots_stay_as_taken (depth : Nat) (entries : List (String × Value)) (m : Machine)
    (unpatched : m.patches = []) (unused : m.attachedTo (.ref m.heap.size) = [])
    (accepted : ∀ p ∈ entries, Snapshot.isReserved p.1 = false) :
    let call := callWithin (depth + 2)
    let s := m.heap.size
    let fields := Fields.ofList entries
    fields.map (·.1) = (entries.map (·.1)).eraseDups ∧
    (∀ name, fields.get? name = (entries.reverse.find? (·.1 == name)).map (·.2)) ∧
    newSnapshot fields m = (.done (.ref s), m.push (.snapshot fields)) ∧
    ∀ deeds : List SnapshotDeed, (∀ d ∈ deeds, d.Fits s) →
      let n := SnapshotDeed.performAll call s (m.push (.snapshot fields)) deeds
      (∀ name x, fields.get? name = some x →
        (isHiddenName name = true → ∀ y, .set name y ∉ deeds) →
        getAttribute call (.ref s) name n = (.done x, n)) ∧
      (∃ k r, takeOut call s n = (.done (.ref r), k) ∧ n.heap.size ≤ r ∧
        k.cell r = snapshotDict fields ∧
        ∀ later : List SnapshotDeed, (∀ d ∈ later, d.Fits s ∧ ∀ c, d ≠ .write r c) →
          (SnapshotDeed.performAll call s k later).cell r = snapshotDict fields) ∧
      (∀ name x, isHiddenName name = false → Frozen name n (setAttribute call (.ref s) name x n)) ∧
      (∀ name, Frozen name n (deleteAttribute call (.ref s) name n)) ∧
      (∀ name x, isHiddenName name = true → Snapshot.isReserved name = false →
        ∃ k, setAttribute call (.ref s) name x n = (.done (), k) ∧
          getAttribute call (.ref s) name k = (.done x, k)) := by
  intro call s fields
  have names := Fields.map_fst_ofList entries
  have unreserved : ∀ name ∈ fields.map (·.1), Snapshot.isReserved name = false := by
    intro name mem
    rw [names, List.mem_eraseDups] at mem
    obtain ⟨p, held, rfl⟩ := List.mem_map.1 mem
    exact accepted p held
  refine ⟨names, Fields.get?_ofList entries, newSnapshot_of_unreserved unpatched unreserved,
    fun deeds fits => ?_⟩
  intro n
  have stands : Standing s fields (deeds.foldl SnapshotDeed.cover []) n :=
    (standing_newSnapshot unpatched unused fields).performAll fits
  refine ⟨fun name x there unset => ?_, ?_,
    fun name x visible => stands.setAttribute_frozen visible x, stands.deleteAttribute_frozen,
    fun name x hidden free => ?_⟩
  · have uncovered := SnapshotDeed.get?_foldl_cover unset []
    refine stands.getAttribute_of_some (unreserved name (Fields.mem_of_get? there)) ?_
    rw [uncovered, there]
    rfl
  · obtain ⟨k, r, taken, new, spared, here⟩ := stands.exists_takeOut depth
    refine ⟨k, r, taken, new, here, fun later fits => ?_⟩
    exact (stands.spared spared).cell_performAll (fun d mem => (fits d mem).1) here
      (by simp [snapshotDict]) (by simp [snapshotDict]) fun c mem => (fits _ mem).2 c rfl
  · refine ⟨_, stands.setAttribute_hidden hidden free x,
      (stands.attach _).getAttribute_of_some free ?_⟩
    rw [Fields.get?_set_self]
    rfl

/-- Two fields are still as captured after deeds that all but one are refused or reach elsewhere. -/
theorem snapshots_stay_as_taken_balance :
    let entries := [("balance", .int 90), ("_note", .text "low"), ("balance", .int 100)]
    let deeds := [.set "balance" (.int 0), .delete "_note", .set "_remark" (.int 1), .takeOut,
      .write 7 (.dict [])]
    (∀ p ∈ entries, Snapshot.isReserved p.1 = false) ∧ (∀ d ∈ deeds, SnapshotDeed.Fits 5 d) ∧
    newSnapshot (Fields.ofList entries) threeFaults = (.done (.ref 5),
      threeFaults.push (.snapshot [("balance", .int 100), ("_note", .text "low")])) ∧
    let n := SnapshotDeed.performAll (callWithin 2) 5
      (threeFaults.push (.snapshot [("balance", .int 100), ("_note", .text "low")])) deeds
    getAttribute (callWithin 2) (.ref 5) "balance" n = (.done (.int 100), n) ∧
    getAttribute (callWithin 2) (.ref 5) "_note" n = (.done (.text "low"), n) := by
  intro entries deeds
  have accepted : ∀ p ∈ entries, Snapshot.isReserved p.1 = false := by decide +kernel
  have visible : isHiddenName "balance" = false := by decide +kernel
  have free : Snapshot.isReserved "_remark" = false := by decide +kernel
  have fits : ∀ d ∈ deeds, SnapshotDeed.Fits 5 d := by
    simp [deeds, SnapshotDeed.Fits, visible, free]
  obtain ⟨-, -, taken, kept⟩ := snapshots_stay_as_taken 0 entries threeFaults rfl rfl accepted
  obtain ⟨read, -⟩ := kept deeds fits
  exact ⟨accepted, fits, taken,
    read "balance" (.int 100) rfl fun hidden => absurd (visible.symm.trans hidden) nofun,
    read "_note" (.text "low") rfl fun _ _ => by simp [deeds]⟩

/-- A field whose name starts with an underscore can be assigned to and is then read as assigned. -/
theorem hidden_field_is_not_frozen : ∃ m n,
    newSnapshot [("_x", .int 1)] threeFaults = (.done (.ref 5), m) ∧
    setAttribute (callWithin 2) (.ref 5) "_x" (.int 2) m = (.done (), n) ∧
    getAttribute (callWithin 2) (.ref 5) "_x" n = (.done (.int 2), n) := by
  have free : Snapshot.isReserved "_x" = false := by decide +kernel
  have stands : Standing 5 [("_x", .int 1)] [] (threeFaults.push (.snapshot [("_x", .int 1)])) :=
    standing_newSnapshot (m := threeFaults) rfl rfl _
  refine ⟨_, _, newSnapshot_of_unreserved rfl (by simp [free]),
    stands.setAttribute_hidden (by decide +kernel) free _, ?_⟩
  exact (stands.attach _).getAttribute_of_some free rfl

end Act

end Covenant
