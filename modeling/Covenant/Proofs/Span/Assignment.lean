import Covenant.Object.Start
import Covenant.Object.Structure
import Covenant.Proofs.Span.Contract
import Covenant.Snapshot

/-!
# Changing attributes, asking for classes

Setting an attribute changes an object, a class or what a script has given to another value; each of
these changes is made next to the span and the trace. Snapshots, the question whether a value is an
instance of a class, and the start of an object come down to reading and setting attributes.
-/

namespace Covenant

namespace Machine

theorem setClassFields_under (m : Machine) (s : Span) (c : ClassRef) (fields : Fields) :
    (m.under s).setClassFields c fields = (m.setClassFields c fields).under s := by
  cases c with
  | known k => rfl
  | made n =>
    unfold setClassFields
    rw [classes_under]
    dsimp only
    split <;> rfl

theorem setClassFields_trace (m : Machine) (c : ClassRef) (fields : Fields) :
    (m.setClassFields c fields).trace = m.trace := by
  cases c with
  | known k => rfl
  | made n =>
    unfold setClassFields
    dsimp only
    split <;> rfl

end Machine

namespace Act

variable {way : Way}

@[simp] theorem isOpenClass_under (m : Machine) (s : Span) (c : ClassRef) :
    isOpenClass (m.under s) c = isOpenClass m c := by
  simp [isOpenClass]

@[simp] theorem failSealed_under {α : Type} (m : Machine) (s : Span) (c : ClassRef)
    (verb name : String) :
    (failSealed (m.under s) c verb name : Act α) = failSealed m c verb name := by
  simp [failSealed]

@[simp] theorem shadowing_under (m : Machine) (s : Span) (names : List String) :
    Snapshot.shadowing (m.under s) names = Snapshot.shadowing m names := by
  have same : Snapshot.isShadowing (m.under s) = Snapshot.isShadowing m :=
    funext fun name => by simp [Snapshot.isShadowing]
  simp [Snapshot.shadowing, same]

/-! ## Changing fields -/

instance [loose : way.Loose] (v : Value) (fields : Fields) :
    Impartial way (update (·.attach v fields)) :=
  .of_holds (fun _ _ _ => rfl) (fun _ => rfl) fun _ _ => loose.holds _

instance [loose : way.Loose] (c : ClassRef) (fields : Fields) :
    Impartial way (update fun m => m.setClassFields c fields) :=
  .of_holds (fun m s _ => congrArg (Prod.mk (Outcome.done ())) (m.setClassFields_under s c fields))
    (fun m => m.setClassFields_trace c fields) fun _ _ => loose.holds _

/-- Reports do not heed what has a name. -/
def IsUnheeded (name : String) : Prop :=
  name ∉ heededNames

instance (name : String) : Decidable (IsUnheeded name) :=
  inferInstanceAs (Decidable (name ∉ heededNames))

instance [way.Loose] (v : Value) (fields : Fields) : Impartial way (putFields v fields) := by
  unfold putFields
  split
  · refine .seq inferInstance fun _ => ?_
    split <;> infer_instance
  · infer_instance

instance (v : Value) : Impartial way (takenFields v) := by
  unfold takenFields
  split
  · refine .seq inferInstance fun _ => ?_
    split <;> infer_instance
  · infer_instance

/-- The fields of a value are in a cell of its own. -/
def Stored (m : Machine) (v : Value) : Prop :=
  ∃ r, v = .ref r ∧ ((∃ c fields, m.cell r = .object c fields) ∨ ∃ f, m.cell r = .fault f)

/-- Fields that suit a value can be put in the place of those that it has. -/
theorem holds_putFields {m : Machine} {v : Value} {fields : Fields} (calm : m.Calm)
    (suits : ¬ Stored m v → m.Suits v fields) :
    (putFields v fields m).2.trace = m.trace ∧ (putFields v fields m).2.Calm := by
  have attached (suits : m.Suits v fields) :
      (update (·.attach v fields) m).2.trace = m.trace ∧
        (update (·.attach v fields) m).2.Calm := ⟨rfl, calm.attach suits⟩
  have stored (r : Ref) (c : Cell) :
      (store r c m).2.trace = m.trace ∧ (store r c m).2.Calm :=
    ⟨rfl, calm.keeps ⟨rfl, rfl, by simp⟩⟩
  unfold putFields
  cases v with
  | ref r =>
    dsimp only
    rw [load_bind]
    cases cell : m.cell r with
    | object c _ => exact stored r _
    | fault f => exact stored r _
    | _ =>
      refine attached (suits ?_)
      rintro ⟨_, ⟨⟩, ⟨_, _, object⟩ | ⟨_, fault⟩⟩
      · cases cell.symm.trans object
      · cases cell.symm.trans fault
  | _ => exact attached (suits fun ⟨_, same, _⟩ => nomatch same)

/-- The fields that a value has suit it. -/
theorem exists_takenFields {m : Machine} (calm : m.Calm) (v : Value) :
    ∃ fields, takenFields v m = (.done fields, m) ∧ (¬ Stored m v → m.Suits v fields) := by
  cases v with
  | ref r =>
    have given : m.Suits (.ref r) (m.attachedTo (.ref r)) := calm.suits_attachedTo nofun nofun
    unfold takenFields
    dsimp only
    rw [load_bind]
    cases cell : m.cell r with
    | snapshot fields => exact ⟨_, rfl, fun _ => given⟩
    | object c fields =>
      have kept : Stored m (.ref r) := ⟨r, rfl, .inl ⟨c, fields, cell⟩⟩
      obtain ⟨own, here⟩ : ∃ own, ownFields (.ref r) m = (.done own, m) := by
        unfold ownFields
        dsimp only
        rw [load_bind, cell]
        cases c with
        | known k => cases k <;> exact ⟨_, rfl⟩
        | made n => exact ⟨_, rfl⟩
      exact ⟨own, here, fun free => absurd kept free⟩
    | fault f =>
      unfold ownFields
      dsimp only
      rw [load_bind, cell]
      exact ⟨_, rfl, fun free => absurd ⟨r, rfl, .inr ⟨f, cell⟩⟩ free⟩
    | _ =>
      unfold ownFields
      dsimp only
      rw [load_bind, cell]
      exact ⟨_, rfl, fun _ => given⟩
  | member x =>
    obtain ⟨fields, own, holds⟩ := exists_ownFields_member calm.toHonest x
    exact ⟨fields, own, fun _ => ⟨fun y same => by cases same; exact holds, nofun, nofun⟩⟩
  | config i =>
    have given := (calm.suits_attachedTo (v := .config i) nofun nofun).config i rfl
    refine ⟨settingFields m i, rfl, fun _ => ⟨nofun, fun j same x has => ?_, nofun⟩⟩
    have flag : (settingFields m i).get? "emit_span_events" =
        some (((m.attachedTo (.config i)).get? "emit_span_events").getD
          (.bool (m.configs.getD i ⟨"auto", true, "warning"⟩).emitSpanEvents)) := rfl
    rw [flag] at has
    cases attached : (m.attachedTo (.config i)).get? "emit_span_events" with
    | none => rw [attached] at has; exact ⟨_, (Option.some.inj has).symm⟩
    | some y => rw [attached] at has; cases has; exact given y attached
  | _ => exact ⟨_, rfl, fun _ => ⟨nofun, nofun, nofun⟩⟩

instance (v : Value) (name : String) (new : Option Value) [asked : way.Asks (IsUnheeded name)] :
    Impartial way (changeField v name new) := by
  have loosely (way : Way) [way.Loose] : Impartial way (changeField v name new) := by
    unfold changeField
    refine .seq inferInstance fun _ => ?_
    split <;> infer_instance
  rcases way.eq_calmly_or_loose with rfl | loose
  · refine ⟨(loosely .freely).indifferent, fun m calm => ?_⟩
    have unheeded := asked.holds rfl
    obtain ⟨fields, taken, suits⟩ := exists_takenFields (calm rfl) v
    have put {other : Fields} (suits : ¬ Stored m v → m.Suits v other) :
        Adds .calmly (putFields v other) m := by
      obtain ⟨trace, after⟩ := holds_putFields (calm rfl) suits
      exact ⟨[], trace, .nil, fun _ _ => after⟩
    unfold changeField Adds
    rw [bind_of_done taken]
    cases new with
    | some x => exact put fun free => (suits free).set unheeded x
    | none =>
      dsimp only
      split
      · exact put fun free => (suits free).erase unheeded
      · exact (inferInstance : Impartial .calmly (failAttribute v name : Act Unit)).adds m calm
  · exact loosely way

/-- On a calm machine a class can be given fields that reports do not heed. -/
theorem adds_setClassFields {m : Machine} (calm : m.Calm) (c : ClassRef) {fields : Fields}
    (same : ∀ name ∈ reportNames, fields.get? name = (m.classFields c).get? name) :
    Adds .calmly (update fun m => m.setClassFields c fields) m :=
  ⟨[], m.setClassFields_trace c fields, .nil, fun _ _ => calm.setClassFields same⟩

instance (c : ClassRef) (name : String) (new : Option Value)
    [asked : way.Asks (IsUnheeded name)] : Impartial way (changeClassField c name new) := by
  have loosely (way : Way) [way.Loose] : Impartial way (changeClassField c name new) := by
    unfold changeClassField
    refine .seq (.read fun _ _ => rfl) fun _ => ?_
    split <;> infer_instance
  rcases way.eq_calmly_or_loose with rfl | loose
  · refine ⟨(loosely .freely).indifferent, fun m calm => ?_⟩
    have other {heeded : String} (mem : heeded ∈ reportNames) : heeded ≠ name := by
      rintro rfl
      exact asked.holds rfl (List.mem_cons_of_mem _ (List.mem_cons_of_mem _ mem))
    unfold changeClassField Adds
    rw [read_bind]
    cases new with
    | some x =>
      exact adds_setClassFields (calm rfl) c fun _ mem => Fields.get?_set_of_ne (other mem)
    | none =>
      dsimp only
      split
      · exact adds_setClassFields (calm rfl) c fun _ mem => Fields.get?_erase_of_ne (other mem)
      · have fails : Impartial .calmly (do
            fail .attributeError ("type object '" ++ (← Act.read (·.className c)) ++
              "' has no attribute '" ++ name ++ "'") : Act Unit) :=
          .seq (.read fun _ _ => by simp) inferInstance
        exact fails.adds m calm
  · exact loosely way

/-! ## Setting attributes -/

variable {call : Caller} [∀ f args named, Impartial way (call f args named)]

instance {α : Type} (m : Machine) (c : ClassRef) (verb name : String) :
    Impartial way (failSealed m c verb name : Act α) := by
  unfold failSealed
  infer_instance

instance (v : Value) (new : Option Value) : Impartial way (changeClass v new) := by
  unfold changeClass
  dsimp only
  split <;> try infer_instance
  refine .seq inferInstance fun _ => ?_
  split
  · exact .seq (.read fun _ _ => by simp) inferInstance
  · infer_instance

instance {α : Type} (owner : Known) (name : String) :
    Impartial way (failUnwritable owner name : Act α) := by
  unfold failUnwritable
  infer_instance

instance (c : ClassRef) (name new : String) : Impartial way (renameClass c name new) := by
  cases c with
  | known k => exact .update (fun _ _ => rfl) (fun _ => rfl) .refl
  | made n => exact .update (fun _ _ => rfl) (fun _ => rfl) fun _ => ⟨rfl, rfl, Nat.le_refl _⟩

instance (c : ClassRef) (name : String) (new : Option Value) [way.Asks (IsUnheeded name)] :
    Impartial way (changeClassPart c name new) := by
  unfold changeClassPart
  refine .readAll (fun _ _ => by simp) fun _ => ?_
  split <;> infer_instance

instance (c : ClassRef) (name : String) (new : Option Value) [way.Asks (IsUnheeded name)] :
    Impartial way (changeClassAttribute.change c name new) := by
  unfold changeClassAttribute.change
  infer_instance

instance (c : ClassRef) (name : String) (new : Option Value) [way.Asks (IsUnheeded name)] :
    Impartial way (changeClassAttribute c name new) := by
  unfold changeClassAttribute
  refine .readAll (fun _ _ => by simp) fun _ => ?_
  dsimp only
  split
  · split
    · infer_instance
    · split <;> infer_instance
  · infer_instance

instance {α : Type} (name : String) (new : Option Value) :
    Impartial way (failFrozenField name new : Act α) := by
  unfold failFrozenField
  infer_instance

instance [way.Loose] (v : Value) (new : Option Value) (deletable : Bool) :
    Impartial way (changeFields v new deletable) := by
  unfold changeFields
  dsimp only
  split
  · infer_instance
  · split
    · refine .seq inferInstance fun _ => ?_
      split <;> infer_instance
    · infer_instance

instance (link : String) (new : Option Value) : Impartial way (linkedFault link new) := by
  unfold linkedFault
  dsimp only
  split <;> try infer_instance
  refine .seq inferInstance fun _ => ?_
  split <;> infer_instance

instance (e : Ref) (name : String) (new : Option Value) :
    Impartial way (changeFaultPart call e name new) := by
  unfold changeFaultPart
  dsimp only
  split <;> first | infer_instance | split <;> infer_instance

instance (v : Value) (name : String) (new : Option Value) [way.Asks (IsUnheeded name)] :
    Impartial way (changeFunctionPart v name new) := by
  unfold changeFunctionPart
  dsimp only
  split <;> infer_instance

instance (v : Value) (owner : Known) (name : String) (new : Option Value)
    [asked : way.Asks (IsUnheeded name)] : Impartial way (changePart call v owner name new) := by
  unfold changePart
  split
  · infer_instance
  · split
    · infer_instance
    · split
      · next isDict =>
        rcases way.eq_calmly_or_loose with rfl | loose
        · refine absurd ?_ (asked.holds rfl)
          rw [eq_of_beq isDict]
          simp [heededNames]
        · infer_instance
      · split <;> infer_instance

instance (v : Value) : Impartial way (takesAttributes v) := by
  unfold takesAttributes
  split <;> try infer_instance
  refine .seq inferInstance fun _ => ?_
  split <;> infer_instance

instance (v : Value) (name : String) (new : Option Value) [way.Asks (IsUnheeded name)] :
    Impartial way (changeByNature call v name new) := by
  unfold changeByNature
  refine .seq inferInstance fun _ => .seq inferInstance fun _ => ?_
  dsimp only
  split
  · infer_instance
  · refine .seq inferInstance fun _ => ?_
    split <;> infer_instance

instance (i : Nat) (name : String) (new : Option Value) [asked : way.Asks (IsUnheeded name)] :
    Impartial way (changeSetting call (.config i) name new) := by
  unfold changeSetting
  have attached : Impartial way (update fun m =>
      m.attach (.config i) ((m.attachedTo (.config i)).set name (new.getD .null))) := by
    refine .of_holds (fun _ _ _ => rfl) (fun _ => rfl) fun m holds calmly => ?_
    have suits := (holds calmly).suits_attachedTo (v := .config i) nofun nofun
    exact (holds calmly).attach (suits.set (asked.holds calmly) _)
  infer_instance

instance {α : Type} (name : String) : Impartial way (failFrozen name : Act α) := by
  unfold failFrozen
  infer_instance

instance (v : Value) (name : String) (new : Option Value) [way.Asks (IsUnheeded name)] :
    Impartial way (changeByKind call v name new) := by
  unfold changeByKind
  split <;> try infer_instance
  refine .seq inferInstance fun _ => ?_
  split <;> first | infer_instance | exact .seq (.read fun _ _ => by simp) inferInstance

instance (target : Value) (name : String) (v : Value) [way.Asks (IsUnheeded name)] :
    Impartial way (setAttribute call target name v) := by
  unfold setAttribute
  refine .seq inferInstance fun _ => ?_
  split <;> infer_instance

instance (target : Value) (name : String) [way.Asks (IsUnheeded name)] :
    Impartial way (deleteAttribute call target name) := by
  unfold deleteAttribute
  refine .seq inferInstance fun _ => ?_
  split <;> infer_instance

/-! ## Snapshots -/

instance (fields : Fields) : Impartial way (snapshotEntries fields) := by
  unfold snapshotEntries
  infer_instance

instance (entries : List (Value × Value)) : Impartial way (fieldsOfEntries entries) := by
  induction entries with
  | nil => exact .pure []
  | cons entry rest ih =>
    rw [fieldsOfEntries]
    split <;> infer_instance

instance (fields : Fields) : Impartial way (newSnapshot fields) := by
  unfold newSnapshot
  refine .seq (.read fun _ _ => by simp) fun _ => ?_
  split <;> infer_instance

instance (v : Value) : Impartial way (validateSnapshot v) := by
  unfold validateSnapshot
  split
  · refine .seq inferInstance fun _ => ?_
    split <;> infer_instance
  · infer_instance

/-! ## Instances -/

instance (v : Value) (name : String) : Impartial way (fits.fitsItself call v name) := by
  unfold fits.fitsItself
  refine .seq inferInstance fun _ => ?_
  split
  · infer_instance
  · refine .seq inferInstance fun _ => ?_
    split <;> infer_instance

instance (v : Value) (k : Known) (name : String) : Impartial way (fits call v k name) := by
  unfold fits
  refine .seq inferInstance fun _ => .seq (.read fun _ _ => rfl) fun _ => ?_
  split
  · infer_instance
  · refine .seq inferInstance fun _ => ?_
    split <;> try infer_instance
    refine .seq (.update (fun _ _ => rfl) (fun _ => rfl) fun _ => ⟨rfl, rfl, Nat.le_refl _⟩)
      fun _ => ?_
    infer_instance

instance (v : Value) (c : ClassRef) : Impartial way (isOfClass call v c) := by
  unfold isOfClass
  refine .seq inferInstance fun _ => .seq (.read fun _ _ => by simp) fun _ => ?_
  split
  · infer_instance
  · refine .seq inferInstance fun _ => ?_
    split
    · infer_instance
    · refine .seq inferInstance fun _ => ?_
      split
      · exact .read fun _ _ => by simp
      · infer_instance

instance (v : Value) : Impartial way (claimedBases? call v) := by
  unfold claimedBases?
  refine .seq inferInstance fun _ => ?_
  split
  · refine .seq inferInstance fun _ => ?_
    split <;> infer_instance
  · infer_instance

instance (wanted : Value) (depth : Nat) [∀ v, Impartial way (claims call wanted depth v)]
    (values : List Value) : Impartial way (claims.anyOf call wanted depth values) := by
  induction values with
  | nil => rw [claims.anyOf]; infer_instance
  | cons v rest ih => rw [claims.anyOf]; infer_instance

instance (wanted : Value) (depth : Nat) (v : Value) :
    Impartial way (claims call wanted depth v) := by
  induction depth generalizing v with
  | zero => rw [claims]; infer_instance
  | succ depth ih => rw [claims]; infer_instance

instance (v other : Value) (depth : Nat) (refuse : Act Bool) [Impartial way refuse] :
    Impartial way (isOfObject call v other depth refuse) := by
  unfold isOfObject
  refine .seq inferInstance fun _ => ?_
  split
  · infer_instance
  · refine .seq inferInstance fun _ => ?_
    split
    · infer_instance
    · refine .seq inferInstance fun _ => ?_
      split <;> infer_instance

instance (v : Value) (depth : Nat) [∀ cls, Impartial way (isInstanceWithin call v depth cls)]
    (classes : List Value) : Impartial way (isInstanceWithin.anyOf call v depth classes) := by
  induction classes with
  | nil => rw [isInstanceWithin.anyOf]; infer_instance
  | cons c rest ih => rw [isInstanceWithin.anyOf]; infer_instance

instance (v : Value) (depth : Nat) (cls : Value) :
    Impartial way (isInstanceWithin call v depth cls) := by
  induction depth generalizing cls with
  | zero => rw [isInstanceWithin]; infer_instance
  | succ depth ih =>
    unfold isInstanceWithin
    dsimp only
    split
    · refine .seq inferInstance fun _ => ?_
      split
      · split <;> infer_instance
      · infer_instance
    · refine .seq inferInstance fun _ => ?_
      split <;> infer_instance
    · infer_instance

instance (v cls : Value) : Impartial way (isInstance call v cls) :=
  .reading (fun m => isInstanceWithin call v (m.heap.size + 2) cls) (fun _ _ => rfl) inferInstance

/-! ## Starting objects -/

instance : Impartial way (setOnlyArgument.refuse) := by
  unfold setOnlyArgument.refuse
  infer_instance

instance (v message : Value) : Impartial way (setOnlyArgument v message) := by
  unfold setOnlyArgument
  split
  · refine .seq inferInstance fun _ => ?_
    split <;> infer_instance
  · infer_instance

instance {α : Type} (c : ClassRef) : Impartial way (failNoArguments c : Act α) := by
  unfold failNoArguments
  infer_instance

instance (f : FaultClass) (args : List Value) (named : Fields) :
    Impartial way (startSlots f args named) := by
  unfold startSlots
  split
  · infer_instance
  · split
    · infer_instance
    · split <;> split <;> infer_instance

instance (f : FaultClass) (e : Ref) (args : List Value) (named : Fields) :
    Impartial way (startFault f e args named) := by
  unfold startFault
  infer_instance

instance (self found : Value) (args : List Value) (named : Fields) :
    Impartial way (startWith call self found args named) := by
  unfold startWith
  refine .seq inferInstance fun _ => ?_
  split <;> infer_instance

end Act

end Covenant
