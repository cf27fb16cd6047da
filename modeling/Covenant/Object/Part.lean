import Covenant.Object.Collection
import Covenant.Object.Text

/-!
Parts: the fields that values have themselves, and the attributes that their classes work out for
them.
-/

namespace Covenant

/-- The fields that an initial class announces, with the names of their types. -/
def announcedFields : Known → List (String × String)
  | .inRange => [("min", "Any"), ("max", "Any")]
  | .longerThan => [("min_len", "int")]
  | .fault .violation => [("kind", "ContractKind")]
  | _ => []

/-- The member of a contract set under a name: the profile, whether it is checked, and the ten
primitives. -/
def contractPart? (p : Profile) (name : String) : Option Value :=
  let checked := p == .checked
  let assertion (side : Side) (shape : Shape) : Value :=
    .routine (if checked then .assertion side shape else .skip)
  match name with
  | "profile" => some (.member (.profile p))
  | "checked" => some (.bool checked)
  | "require" => some (assertion .pre .plain)
  | "ensure" => some (assertion .post .plain)
  | "requiref" => some (assertion .pre .formatted)
  | "ensuref" => some (assertion .post .formatted)
  | "require_ctx" => some (assertion .pre .context)
  | "ensure_ctx" => some (assertion .post .context)
  | "run_strict" => some (.routine (if checked then .runStrict else .runUnchecked))
  | "run_error_tolerant" => some (.routine (if checked then .runErrorTolerant else .runUnchecked))
  | "run_contract" => some (.routine (if checked then .runContract else .runContractUnchecked))
  | "contract_method" => some (.routine (.contractMethod p))
  | _ => none

namespace Act

/-! ## Fields -/

/-- The fields that a member of an enumeration has from the start. -/
def memberFields (x : Member) : Fields :=
  let place := (x.enumeration.members.findIdx? (· == x)).getD 0
  [("_value_", .text x.text), ("_name_", .text x.name),
    (special "objclass", .cls (.known (.enumeration x.enumeration))),
    ("_sort_order_", .int place)]

/-- The fields that a value has itself: those of an object, a fault or a snapshot, the settings, and
what scripts have given to a value without fields. -/
def ownFields (v : Value) : Act Fields := do
  match v with
  | .config i => read (settingFields · i)
  | .member x =>
    match (← read Machine.attached).find? (v.same ·.1) with
    | some (_, fields) => return fields
    | none => return memberFields x
  | .contracts p =>
    return contractSetParts.filterMap fun name => (contractPart? p name).map fun x => (name, x)
  | .ref r =>
    match ← load r with
    -- what a view of the attributes of a class holds are its items
    | .object (.known (.auxiliary _)) _ => return []
    | .object _ fields | .snapshot fields => return fields
    | .fault f => return f.fields
    | _ => read (·.attachedTo v)
  | _ => read (·.attachedTo v)

/-- The field that a value has itself under a name. What scripts have given to it comes first. -/
def ownField? (v : Value) (name : String) : Act (Option Value) := do
  match v with
  | .contracts p => return contractPart? p name
  | _ =>
    match (← read (·.attachedTo v)).get? name with
    | some x => return some x
    | none => return (← ownFields v).get? name

/-- Named values as a new dictionary. -/
def newFieldDict (fields : Fields) : Act Value :=
  allocValue (.dict (entriesOfFields fields))

/-- Values as a new tuple. -/
def newTuple (items : List Value) : Act Value :=
  allocValue (.tuple items)

/-- An object of which nothing is known but the name of its class. -/
def newAuxiliary (name : String) : Act Value :=
  allocValue (.object (.known (.auxiliary name)) [])

/-! ## Functions -/

/-- An attribute that the class of a function works out for it. -/
def functionPart? (v : Value) (name : String) : Act (Option Value) := do
  let given? ← ownField? v name
  let bound? ← match v with
    | .ref r => do
      match ← load r with
      | .bound self f => pure (some (self, f))
      | _ => pure none
    | _ => pure none
  match name, bound? with
  | "__name__", _ => return some (.text (← functionName wrapperDepth v))
  | "__qualname__", _ => return some (.text (← qualifiedFunctionName v))
  | "__self__", some (self, _) => return some self
  | "__self__", none => return some (← newAuxiliary "module")
  | "__func__", some (_, f) => return some f
  | "__module__", some (_, .routine (.method ..)) => return some .null
  | "__module__", _ => return some (given?.getD (.text (← functionHome v)))
  | "__dict__", _ => return some (← newFieldDict (← ownFields v))
  | "__annotations__", _ => return some (← newFieldDict [])
  | "__code__", _ => return some (← newAuxiliary "code")
  | "__globals__", _ => return some (← newFieldDict [])
  | "__objclass__", _ =>
    match v with
    | .routine (.method k _) => return some (.cls (.known k))
    | _ => return some .null
  | _, _ => return some (given?.getD .null)

/-! ## Classes -/

/-- The name of the module that a class belongs to. -/
def moduleName (c : ClassRef) : String :=
  match c with
  | .made _ => "__main__"
  | .known k => if k.home.isEmpty then "builtins" else k.home

/-- The classes that a class extends directly. -/
def directBases (m : Machine) (c : ClassRef) : List ClassRef :=
  match c with
  | .known .object => []
  | .known (.enumeration _) => [.known .str, .known (.auxiliary "Enum")]
  | .known .snapshot => [.known (.auxiliary "BaseModel")]
  | .known .config => [.known (.auxiliary "BaseSettings")]
  | .known .validator | .known .hasInvariant => [.known (.auxiliary "Protocol")]
  | c => [((m.lineage c).drop 1).headD (.known .object)]

/-- The classes in which attributes of a class are looked up, in order. -/
def lookupOrder (m : Machine) (c : ClassRef) : List ClassRef :=
  let between := match c with
    | .known (.enumeration _) => [Known.auxiliary "Enum"]
    | .known .snapshot => [.auxiliary "BaseModel"]
    | .known .config => [.auxiliary "BaseSettings", .auxiliary "BaseModel"]
    | .known .validator | .known .hasInvariant => [.auxiliary "Protocol", .auxiliary "Generic"]
    | _ => []
  let lineage := m.lineage c ++ between.map .known
  if lineage.contains (.known .object) then lineage else lineage ++ [.known .object]

/-- An attribute that the class of a class works out for it. -/
def classPart? (c : ClassRef) (name : String) : Act (Option Value) := do
  let m ← read id
  match name with
  | "__name__" => return some (.text (m.className c))
  | "__qualname__" => return some (.text (m.qualifiedName c))
  | "__module__" => return some (.text (moduleName c))
  | "__bases__" => return some (← newTuple ((directBases m c).map .cls))
  | "__base__" => return some (((directBases m c).head?.map Value.cls).getD .null)
  | "__mro__" => return some (← newTuple ((lookupOrder m c).map .cls))
  | "__dict__" =>
    return some (← allocValue (.object (.known (.auxiliary "mappingproxy")) (m.classFields c)))
  | "__annotations__" =>
    match c with
    | .made _ => return some (← newFieldDict [])
    | .known k =>
      if k.isSealed then return none
      else return some (← newFieldDict ((announcedFields k).map fun p => (p.1, .text p.2)))
  | "__abstractmethods__" => return none
  | "__text_signature__" => return some .null
  | "__basicsize__" | "__itemsize__" | "__flags__" | "__dictoffset__" | "__weakrefoffset__" =>
    return some (.int 0)
  | _ => return none

/-- An attribute that an initial class holds itself besides those in its tables. -/
def heldPart? (k : Known) (name : String) : Act (Option Value) := do
  let asDict (entries : List (Value × Value)) : Act (Option Value) := do
    return some (← allocValue (.dict entries))
  match k, name with
  | .enumeration e, "_member_names_" =>
    return some (← allocValue (.list (e.members.map fun m => .text m.name)))
  | .enumeration e, "_member_map_" => asDict (e.members.map fun m => (.text m.name, .member m))
  | .enumeration e, "_value2member_map_" =>
    asDict (e.members.map fun m => (.text m.text, .member m))
  | .enumeration _, "_member_type_" => return some (.cls (.known .str))
  | k, name =>
    if k.isRecord && name == special "match_args" then
      return some (← newTuple (k.recordNames.map .text))
    else if name == special "annotations" && !(announcedFields k).isEmpty then
      return some (← newFieldDict ((announcedFields k).map fun p => (p.1, .text p.2)))
    else return none

/-- What the nearest of several classes holds itself besides what stands in its table. -/
def heldAmong? (name : String) : List ClassRef → Act (Option Value)
  | [] => return none
  | .made _ :: rest => heldAmong? name rest
  | .known k :: rest => do
    match ← heldPart? k name with
    | some x => return some x
    | none => heldAmong? name rest

/-- What an enumeration shows of its members; the members do not show it themselves. -/
def membersPart? (c : ClassRef) (name : String) : Act (Option Value) := do
  match c with
  | .known (.enumeration e) =>
    if name == special "members" then
      let fields : Fields := e.members.map fun m => (m.name, .member m)
      return some (← allocValue (.object (.known (.auxiliary "mappingproxy")) fields))
    else return none
  | _ => return none

/-! ## Numbers, faults and the rest -/

/-- The attributes of numbers. -/
def numberPart? (v : Value) (name : String) : Act (Option Value) := do
  match v, name with
  | .float .., "real" => return some v
  | .float .., "imag" => return some (← newFloat 0)
  | v, "real" | v, "numerator" => return v.int?.map .int
  | v, "imag" => return v.int?.map fun _ => .int 0
  | v, "denominator" => return v.int?.map fun _ => .int 1
  | _, _ => return none

/-- The attributes of a fault that its class keeps for it. -/
def faultPart? (f : Fault) (name : String) : Act (Option Value) := do
  let optional (r : Option Ref) : Value := (r.map Value.ref).getD .null
  match name with
  | "args" => return some (← newTuple f.args)
  | "__cause__" => return some (optional f.cause)
  | "__context__" => return some (optional f.context)
  | "__suppress_context__" => return some (.bool f.suppressed)
  | "__traceback__" =>
    if f.flown then return some (← newAuxiliary "traceback") else return some .null
  | "title" => return (f.failure.map fun p => .text p.title)
  | "value" | "code" | "name" | "obj" | "encoding" | "object" | "start" | "end" | "reason" =>
    return some (f.slot name)
  | _ => return none

/-- The settings of the model that snapshots follow. -/
def snapshotSettings : Fields :=
  [("extra", .text "allow"), ("frozen", .bool true), ("arbitrary_types_allowed", .bool true)]

/-- The fields that the objects of a model have in any case, with what is known of each. -/
def modelFields (v : Value) : Act Value := do
  match v with
  | .config _ | .cls (.known .config) =>
    newFieldDict (← ["profile", "emit_span_events", "log_level"].mapM fun name => do
      return (name, ← newAuxiliary "FieldInfo"))
  | _ => newFieldDict []

/-- The attributes of snapshots and of settings that are reached through their classes as well. -/
def modelClassPart? (v : Value) (name : String) : Act (Option Value) := do
  match name with
  | "model_config" =>
    match v with
    | .config _ | .cls (.known .config) => return none
    | _ => return some (← newFieldDict snapshotSettings)
  | "model_fields" | "__pydantic_fields__" => return some (← modelFields v)
  | "model_computed_fields" | "__pydantic_computed_fields__" | "__private_attributes__"
  | "__pydantic_setattr_handlers__" | "__pydantic_core_schema__" =>
    return some (← newFieldDict [])
  | "_abc_impl" => return some (← newAuxiliary "_abc_data")
  | "__class_vars__" => return some (← newAuxiliary "set")
  | "__abstractmethods__" => return some (← newAuxiliary "frozenset")
  | "__slots__" =>
    let names := ["dict", "pydantic_fields_set", "pydantic_extra", "pydantic_private"]
    return some (← newTuple (names.map fun name => .text (special name)))
  | "__pydantic_complete__" => return some (.bool true)
  | "__pydantic_custom_init__" | "__pydantic_root_model__" => return some (.bool false)
  | "__pydantic_parent_namespace__" | "__pydantic_post_init__" => return some .null
  | "__pydantic_decorators__" => return some (← newAuxiliary "DecoratorInfos")
  | "__pydantic_serializer__" => return some (← newAuxiliary "SchemaSerializer")
  | "__pydantic_validator__" => return some (← newAuxiliary "SchemaValidator")
  | "__pydantic_generic_metadata__" =>
    return some (← newFieldDict [("origin", .null), ("args", ← newTuple []),
      ("parameters", ← newTuple [])])
  | _ => return none

/-- The attributes that are worked out for snapshots and for settings. Those that are dictionaries
are copies: what is done to one does not show in the snapshot. -/
def modelPart? (v : Value) (name : String) : Act (Option Value) := do
  let isConfig := match v with
    | .config _ => true
    | _ => false
  match name with
  | "model_extra" | "__pydantic_extra__" =>
    return some (← if isConfig then pure .null else do newFieldDict (← ownFields v))
  | "model_fields_set" | "__fields_set__" | "__pydantic_fields_set__" =>
    return some (← newAuxiliary "set")
  | "__dict__" =>
    return some (← newFieldDict (← if isConfig then ownFields v else read (·.attachedTo v)))
  | "__pydantic_private__" | "__weakref__" => return some .null
  | "__signature__" =>
    fail .attributeError ("'__signature__' attribute of '" ++ (← typeName v) ++ "' is class-only")
  | name => modelClassPart? v name

/-- The attribute that the class of a value works out for it under a name, `owner` being the
initial class that has it by nature. -/
def computedPart? (v : Value) (owner : Known) (name : String) : Act (Option Value) := do
  if name == special "class" then return some (.cls (← classOf v))
  else
    match owner with
    | .int | .float => numberPart? v name
    | .type =>
      match v with
      | .cls c => classPart? c name
      | _ => return none
    | .enumeration _ =>
      let fields ← ownFields v
      if name == special "dict" then return some (← newFieldDict fields)
      else
        let inner := "_" ++ name ++ "_"
        match fields.get? inner with
        | some x => return some x
        | none =>
          fail .attributeError ("'" ++ (← typeName v) ++ "' object has no attribute '" ++ inner ++
            "'")
    | .snapshot | .config => modelPart? v name
    | .fault _ =>
      match v with
      | .ref r =>
        match ← load r with
        | .fault f =>
          if name == special "dict" then return some (← newFieldDict f.fields)
          else if name == special "weakref" then return some .null
          else faultPart? f name
        | _ => return none
      | _ => return none
    | .programObject | .account | .queue | .positive | .inRange | .longerThan | .contractSet =>
      if name == special "dict" then return some (← newFieldDict (← ownFields v))
      else return some .null
    | .property =>
      match v with
      | .ref r =>
        match ← load r with
        | .property f => return some (if name == "fget" then f else .null)
        | _ => return none
      | _ => return none
    | .auxiliary "GenericAlias" =>
      match v with
      | .ref r =>
        match ← load r, name with
        | .alias c _, "__origin__" => return some (.cls c)
        | .alias _ args, "__args__" => return some (← newTuple args)
        | _, _ => return some (← newTuple [])
      | _ => return none
    | .auxiliary "dict_keys" | .auxiliary "dict_values" | .auxiliary "dict_items" =>
      return some (← newAuxiliary "mappingproxy")
    | _ => functionPart? v name

end Act

end Covenant
