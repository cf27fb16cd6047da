import Covenant.Object.Attribute

/-!
Attributes: setting and deleting them.

What is set goes into the fields of the value, if it can take attributes at all. An attribute that
the class works out is set by its own rule or not at all. What is frozen (snapshots, contract sets,
stock validators) refuses every change, and so do the built-in classes. A class can have a special
method that takes the change over.
-/

namespace Covenant.Act

/-! ## Fields of values -/

/-- Whether a value can be given attributes of its own. -/
def takesAttributes (v : Value) : Act Bool := do
  match v with
  | .member _ => return true
  | .routine r => return Machine.routineClass r == .function
  | .ref r =>
    match ← load r with
    | .object (.known (.auxiliary _)) _ => return false
    | .object .. | .fault _ | .closure .. | .contracted .. | .decorator .. | .probe _ | .static _
    | .snapshot _ => return true
    | _ => return false
  | _ => return false

/-- Replaces the fields of a value that takes attributes. -/
def putFields (v : Value) (fields : Fields) : Act Unit := do
  match v with
  | .ref r =>
    match ← load r with
    | .object c _ => store r (.object c fields)
    | .fault f => store r (.fault { f with fields })
    | _ => update (·.attach v fields)
  | v => update (·.attach v fields)

/-- The fields of a value that takes attributes. -/
def takenFields (v : Value) : Act Fields := do
  match v with
  | .ref r =>
    match ← load r with
    | .snapshot _ => read (·.attachedTo v)
    | _ => ownFields v
  | _ => ownFields v

/-- Changes a field: sets it to a value, or takes it away. -/
def changeField (v : Value) (name : String) (new : Option Value) : Act Unit := do
  let fields ← takenFields v
  match new with
  | some x => putFields v (fields.set name x)
  | none =>
    if (fields.get? name).isSome then putFields v (fields.erase name) else failAttribute v name

/-! ## Attributes that a class works out -/

/-- Raises the fault of an attribute that cannot be written. -/
def failUnwritable {α : Type} (owner : Known) (name : String) : Act α :=
  fail .attributeError ("attribute '" ++ name ++ "' of '" ++ owner.name ++
    "' objects is not writable")

/-- Whether the objects of a class hold nothing but their fields, so that they can change to another
such class. -/
def isOpenClass (m : Machine) (c : ClassRef) : Bool :=
  (m.lineage c).any fun d =>
    d == .known .programObject || d == .known .account || d == .known .queue

/-- Puts an object into another class. -/
def changeClass (v : Value) (new : Option Value) : Act Unit := do
  let refuse : Act Unit :=
    fail .typeError "__class__ assignment only supported for mutable types or ModuleType subclasses"
  match new, v with
  | none, _ => fail .typeError "can't delete __class__ attribute"
  | some (.cls d), .ref r =>
    match ← load r with
    | .object c fields =>
      if ← read fun m => isOpenClass m c && isOpenClass m d then store r (.object d fields)
      else refuse
    | _ => refuse
  | some (.cls _), _ => refuse
  | some x, _ =>
    fail .typeError ("__class__ must be set to a class, not '" ++ (← typeName x) ++ "' object")

/-- The named values of a dictionary. -/
def namedEntries (entries : List (Value × Value)) : Fields :=
  entries.filterMap fun (k, v) => k.text?.map fun name => (name, v)

/-- Replaces all fields of a value by the entries of a dictionary. -/
def changeFields (v : Value) (new : Option Value) (deletable : Bool) : Act Unit := do
  let refuse (x : Value) : Act Unit := do
    fail .typeError ("__dict__ must be set to a dictionary, not a '" ++ (← typeName x) ++ "'")
  match new with
  | none => if deletable then putFields v [] else fail .typeError "cannot delete __dict__"
  | some x =>
    match x with
    | .ref r =>
      match ← load r with
      | .dict entries => putFields v (namedEntries entries)
      | _ => refuse x
    | _ => refuse x

/-- A fault that another one is linked to; nothing takes the link away. -/
def linkedFault (link : String) (new : Option Value) : Act (Option Ref) := do
  let refuse : Act (Option Ref) :=
    fail .typeError ("exception " ++ link ++ " must be None or derive from BaseException")
  match new with
  | none => fail .typeError ("__" ++ link ++ "__ may not be deleted")
  | some .null => return none
  | some (.ref r) =>
    match ← load r with
    | .fault _ => return some r
    | _ => refuse
  | some _ => refuse

/-- Changes an attribute that the class of a fault keeps for it. -/
def changeFaultPart (call : Caller) (e : Ref) (name : String) (new : Option Value) :
    Act Unit := do
  let put (change : Fault → Fault) : Act Unit := do
    store e (.fault (change (← loadFault e)))
  match name with
  | "args" =>
    match new with
    | none => fail .typeError "args may not be deleted"
    | some x => do
      let args ← items call x
      put fun f => { f with args }
  | "__cause__" => do
    let cause ← linkedFault "cause" new
    put fun f => { f with cause, suppressed := true }
  | "__context__" => do
    let context ← linkedFault "context" new
    put fun f => { f with context }
  | "__suppress_context__" =>
    match new with
    | some (.bool suppressed) => put fun f => { f with suppressed }
    | some _ => fail .typeError "attribute value type must be bool"
    | none => fail .typeError "can't delete numeric/char attribute"
  | "__traceback__" =>
    match new with
    | none => fail .typeError "__traceback__ may not be deleted"
    | some .null => put fun f => { f with flown := false }
    | some x =>
      if (← typeName x) == "traceback" then put fun f => { f with flown := true }
      else fail .typeError "__traceback__ must be a traceback or None"
  | "title" => failUnwritable (.fault .validationError) name
  | name => put fun f => { f with slots := f.slots.set name (new.getD .null) }

/-- Changes an attribute that the class of a function works out. -/
def changeFunctionPart (v : Value) (name : String) (new : Option Value) : Act Unit := do
  let readOnly : Act Unit := fail .attributeError "readonly attribute"
  match name, new with
  | "__name__", some (.text _) | "__qualname__", some (.text _) => changeField v name new
  | "__name__", _ | "__qualname__", _ =>
    fail .typeError (name ++ " must be set to a string object")
  | "__closure__", _ | "__globals__", _ | "__builtins__", _ => readOnly
  | "__code__", _ => fail .typeError "__code__ must be set to a code object"
  | "__defaults__", some x | "__kwdefaults__", some x | "__annotations__", some x => do
    let kind := if name == special "defaults" then "tuple" else "dict"
    if x.same .null || (← typeName x) == kind then changeField v name new
    else fail .typeError (name ++ " must be set to a " ++ kind ++ " object")
  | "__defaults__", none | "__kwdefaults__", none | "__annotations__", none
  | "__module__", none =>
    if ((← takenFields v).get? name).isSome then changeField v name new
  | _, _ => changeField v name new

/-- Changes an attribute that the class of a value works out for it, `owner` being the initial class
that has it by nature. -/
def changePart (call : Caller) (v : Value) (owner : Known) (name : String) (new : Option Value) :
    Act Unit := do
  if name == special "class" then changeClass v new
  else if name == special "weakref" then failUnwritable owner name
  else if name == special "dict" then
    changeFields v new (owner != .function && owner != .fault .baseException)
  else
    match owner, v with
    | .fault _, .ref e => changeFaultPart call e name new
    | .function, _ => changeFunctionPart v name new
    | .method, _ => fail .attributeError "readonly attribute"
    | .enumeration _, _ =>
      fail .attributeError ("<enum 'Enum'> cannot " ++
        (if new.isSome then "set" else "delete") ++ " attribute '" ++ name ++ "'")
    | owner, _ => failUnwritable owner name

/-! ## Classes -/

/-- Raises the fault of a class whose attributes can never change. -/
def failSealed {α : Type} (m : Machine) (c : ClassRef) (verb name : String) : Act α :=
  fail .typeError ("cannot " ++ verb ++ " '" ++ name ++ "' attribute of immutable type '" ++
    m.className c ++ "'")

/-- Changes an attribute that classes have among others. -/
def changeClassField (c : ClassRef) (name : String) (new : Option Value) : Act Unit := do
  let fields ← read (·.classFields c)
  match new with
  | some x => update fun m => m.setClassFields c (fields.set name x)
  | none =>
    if (fields.get? name).isSome then update fun m => m.setClassFields c (fields.erase name)
    else
      fail .attributeError
        ("type object '" ++ (← read (·.className c)) ++ "' has no attribute '" ++ name ++ "'")

/-- Gives a class made by a script another name. -/
def renameClass (c : ClassRef) (name new : String) : Act Unit :=
  update fun m =>
    match c with
    | .known _ => m
    | .made n =>
      { m with classes := m.classes.modify n fun info =>
          if name == special "name" then { info with name := new }
          else { info with qualified := new } }

/-- Changes an attribute that the class of a class works out for it. -/
def changeClassPart (c : ClassRef) (name : String) (new : Option Value) : Act Unit := do
  let m ← read id
  match name, new with
  | "__mro__", _ | "__base__", _ | "__basicsize__", _ | "__itemsize__", _ | "__flags__", _
  | "__dictoffset__", _ | "__weakrefoffset__", _ => fail .attributeError "readonly attribute"
  | "__dict__", _ | "__text_signature__", _ => failUnwritable .type name
  | "__annotations__", none | "__abstractmethods__", none =>
    if ((m.classFields c).get? name).isSome then changeClassField c name new
    else fail .attributeError name
  | "__annotations__", _ | "__abstractmethods__", _ => changeClassField c name new
  | _, none => failSealed m c "delete" name
  | "__name__", some (.text s) | "__qualname__", some (.text s) => renameClass c name s
  | "__name__", some x | "__qualname__", some x =>
    fail .typeError ("can only assign string to " ++ m.className c ++ "." ++ name ++ ", not '" ++
      (← typeName x) ++ "'")
  | "__bases__", some x =>
    fail .typeError ("can only assign tuple to " ++ m.className c ++ ".__bases__, not " ++
      (← typeName x))
  | _, some _ => changeClassField c name new

/-- Changes an attribute of a class. -/
def changeClassAttribute (c : ClassRef) (name : String) (new : Option Value) : Act Unit := do
  let m ← read id
  let verb := if new.isSome then "set" else "delete"
  match c with
  | .known k =>
    if k.isSealed then failSealed m c "set" name
    else
      match k with
      | .enumeration e =>
        if (e.named? name).isSome then
          if new.isSome then fail .attributeError ("cannot reassign member '" ++ name ++ "'")
          else
            fail .attributeError
              ("'" ++ e.title ++ "' cannot " ++ verb ++ " member '" ++ name ++ "'.")
        else if name == special "members" then
          fail .attributeError ("property '" ++ name ++ "' of 'EnumType' object has no " ++
            (if new.isSome then "setter" else "deleter"))
        else change
      | _ => change
  | .made _ => change
where
  /-- Changes an attribute of a class that takes changes. -/
  change : Act Unit :=
    if name == special "class" then changeClass (.cls c) new
    else if Known.type.nature? name == some .computed then changeClassPart c name new
    else changeClassField c name new

/-! ## Values -/

/-- Changes an attribute by the usual rules. -/
def changeByNature (call : Caller) (v : Value) (name : String) (new : Option Value) :
    Act Unit := do
  let c ← classOf v
  let entry ← read (·.entryOf? c name)
  let propertyEntry ← match entry with
    | some (.set found) => isProperty found
    | _ => pure false
  match entry with
  | some (.natural owner .computed) => changePart call v owner name new
  | _ =>
    if propertyEntry then
      fail .attributeError ("property " ++ Text.quoted name ++ " of " ++
        Text.quoted (← read (·.qualifiedName c)) ++ " object has no " ++
        (if new.isSome then "setter" else "deleter"))
    else if ← takesAttributes v then changeField v name new
    else if entry.isSome || name == special "doc" then
      fail .attributeError ("'" ++ (← typeName v) ++ "' object attribute '" ++ name ++
        "' is read-only")
    else failAttribute v name

/-- Raises the fault of a snapshot that is asked to change. -/
def failFrozen {α : Type} (name : String) : Act α := do
  raise (← newFailure ⟨"OldState", [⟨"frozen_instance", [name], "Instance is frozen"⟩]⟩)

/-- Raises the fault of a frozen record that is asked to change. -/
def failFrozenField {α : Type} (name : String) (new : Option Value) : Act α :=
  fail .frozenInstanceError ("cannot " ++ (if new.isSome then "assign to" else "delete") ++
    " field " ++ Text.quoted name)

/-- Whether a name is one that the models of snapshots and settings leave alone. -/
def isHiddenName (name : String) : Bool :=
  name.startsWith "_"

/-- The names of the settings. -/
def settingNames : List String := ["profile", "emit_span_events", "log_level"]

/-- Changes a setting. What is set is not looked at. -/
def changeSetting (call : Caller) (v : Value) (name : String) (new : Option Value) : Act Unit := do
  if isHiddenName name && new.isSome then changeByNature call v name new
  else if settingNames.contains name && new.isSome then
    update fun m => m.attach v ((m.attachedTo v).set name (new.getD .null))
  else if new.isSome then
    fail .valueError ("\"DbcConfig\" object has no field \"" ++ name ++ "\"")
  else failAttribute v name

/-- Changes an attribute by the rule of its kind of value. -/
def changeByKind (call : Caller) (v : Value) (name : String) (new : Option Value) : Act Unit := do
  match v with
  | .cls c => changeClassAttribute c name new
  | .contracts _ => failFrozenField name new
  | .config _ => changeSetting call v name new
  | .ref r =>
    match ← load r with
    | .object c _ =>
      let frozen ← read fun m =>
        (m.recordNames? c).any fun names => Machine.isRecordClass c || names.contains name
      if frozen then failFrozenField name new else changeByNature call v name new
    | .snapshot _ =>
      if isHiddenName name && new.isSome then changeByNature call v name new
      else failFrozen name
    | _ => changeByNature call v name new
  | v => changeByNature call v name new

/-- Sets an attribute. -/
def setAttribute (call : Caller) (target : Value) (name : String) (v : Value) : Act Unit := do
  match ← special? target "setattr" with
  | some found =>
    let _ ← callThrough call target found [.text name, v] []
  | none => changeByKind call target name (some v)

/-- Deletes an attribute. -/
def deleteAttribute (call : Caller) (target : Value) (name : String) : Act Unit := do
  match ← special? target "delattr" with
  | some found =>
    let _ ← callThrough call target found [.text name] []
  | none => changeByKind call target name none

end Covenant.Act
