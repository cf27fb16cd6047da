import Covenant.Contract.Runner
import Covenant.Demo.Queue
import Covenant.Object.Method.Dict
import Covenant.Object.Start
import Covenant.Script.Builtin

/-!
What calling a class does: conversions, new faults, snapshots, settings, validators, objects, and
new classes.

An object is made first and started after that. A class can have a special method for either.
-/

namespace Covenant.Act

/-- Makes a class known. -/
def addClass (info : ClassInfo) : Act ClassRef :=
  fun m => (.done (.made m.classes.size), { m with classes := m.classes.push info })

/-! ## Making classes -/

/-- An attribute of a new class. A function that makes its objects is bound to nothing, and one that
is told of classes made from it, or that takes what the class is given in brackets, to the class. -/
def classEntry (name : String) (v : Value) : Act (String × Value) := do
  if (← classOf v) != .known .function then return (name, v)
  else if name == special "new" then return (name, ← allocValue (.static v))
  else if name == special "init_subclass" || name == special "class_getitem" then
    return (name, ← allocValue (.ofClass v))
  else return (name, v)

/-- The attributes of a new class. Its objects cannot be keys if it says which of them are equal but
gives no hash. -/
def completeFields (own : Fields) : Fields :=
  if (own.get? (special "eq")).isSome && (own.get? (special "hash")).isNone then
    own.set (special "hash") .null
  else own

/-- Tells an attribute of a new class its name, if it wants to know. -/
def tellName (call : Caller) (c : ClassRef) (name : String) (v : Value) : Act Unit := do
  match ← attempt (callSpecial? call v "set_name" [.cls c, .text name]) with
  | .ok _ => pure ()
  | .error e =>
    whileHandling e do
      let failure ← newFault .runtimeError
        [.text ("Error calling __set_name__ on '" ++ (← typeName v) ++ "' instance " ++
          Text.quoted name ++ " in '" ++ (← read (·.className c)) ++ "'")]
      raiseFrom failure (some e)

/-- Tells the classes above a new class of it. -/
def tellAbove (call : Caller) (c : ClassRef) : Act Unit := do
  let above := (← read (·.lineage c)).drop 1
  let name := special "init_subclass"
  match ← read fun m => above.findSome? fun d => (m.classFields d).get? name with
  | none => pure ()
  | some found =>
    let _ ← call (← throughClass call c found) [] []

/-- Makes a class. -/
def makeClass (call : Caller) (info : ClassInfo) : Act ClassRef := do
  let fields ← info.fields.mapM fun (name, v) => classEntry name v
  let c ← addClass { info with fields := completeFields fields }
  fields.forM fun (name, v) => tellName call c name v
  tellAbove call c
  return c

/-! ## Objects of initial classes -/

/-- The title that texts give to the start of objects of a class. -/
def startTitle (k : Known) : String :=
  k.name ++ ".__init__"

/-- The fields of a frozen record from the arguments of its class. -/
def recordFields (k : Known) (names : List String) (args : List Value) (named : Fields) :
    Act Fields := do
  let a ← matched (.exactly (startTitle k) (("self" :: names).map .needed)) (.null :: args) named
  return names.zip ((a.values.drop 1).map (·.getD .null))

/-- The arguments of an enumeration that describe a new one and that the look-up of a member leaves
alone. -/
def enumerationOptions : List String := ["module", "qualname", "type", "start", "boundary"]

/-- The member of an enumeration that is asked for. Names of members are for new enumerations, and
none can be made from one that has members. -/
def callEnumeration (call : Caller) (e : Enumeration) (args : List Value) (named : Fields) :
    Act Value := do
  let a ← matched (.exactly "EnumType.__call__" [.needed "cls", .needed "value",
    .omissible "names"]) (.cls (.known (.enumeration e)) :: args)
    (named.filter fun p => !enumerationOptions.contains p.1)
  match a.value 2 with
  | .null => return .member (← enumMember call e (a.value 1))
  | _ =>
    fail .typeError ("<enum " ++ (← quotedText call (a.value 1)) ++ "> cannot extend <enum '" ++
      e.title ++ "'>")

/-- The items of the only argument of a collection, if it is given. -/
def collected (call : Caller) (name : String) (args : List Value) (named : Fields) :
    Act (List Value) := do
  match ← conversionArgument name args named with
  | none => return []
  | some v => items call v

/-! ## New classes -/

/-- Whether no class can be made from an initial class. -/
def isFinal : Known → Bool
  | .bool | .noneType | .function | .method | .builtinFunction => true
  | .auxiliary name =>
    ["NotImplementedType", "dict_keys", "dict_values", "dict_items", "mappingproxy",
      "getset_descriptor", "method_descriptor", "wrapper_descriptor"].contains name
  | _ => false

/-- The only class that a new class extends. -/
def baseFrom (bases : List Value) : Act ClassRef := do
  match bases with
  | [] => return .known .object
  | .cls (.known (.enumeration _)) :: _ =>
    fail .attributeError "'dict' object has no attribute '_member_names'"
  | .cls (.known k) :: _ =>
    if isFinal k then fail .typeError ("type '" ++ k.name ++ "' is not an acceptable base type")
    else return .known k
  | .cls c :: _ => return c
  | _ =>
    fail .typeError ("metaclass conflict: the metaclass of a derived class must be a " ++
      "(non-strict) subclass of the metaclasses of all its bases")

/-- An argument of the making of a class that has to be of some type. -/
def failClassArgument {α : Type} (position : Nat) (wanted : String) (v : Value) : Act α := do
  fail .typeError ("type.__new__() argument " ++ toString position ++ " must be " ++ wanted ++
    ", not " ++ (← typeName v))

/-- A new class from its name, the classes it extends, and its attributes. -/
def newClass (call : Caller) (name bases fields : Value) : Act Value := do
  match name.text? with
  | none => failClassArgument 1 "str" name
  | some title =>
    match ← cellOf bases with
    | some (.tuple above) =>
      match ← cellOf fields with
      | some (.dict entries) => do
        let base ← baseFrom above
        let own := entries.filterMap fun (k, v) => k.text?.map fun name => (name, v)
        return .cls (← makeClass call ⟨title, title, some base, own, []⟩)
      | _ => failClassArgument 3 "dict" fields
    | _ => failClassArgument 2 "tuple" bases
where
  /-- The cell of a value that has one. -/
  cellOf : Value → Act (Option Cell)
    | .ref r => do return some (← load r)
    | _ => return none

/-- The class of a value, or a new class. -/
def callType (call : Caller) (args : List Value) (named : Fields) : Act Value := do
  match args with
  | [v] => do
    withoutNames "type" named
    return .cls (← classOf v)
  | [name, bases, fields] => newClass call name bases fields
  | _ => fail .typeError "type() takes 1 or 3 arguments"

/-! ## Making and starting -/

/-- The nearest initial class that a class extends. -/
def knownAbove (m : Machine) (c : ClassRef) : Known :=
  ((m.lineage c).findSome? fun d =>
    match d with
    | .known k => some k
    | .made _ => none).getD .object

/-- A function with its first argument given, from the arguments of the class of such functions. -/
def newBound (args : List Value) (named : Fields) : Act Value := do
  match ← placedArguments "method" "method" 2 2 args named with
  | [f, self] =>
    if ← isCallable f then
      match self with
      | .null => fail .typeError "instance must not be None"
      | self => allocValue (.bound self f)
    else fail .typeError "first argument must be callable"
  | _ => return .null

/-- What calling an initial class gives whose objects are made in one go; nothing if its objects are
started after they have been made. -/
def constructWhole? (call : Caller) (k : Known) (args : List Value) (named : Fields) :
    Option (Act Value) :=
  match k with
  | .bool => some do
    match ← conversionArgument "bool" args named with
    | none => return .bool false
    | some v => return .bool (← truth call v)
  | .int => some (newInteger call args named)
  | .float => some do
    match ← conversionArgument "float" args named with
    | none => newFloat 0
    | some v => toFloat call v
  | .str => some (newText call args named)
  | .bytes => some (newBytes call args named)
  | .list => some do allocValue (.list (← collected call "list" args named))
  | .tuple => some do
    match ← conversionArgument "tuple" args named with
    | none => newTuple []
    | some v => asTuple call v
  | .dict => some do
    let r ← alloc (.dict [])
    updateDict call "dict" r args named
    return .ref r
  | .type => some (callType call args named)
  | .enumeration e => some (callEnumeration call e args named)
  | .snapshot => some do
    let _ ← matched ⟨"BaseModel.__init__", [.placed "self"], false, true⟩ (.null :: args) named
    newSnapshot named
  | .config => some do
    if args.isEmpty then return .config (← buildSettings named)
    else
      let _ ← matched ⟨"BaseSettings.__init__", [.placed "__pydantic_self__"], false, true⟩
        (.null :: args) named
      return .null
  | .noneType => some do
    if args.isEmpty && named.isEmpty then return .null
    else fail .typeError "NoneType takes no arguments"
  | .auxiliary "NotImplementedType" => some do
    if args.isEmpty && named.isEmpty then return .notImplemented
    else fail .typeError "NotImplementedType takes no arguments"
  | .function => some (fail .typeError "function() missing required argument 'code' (pos 1)")
  | .method => some (newBound args named)
  | .staticMethod => some do
    match ← placedArguments "staticmethod" "staticmethod" 1 1 args named with
    | f :: _ => allocValue (.static f)
    | [] => return .null
  | .property => some do
    let given ← namedArguments ⟨"property", ["fget", "fset", "fdel", "doc"], 0, 4, 0⟩ args named
    allocValue (.property (given[0]?.join.getD .null))
  | .builtinFunction | .enumerationType | .modelType | .protocolType | .auxiliary _ =>
    some (fail .typeError ("cannot create '" ++ k.name ++ "' instances"))
  | .fault .validationError => some (fail .typeError "No constructor defined")
  | _ => none
where
  /-- A value as a tuple; a tuple is taken as it is. -/
  asTuple (call : Caller) (v : Value) : Act Value := do
    match v with
    | .ref r =>
      match ← load r with
      | .tuple _ => return v
      | _ => newTuple (← items call v)
    | _ => newTuple (← items call v)

/-- Makes an object of a class that stands at or below an initial class, and starts it: by the
special method of its class if there is one, or else as the initial class does. -/
def constructObject (call : Caller) (k : Known) (c : ClassRef) (args : List Value)
    (named : Fields) : Act Value := do
  let start ← read (·.entryOf? c (special "init"))
  let made (cell : Cell) : Act Value := do
    let self ← allocValue cell
    match start with
    | some (.set found) => startWith call self found args named
    | _ => pure ()
    return self
  match k, start with
  | .fault _, some (.set _) => do
    made (.fault (.resting c args))
  | .fault f, _ => do
    let e ← alloc (.fault (.resting c args))
    startFault (naturalStart start f) e args named
    return .ref e
  | _, some (.set _) => made (.object c [])
  | .positive, _ | .inRange, _ | .longerThan, _ | .contractSet, _ => do
    made (.object c (← recordFields k k.recordNames args named))
  | _, _ =>
    if c == .known .validator || c == .known .hasInvariant then
      fail .typeError "Protocols cannot be instantiated"
    else if args.isEmpty && named.isEmpty then made (.object c [])
    else failNoArguments c
where
  /-- The class of faults that starts a fault by nature. -/
  naturalStart (start : Option ClassEntry) (f : FaultClass) : FaultClass :=
    match start with
    | some (.natural (.fault g) _) => g
    | _ => f

/-- What calling a class gives. -/
def construct (call : Caller) (c : ClassRef) (args : List Value) (named : Fields) :
    Act Value := do
  let k ← read (knownAbove · c)
  match ← read (·.classAttribute? c (special "new")) with
  | some found => do
    let v ← call (← throughClass call c found) (.cls c :: args) named
    match ← read (·.entryOf? c (special "init")) with
    | some (.set found) =>
      if ← read fun m => m.isSubclass (m.classOf v) c then startWith call v found args named
    | _ => pure ()
    return v
  | none =>
    match constructWhole? call k args named with
    | some whole => whole
    | none => constructObject call k c args named

end Covenant.Act
