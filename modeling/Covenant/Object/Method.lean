import Covenant.Object.Method.Bytes
import Covenant.Object.Method.Fault
import Covenant.Object.Method.Model
import Covenant.Object.Method.Number
import Covenant.Object.Method.Operation
import Covenant.Object.Method.Sequence
import Covenant.Object.Method.Text
import Covenant.Signature

/-!
Methods: what the functions give that the initial classes have by nature.

A method or an operation is given the object first, and refuses one of another class. A method of a
class itself is given the class first.
-/

namespace Covenant.Act

/-- What the methods that every object has give; nothing if there is none of that name. -/
def objectMethod? (how : Invocation) (call : Caller) (name : String) (v : Value) (args : List Value)
    (named : Fields) : Option (Act Value) :=
  match name with
  | "__format__" => some do
    let given ← onlyArgument (how.title "__format__") args named
    let spec ← textArgument "__format__() argument" given
    return .text (← laidOutByNature call v spec)
  | "__dir__" => some (allocValue (.list []))
  | "__getstate__" => some do newFieldDict (← ownFields v)
  | _ => none

/-- What the methods of classes give; nothing if there is none of that name. -/
def classMethod? (how : Invocation) (call : Caller) (name : String) (v : Value) (args : List Value)
    (named : Fields) : Option (Act Value) :=
  match name, v with
  | "mro", .cls c => some do
    noArguments (how.title "mro") args named
    allocValue (.list ((lookupOrder (← read id) c).map .cls))
  | "__subclasses__", .cls c => some do
    noArguments (how.title "__subclasses__") args named
    let m ← read id
    let made := (List.range m.classes.size).filter fun n =>
      (directBases m (.made n)).contains c
    allocValue (.list (made.map fun n => .cls (.made n)))
  | "__instancecheck__", _ => some do
    return .bool (← isInstance call (← onlyArgument (how.title "__instancecheck__") args named) v)
  | "__subclasscheck__", .cls c => some do
    match ← onlyArgument (how.title "__subclasscheck__") args named with
    | .cls d => return .bool (← read (·.isSubclass d c))
    | _ => fail .typeError "issubclass() arg 1 must be a class"
  | _, _ => none

/-- What a method of a text gives for a member; nothing if texts have no method of that name. The
text of a member has no fields, so filling it in gives the member itself. -/
def memberMethod? (how : Invocation) (call : Caller) (name : String) (v : Value) (m : Member)
    (args : List Value)
    (named : Fields) : Option (Act Value) :=
  (TextMethod.run? how call name m.text args named).map fun result => do
    let w ← result
    return if name == "format" || name == "format_map" then v else w

/-- The parameters of a method that is a function, after the object itself. -/
def functionParameters : (name : String) → List String
  | "__format__" => ["format_spec"]
  | "__reduce_ex__" => ["proto"]
  | "__eq__" => ["other"]
  | "__setattr__" => ["name", "value"]
  | "__delattr__" => ["name"]
  | _ => []

/-- The signature of a method that is a function; nothing for any other method. -/
def functionSignature? (owner : Known) (name : String) : Option Signature :=
  let parameters := (("self" :: functionParameters name).map Parameter.needed)
  match owner with
  | .enumeration _ => some (.exactly ("Enum." ++ name) parameters)
  | .programObject => some (.exactly (owner.name ++ "." ++ name) parameters)
  | owner => if owner.isRecord then some (.exactly (owner.name ++ "." ++ name) parameters) else none

/-- What a method that is a function gives. -/
def runFunction (call : Caller) (owner : Known) (name : String) (v : Value) (given : Nat → Value)
    : Act Value := do
  match name, v with
  | "__repr__", _ => Operation.quotedAs call owner v
  | "__str__", .member m => return .text m.qualified
  | "__format__", _ => do
    let text ← plainText call v
    let spec ← textArgument "__format__() argument" (given 0)
    return .text (← laidOutBy (Format.formatText spec "str" text))
  | "__reduce_ex__", .member m => do
    newTuple [.cls (← classOf v), ← newTuple [.text m.text]]
  | "__eq__", _ =>
    return (← compareByNature call (compare call) .eq v (given 0)).getD .notImplemented
  | "__hash__", _ => Operation.hashAs call v
  | "__setattr__", _ => do
    changeByKind call v (← Operation.attributeName (given 0)) (some (given 1))
    return .null
  | "__delattr__", _ => do
    changeByKind call v (← Operation.attributeName (given 0)) none
    return .null
  | _, _ => return .null

/-- What a method gives that an initial class has by nature; nothing if there is none of that name
that can be told anything about. -/
def naturalMethod? (how : Invocation) (call : Caller) (owner : Known) (name : String) (v : Value)
    (args : List Value) (named : Fields) : Act (Option (Act Value)) := do
  match owner, v with
  | .object, _ => return objectMethod? how call name v args named
  | .type, _ => return classMethod? how call name v args named
  | .str, .text s => return TextMethod.run? how call name s args named
  | .str, .member m => return memberMethod? how call name v m args named
  | .bytes, .bytes b => return BytesMethod.run? how call name b args named
  | .float, .float x _ => return NumberMethod.onFloat? call name v x args named
  | .int, v => return v.int?.bind fun n => NumberMethod.onInteger? how call name v n args named
  | _, .ref r =>
    match ← load r with
    | .list items => return SequenceMethod.onList? call name r items args named
    | .tuple items => return SequenceMethod.onTuple? call name v items args named
    | .dict entries => return DictMethod.run? call name r entries args named
    | .view part d => return DictMethod.onView? call name part d args named
    | .fault f => return FaultMethod.run? how call name v f args named
    | _ => return none
  | _, _ => return none

/-- What texts call the owner of a method that is reached through a value: the value itself if it is
a class, or else its class. -/
def shownOwner (v : Value) : Act String := do
  match v with
  | .cls c => read (·.qualifiedName c)
  | v => typeName v

/-- Refuses a method for a value of another class. -/
def failOwner {α : Type} (owner : Known) (n : Nature) (name : String) (v : Value) : Act α := do
  let other ← typeName v
  if n == .operation then
    fail .typeError ("descriptor '" ++ name ++ "' requires a '" ++ owner.name ++
      "' object but received a '" ++ other ++ "'")
  else
    fail .typeError ("descriptor '" ++ name ++ "' for '" ++ owner.name ++
      "' objects doesn't apply to a '" ++ other ++ "' object")

/-- Whether a function of an initial class takes a value as its object. The functions of
enumerations take the members of all of them, and fail at what they miss in other values. -/
def takesFor (owner : Known) (name : String) (v : Value) : Act Bool := do
  match owner, v with
  | .enumeration _, .member _ => return true
  | .enumeration _, v =>
    match name with
    | "__format__" => return true
    | "__repr__" =>
      fail .attributeError ("type object '" ++ (← typeName v) ++
        "' has no attribute '_value_repr_'")
    | "__reduce_ex__" => failAttribute v "_value_"
    | _ => failAttribute v "_name_"
  | _, v => read fun m => m.isSubclass (m.classOf v) (.known owner)

/-- Calls a method of an initial class with an object; `bound` says it was reached through it. -/
def callOnObject (bound : Bool) (call : Caller) (owner : Known) (n : Nature) (name : String)
    (args : List Value) (named : Fields) : Act Value := do
  match args with
  | [] =>
    if n == .operation then
      fail .typeError ("descriptor '" ++ name ++ "' of '" ++ owner.name ++
        "' object needs an argument")
    else
      fail .typeError ("unbound method " ++ owner.name ++ "." ++ name ++
        "() needs an argument")
  | v :: args =>
    if ← read fun m => m.isSubclass (m.classOf v) (.known owner) then
      if n == .operation then
        Operation.run call owner (((name.drop 2).dropEnd 2).toString) v args named
      else
        let own ← shownOwner v
        let how : Invocation := ⟨if bound then own else owner.name, bound⟩
        match ← naturalMethod? how call owner name v args named with
        | some result => result
        | none => return .null
    else failOwner owner n name v

/-- Calls a method of an initial class itself; the first argument is the class. -/
def callOnClass (call : Caller) (owner : Known) (name : String) (args : List Value)
    (named : Fields) : Act Value := do
  let cls := args.headD .null
  let args := args.drop 1
  match owner, name with
  | .dict, "fromkeys" => DictMethod.fromKeys call args named
  | .bytes, "fromhex" => BytesMethod.fromHex args named
  | .float, "fromhex" => NumberMethod.fromHexadecimal args named
  | .int, "from_bytes" => NumberMethod.fromBytes call cls args named
  | .snapshot, name => ModelMethod.runOnClass name args named
  | _, "__class_getitem__" => item call cls (args.headD .null)
  | _, "__subclasshook__" => return .notImplemented
  | _, "__init_subclass__" => do
    noArguments ((← shownOwner cls) ++ "." ++ name) args named
    return .null
  | _, _ => return .null

/-- Calls a function that an initial class has by nature; `bound` says that it was reached through
an object. Making a new object is not among these functions. -/
def callNatural (bound : Bool) (call : Caller) (owner : Known) (name : String) (args : List Value)
    (named : Fields) : Act Value := do
  match owner.nature? name with
  | some .method =>
    if owner == .snapshot || owner == .config then
      let a ← ModelMethod.arguments owner name args named
      let v := a.value 0
      if ← read fun m => m.isSubclass (m.classOf v) (.known owner) then
        ModelMethod.run call name v (fun i => a.value (i + 1)) a.others
      else failOwner owner .method name v
    else match functionSignature? owner name with
    | none => callOnObject bound call owner .method name args named
    | some signature =>
      let a ← matched signature args named
      let v := a.value 0
      if ← takesFor owner name v then runFunction call owner name v fun i => a.value (i + 1)
      else failOwner owner .method name v
  | some .ofClass => callOnClass call owner name args named
  | some .static =>
    match owner with
    | .str => TextMethod.newTable call args named
    | .bytes => BytesMethod.tableOf args named
    | _ => return .null
  | some n => callOnObject bound call owner n name args named
  | none => return .null

end Covenant.Act
