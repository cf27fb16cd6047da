import Covenant.Machine
import Covenant.Nature

/-!
Classes: their names, the order in which their attributes are looked up, and their attributes.

The initial classes form a fixed tree; their attributes can be patched by a script. A class made
by a script extends at most one other class.
-/

namespace Covenant

/-- The name of an initial class of faults. -/
def FaultClass.name : FaultClass → String
  | .baseException => "BaseException"
  | .exception => "Exception"
  | .keyboardInterrupt => "KeyboardInterrupt"
  | .systemExit => "SystemExit"
  | .generatorExit => "GeneratorExit"
  | .stopIteration => "StopIteration"
  | .arithmeticError => "ArithmeticError"
  | .overflowError => "OverflowError"
  | .zeroDivisionError => "ZeroDivisionError"
  | .lookupError => "LookupError"
  | .keyError => "KeyError"
  | .indexError => "IndexError"
  | .valueError => "ValueError"
  | .validationError => "ValidationError"
  | .serializationError => "PydanticSerializationError"
  | .unicodeError => "UnicodeError"
  | .unicodeDecodeError => "UnicodeDecodeError"
  | .unicodeEncodeError => "UnicodeEncodeError"
  | .typeError => "TypeError"
  | .attributeError => "AttributeError"
  | .frozenInstanceError => "FrozenInstanceError"
  | .nameError => "NameError"
  | .runtimeError => "RuntimeError"
  | .recursionError => "RecursionError"
  | .memoryError => "MemoryError"
  | .assertionError => "AssertionError"
  | .violation => "ContractViolationError"
  | .preconditionError => "PreconditionError"
  | .postconditionError => "PostconditionError"
  | .invariantError => "InvariantError"
  | .customViolation => "CustomViolation"
  | .dailyLimitExceeded => "DailyLimitExceeded"
  | .rejected => "Rejected"
  | .rejectedSub => "RejectedSub"

/-- The class that a class of faults extends; `none` for the root of all faults. -/
def FaultClass.parent : FaultClass → Option FaultClass
  | .baseException => none
  | .exception | .keyboardInterrupt | .systemExit | .generatorExit => some .baseException
  | .overflowError | .zeroDivisionError => some .arithmeticError
  | .keyError | .indexError => some .lookupError
  | .validationError | .serializationError | .unicodeError => some .valueError
  | .unicodeDecodeError | .unicodeEncodeError => some .unicodeError
  | .recursionError => some .runtimeError
  | .frozenInstanceError => some .attributeError
  | .violation => some .assertionError
  | .preconditionError | .postconditionError | .invariantError | .customViolation =>
    some .violation
  | .rejectedSub => some .rejected
  | .stopIteration | .arithmeticError | .lookupError | .valueError | .typeError
  | .attributeError | .nameError | .runtimeError | .memoryError | .assertionError
  | .dailyLimitExceeded | .rejected => some .exception

/-- The class and the classes above it, `steps` of them at most. -/
def FaultClass.upward : (steps : Nat) → FaultClass → List FaultClass
  | 0, f => [f]
  | steps + 1, f => f :: (f.parent.map (upward steps)).getD []

/-- The class and all classes above it. No class of faults has more than four others above it. -/
def FaultClass.lineage (f : FaultClass) : List FaultClass :=
  f.upward 5

/-- Whether a class of faults is another one or stands below it. -/
def FaultClass.isA (f g : FaultClass) : Bool :=
  f.lineage.contains g

/-- The module that a class of faults belongs to; empty for the built-in one. -/
def FaultClass.home : FaultClass → String
  | .violation | .preconditionError | .postconditionError | .invariantError => "dbcore.errors"
  | .dailyLimitExceeded => "dbcore.demo.bank"
  | .frozenInstanceError => "dataclasses"
  | .validationError | .serializationError => "pydantic_core._pydantic_core"
  | .customViolation | .rejected | .rejectedSub => "__main__"
  | _ => ""

/-- The name of an initial class. -/
def Known.name : Known → String
  | .object => "object"
  | .type => "type"
  | .enumerationType => "EnumType"
  | .modelType => "ModelMetaclass"
  | .protocolType => "_ProtocolMeta"
  | .noneType => "NoneType"
  | .bool => "bool"
  | .int => "int"
  | .float => "float"
  | .str => "str"
  | .bytes => "bytes"
  | .list => "list"
  | .tuple => "tuple"
  | .dict => "dict"
  | .function => "function"
  | .builtinFunction => "builtin_function_or_method"
  | .method => "method"
  | .staticMethod => "staticmethod"
  | .property => "property"
  | .probe => "Spy"
  | .programObject => "ProgramObject"
  | .auxiliary name => name
  | .enumeration e => e.title
  | .snapshot => "OldState"
  | .config => "DbcConfig"
  | .contractSet => "ContractSet"
  | .positive => "Positive"
  | .inRange => "InRange"
  | .longerThan => "LongerThan"
  | .validator => "Validator"
  | .hasInvariant => "HasInvariant"
  | .account => "BankAccount"
  | .queue => "BoundedQueue"
  | .fault f => f.name

/-- The module that an initial class belongs to; empty for the built-in one. -/
def Known.home : Known → String
  | .enumerationType => "enum"
  | .modelType => "pydantic._internal._model_construction"
  | .protocolType => "typing"
  | .probe | .programObject => "__main__"
  | .enumeration _ => "dbcore.types"
  | .snapshot => "dbcore.state"
  | .config => "dbcore.config"
  | .contractSet => "dbcore.profile"
  | .positive | .inRange | .longerThan | .validator => "dbcore.validators"
  | .hasInvariant => "dbcore.invariant"
  | .account => "dbcore.demo.bank"
  | .queue => "dbcore.demo.queue"
  | .fault f => f.home
  | _ => ""

/-- The full name of an initial class. -/
def Known.fullName (k : Known) : String :=
  if k.home.isEmpty then k.name else k.home ++ "." ++ k.name

/-- The classes above an initial class, nearest first, the root of all classes left out. -/
def Known.above : Known → List Known
  | .bool => [.int]
  | .enumeration _ => [.str]
  | .enumerationType | .modelType | .protocolType => [.type]
  | .fault f => (f.lineage.drop 1).map .fault
  | _ => []

/-- Whether the attributes of an initial class can never change. -/
def Known.isSealed : Known → Bool
  | .object | .type | .noneType | .bool | .int | .float | .str | .bytes | .list | .tuple | .dict
  | .function | .builtinFunction | .method | .staticMethod | .property | .auxiliary _ => true
  | .fault f =>
    match f with
    | .violation | .preconditionError | .postconditionError | .invariantError | .customViolation
    | .dailyLimitExceeded | .rejected | .rejectedSub | .frozenInstanceError => false
    | _ => true
  | _ => false

/-- The kind that violations of a class report. -/
def FaultClass.kind? : FaultClass → Option Kind
  | .violation | .preconditionError | .customViolation => some .precondition
  | .postconditionError => some .postcondition
  | .invariantError => some .invariant
  | _ => none

/-- The attributes that an initial class defines itself and that scripts can reach. -/
def Known.fields : Known → Fields
  | .enumeration e => e.members.map fun m => (m.name, .member m)
  | .fault f =>
    let kind : Fields := (f.kind?.map fun k => ("kind", .member (.kind k))).toList
    match f with
    | .violation => kind ++ [("__init__", .routine .violationStart)]
    | .preconditionError | .postconditionError => kind
    | .invariantError => kind ++ [("__init__", .routine .invariantErrorStart)]
    | .dailyLimitExceeded => [("__init__", .routine .limitErrorStart)]
    | _ => []
  | .snapshot => [("as_dict", .routine .asDict), ("model_validate", .routine .validateSnapshot)]
  | .list | .dict | .config => [("__hash__", .null)]
  | .positive => [("run", .routine .positiveRun)]
  | .inRange => [("run", .routine .inRangeRun)]
  | .longerThan => [("run", .routine .longerThanRun)]
  | .validator => [("run", .routine .validatorRun)]
  | .hasInvariant => [("invariant", .routine .structuralInvariant)]
  | .account =>
    [("__init__", .routine .accountStart), ("__repr__", .routine .accountText),
      ("invariant", .routine .accountInvariant), ("deposit", .routine .accountDeposit),
      ("withdraw", .routine .accountWithdraw), ("transfer", .routine .accountTransfer),
      ("close", .routine .accountClose), ("deposit_batch", .routine .accountDepositBatch)]
  | .queue =>
    [("__init__", .routine .queueStart), ("invariant", .routine .queueInvariant),
      ("__len__", .routine .queueLength), ("enqueue", .routine .queueEnqueue),
      ("dequeue", .routine .queueDequeue)]
  | _ => []

/-- What a class has under a name. -/
inductive ClassEntry where
  | set (v : Value)
  /-- An attribute that an initial class has by nature. -/
  | natural (owner : Known) (n : Nature)
  deriving Repr

namespace Machine

/-- What is known of a class made by a script. -/
def classInfo? (m : Machine) : ClassRef → Option ClassInfo
  | .known _ => none
  | .made n => m.classes[n]?

/-- The name of a class. -/
def className (m : Machine) (c : ClassRef) : String :=
  match c with
  | .known k => k.name
  | .made _ => ((m.classInfo? c).map (·.name)).getD ""

/-- The qualified name of a class. -/
def qualifiedName (m : Machine) (c : ClassRef) : String :=
  match c with
  | .known k => k.name
  | .made _ => ((m.classInfo? c).map (·.qualified)).getD ""

/-- The attributes that a class defines itself. -/
def classFields (m : Machine) : ClassRef → Fields
  | .known k => ((m.patches.find? (·.1 == k)).map (·.2)).getD k.fields
  | .made n => ((m.classes[n]?).map (·.fields)).getD []

/-- The same machine with other attributes of a class. -/
def setClassFields (m : Machine) (c : ClassRef) (fields : Fields) : Machine :=
  match c with
  | .known k => { m with patches := (k, fields) :: m.patches.filter (·.1 != k) }
  | .made n =>
    match m.classes[n]? with
    | none => m
    | some info => { m with classes := m.classes.setIfInBounds n { info with fields } }

/-- The class and the classes above it, nearest first. A class made by a script extends one made
before it, so as many steps as there are classes suffice. -/
def ancestry (m : Machine) : (steps : Nat) → ClassRef → List ClassRef
  | _, .known k => .known k :: k.above.map .known
  | 0, c => [c]
  | steps + 1, c =>
    c :: (((m.classInfo? c).bind (·.base)).map (ancestry m steps)).getD
      [.known .programObject]

/-- The class and all classes above it, nearest first. -/
def lineage (m : Machine) (c : ClassRef) : List ClassRef :=
  m.ancestry m.classes.size c

/-- Whether a class is another one or stands below it. All classes stand below the root. -/
def isSubclass (m : Machine) (c d : ClassRef) : Bool :=
  d == .known .object || (m.lineage c).contains d

/-- The attribute that a class has, its own or an inherited one. -/
def classAttribute? (m : Machine) (c : ClassRef) (name : String) : Option Value :=
  (m.lineage c).findSome? fun d => (m.classFields d).get? name

/-- The nearest initial class of faults of a class, for the class of a fault. -/
def faultClass (m : Machine) (c : ClassRef) : FaultClass :=
  ((m.lineage c).findSome? fun d =>
    match d with
    | .known (.fault f) => some f
    | _ => none).getD .baseException

/-- The class of a class. -/
def metaclass (m : Machine) (c : ClassRef) : Known :=
  ((m.lineage c).findSome? fun d =>
    match d with
    | .known (.enumeration _) => some Known.enumerationType
    | .known .snapshot | .known .config => some .modelType
    | .known .validator | .known .hasInvariant => some .protocolType
    | _ => none).getD .type

/-- Whether a function that exists from the start is one of the built-in ones. -/
def isBuiltinRoutine : Routine → Bool
  | .length | .absolute | .all | .any | .sum | .quoted | .isInstance | .callable => true
  | .method k name => k.nature? name == some .ofClass || k.nature? name == some .static
  | _ => false

/-- Whether a function that exists from the start is bound to an object when it is reached through
it. -/
def bindsRoutine (r : Routine) : Bool :=
  !isBuiltinRoutine r && r != .validateSnapshot

/-- The class of a function that exists from the start. -/
def routineClass (r : Routine) : Known :=
  match r with
  | .method k _ =>
    if isBuiltinRoutine r then .builtinFunction
    else if k.hasFunctions then .function
    else .auxiliary (if r.isOperation then "wrapper_descriptor" else "method_descriptor")
  | r => if isBuiltinRoutine r then .builtinFunction else .function

/-- The class of a function with its first argument given. -/
def boundClass (function : Value) : Known :=
  match function with
  | .routine (.method k name) =>
    if k.hasFunctions then .method
    else if k.nature? name == some .operation then .auxiliary "method-wrapper"
    else .builtinFunction
  | _ => .method

/-- The class of what a cell holds. -/
def cellClass : Cell → ClassRef
  | .list _ => .known .list
  | .tuple _ => .known .tuple
  | .dict _ => .known .dict
  | .object c _ => c
  | .fault f => f.cls
  | .snapshot _ => .known .snapshot
  | .probe _ => .known .probe
  | .scope _ _ => .known .dict
  | .closure .. | .decorator .. | .contracted .. => .known .function
  | .bound _ f => .known (boundClass f)
  | .static _ => .known .staticMethod
  | .ofClass _ => .known (.auxiliary "classmethod")
  | .property _ => .known .property
  | .view .keys _ => .known (.auxiliary "dict_keys")
  | .view .values _ => .known (.auxiliary "dict_values")
  | .view .items _ => .known (.auxiliary "dict_items")
  | .iterator name _ => .known (.auxiliary name)
  | .alias .. => .known (.auxiliary "GenericAlias")

/-- The class of a value. -/
def classOf (m : Machine) : Value → ClassRef
  | .null => .known .noneType
  | .bool _ => .known .bool
  | .int _ => .known .int
  | .float .. => .known .float
  | .text _ => .known .str
  | .bytes _ => .known .bytes
  | .member x => .known (.enumeration x.enumeration)
  | .cls c => .known (m.metaclass c)
  | .routine r => .known (routineClass r)
  | .contracts _ => .known .contractSet
  | .config _ => .known .config
  | .notImplemented => .known (.auxiliary "NotImplementedType")
  | .ref r => cellClass (m.cell r)

/-- The name of the class of a value. -/
def typeName (m : Machine) (v : Value) : String :=
  m.className (m.classOf v)

/-- What a class itself has under a name: an attribute that is set, or else one by nature. -/
def ownEntryOf? (m : Machine) (name : String) (c : ClassRef) : Option ClassEntry :=
  match (m.classFields c).get? name, c with
  | some v, _ => some (.set v)
  | none, .known k => (k.nature? name).map (.natural k)
  | none, .made _ => none

/-- What a class has under a name: its own entry, or the one of the nearest class above it. -/
def entryOf? (m : Machine) (c : ClassRef) (name : String) : Option ClassEntry :=
  (m.lineage c ++ [ClassRef.known .object]).findSome? (m.ownEntryOf? name)

/-- The attributes that scripts have given to a value without fields of its own. -/
def attachedTo (m : Machine) (v : Value) : Fields :=
  ((m.attached.find? (v.same ·.1)).map (·.2)).getD []

/-- The same machine with other attributes of a value without fields of its own. -/
def attach (m : Machine) (v : Value) (fields : Fields) : Machine :=
  { m with attached := (v, fields) :: m.attached.filter fun p => !v.same p.1 }

end Machine

namespace Act

/-- The class of a value. -/
def classOf (v : Value) : Act ClassRef :=
  read (·.classOf v)

/-- The name of the class of a value. -/
def typeName (v : Value) : Act String :=
  read (·.typeName v)

/-- The nearest initial class of faults of the fault at an address. -/
def faultClassOf (e : Ref) : Act FaultClass := do
  let f ← loadFault e
  read (·.faultClass f.cls)

end Act

end Covenant
