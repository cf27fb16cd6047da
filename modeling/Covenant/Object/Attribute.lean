import Covenant.Object.Part

/-!
Attributes: reading them.

An attribute is looked for in the object first and then in its class and the classes above; a
function found in a class is bound to the object it was reached through. An attribute of a class
that is worked out for each object comes before the object's own. A class can have a special method
that takes the look-up over, and one that is asked for what is missing. A fault about a missing
attribute notes what was asked for.
-/

namespace Covenant.Act

/-! ## What is missing -/

/-- Raises the fault for an attribute that is not there. -/
def failAttribute {α : Type} (v : Value) (name : String) : Act α := do
  match v with
  | .cls (.known (.enumeration _)) =>
    let earlier ← newFault .keyError [.text name]
    let e ← newFault .attributeError [.text name]
    whileHandling earlier (raiseFrom e none)
  | .cls (.known .snapshot) | .cls (.known .config) => fail .attributeError name
  | .cls c =>
    fail .attributeError
      ("type object '" ++ (← read (·.className c)) ++ "' has no attribute '" ++ name ++ "'")
  | v =>
    fail .attributeError ("'" ++ (← typeName v) ++ "' object has no attribute '" ++ name ++ "'")

/-- Notes in a fault about a missing attribute what was asked for it, unless that has been noted. -/
def noteAttribute (v : Value) (name : String) (e : Ref) : Act Unit := do
  let f ← loadFault e
  match f.slot "name", f.slot "obj" with
  | .null, .null =>
    store e (.fault { f with slots := (f.slots.set "name" (.text name)).set "obj" v })
  | _, _ => pure ()

/-! ## Reading -/

/-- What an attribute that a class has by nature gives when it is reached through an object. -/
def naturalThroughObject (self : Value) (owner : Known) (n : Nature) (name : String) :
    Act Value := do
  let function := Value.routine (.method owner name)
  match n with
  | .operation | .method => allocValue (.bound self function)
  | .ofClass => do allocValue (.bound (.cls (← classOf self)) function)
  | .static => return function
  | .computed =>
    match ← computedPart? self owner name with
    | some x => return x
    | none => failAttribute self name

/-- What an attribute that a class has by nature gives when it is reached through the class. -/
def naturalThroughClass (c : ClassRef) (owner : Known) (n : Nature) (name : String) :
    Act Value := do
  let function := Value.routine (.method owner name)
  match n with
  | .operation | .method | .static => return function
  | .ofClass => allocValue (.bound (.cls c) function)
  | .computed =>
    match owner with
    | .enumeration _ => failAttribute (.cls c) name
    | .snapshot | .config =>
      match ← modelClassPart? (.cls c) name with
      | some x => return x
      | none =>
        if name == special "signature" then newAuxiliary "Signature" else newAuxiliary "property"
    | _ => newAuxiliary "getset_descriptor"

/-- An attribute that every class has, as it is reached through an object. -/
def commonPart (v : Value) (name : String) : Act Value := do
  let c ← classOf v
  if name == special "doc" then return .null
  else if name == special "module" && moduleName c != "builtins" then
    return .text (moduleName c)
  else
    match ← heldAmong? name (← read (·.lineage c)) with
    | some x => return x
    | none => failAttribute v name

/-- The attribute of a value that is no class, by the usual rules. -/
def lookUpInObject (call : Caller) (v : Value) (name : String) : Act Value := do
  let c ← classOf v
  match ← read (·.entryOf? c name) with
  | some (.set found) =>
    let first := c == .known .snapshot || (← isProperty found)
    let own? ← if first then pure none else ownField? v name
    match own? with
    | some own => return own
    | none => throughObject call v found
  | some (.natural owner n) =>
    let own? ← if n == .computed then pure none else ownField? v name
    match own? with
    | some own => return own
    | none => naturalThroughObject v owner n name
  | none =>
    match ← ownField? v name with
    | some own => return own
    | none => commonPart v name

/-- The attribute of a class, by the usual rules: first what the class of the class works out, then
what the class has itself or from above, then what is left of the class of the class. -/
def lookUpInClass (call : Caller) (c : ClassRef) (name : String) : Act Value := do
  let v := Value.cls c
  let part ← if Known.type.nature? name == some .computed then classPart? c name else pure none
  match part with
  | some x => return x
  | none =>
    if name == special "class" then return .cls (← classOf v)
    else
      match ← read (·.entryOf? c name) with
      | some (.set found) => throughClass call c found
      | some (.natural owner n) => naturalThroughClass c owner n name
      | none =>
        match ← read fun m => m.entryOf? (.known (m.metaclass c)) name with
        | some (.natural owner .operation) => naturalThroughObject v owner .operation name
        | some (.natural owner .method) => naturalThroughObject v owner .method name
        | _ =>
          if name == special "doc" then return .null
          else
            match ← heldAmong? name (← read (·.lineage c)) with
            | some x => return x
            | none =>
              match ← membersPart? c name with
              | some x => return x
              | none => failAttribute v name

/-- The function behind one with its first argument given. -/
def functionBehind : (depth : Nat) → Value → Act Value
  | 0, v => return v
  | depth + 1, v => do
    match v with
    | .ref r =>
      match ← load r with
      | .bound _ f => functionBehind depth f
      | _ => return v
    | v => return v

/-- An attribute by the usual rules. A class with arguments in brackets has those of the class, and
a function with its first argument given has those of the function. -/
def lookUp (call : Caller) (v : Value) (name : String) : Act Value := do
  match v with
  | .cls c => lookUpInClass call c name
  | .ref r =>
    match ← load r with
    | .alias c _ =>
      let own := name == special "class" ||
        (Known.auxiliary "GenericAlias").nature? name == some .computed
      if own then lookUpInObject call v name else lookUpInClass call c name
    | .bound _ f =>
      let own := Machine.boundClass f != .method ||
        (← read (·.entryOf? (.known .method) name)).isSome
      if own then lookUpInObject call v name
      else
        match ← functionBehind wrapperDepth f with
        | .cls c => lookUpInClass call c name
        | f => lookUpInObject call f name
    | _ => lookUpInObject call v name
  | v => lookUpInObject call v name

/-- An attribute by the rule of the class, if it has one of its own, or by the usual rules. -/
def lookUpByClass (call : Caller) (v : Value) (name : String) : Act Value := do
  match ← special? v "getattribute" with
  | some found => callThrough call v found [.text name] []
  | none => lookUp call v name

/-- Reads an attribute. -/
def getAttribute (call : Caller) (v : Value) (name : String) : Act Value := do
  let noting (e : Ref) : Act Value := do
    if (← faultClassOf e).isA .attributeError then noteAttribute v name e
    rethrow e
  match ← attempt (lookUpByClass call v name) with
  | .ok x => return x
  | .error e =>
    let rescue ← if (← faultClassOf e).isA .attributeError then special? v "getattr"
      else pure none
    match rescue with
    | none => noting e
    | some found =>
      match ← attempt (callThrough call v found [.text name] []) with
      | .ok x => return x
      | .error e => noting e

/-- Reads an attribute; nothing if it is not there. Only the fault for a missing attribute is
caught. -/
def getAttribute? (call : Caller) (v : Value) (name : String) : Act (Option Value) := do
  match ← attempt (getAttribute call v name) with
  | .ok x => return some x
  | .error e =>
    if (← faultClassOf e).isA .attributeError then return none else rethrow e

/-- Whether calling a value can work at all. -/
def isCallable (v : Value) : Act Bool := do
  match v with
  | .cls _ | .routine _ => return true
  | .ref r =>
    match ← load r with
    | .closure .. | .bound .. | .decorator .. | .contracted .. | .static _ | .alias .. =>
      return true
    | _ => return (← special? v "call").isSome
  | v => return (← special? v "call").isSome

end Covenant.Act
