import Covenant.Format.Document
import Covenant.Object.Arguments
import Covenant.Object.Assignment
import Covenant.Signature
import Covenant.Snapshot
import Covenant.Text.Codec

/-!
The methods of models: of snapshots and of settings.

A model is dumped as a dictionary of its fields, in which models and frozen records are dictionaries
in turn, or as a document. Nothing that stands inside of itself can be dumped.
-/

namespace Covenant.Act.ModelMethod

/-! ## Signatures -/

/-- What a method of models takes besides the model: parameters, and further names. -/
structure Parameters where
  placed : List Parameter
  named : List String

/-- The names that say what a dump holds. -/
def dumpNames : List String :=
  ["include", "exclude", "by_alias", "exclude_unset", "exclude_defaults", "exclude_none"]

/-- The further names that say how a dump is made. -/
def dumpSettings : List String :=
  ["context", "round_trip", "warnings", "fallback", "serialize_as_any", "exclude_computed_fields"]

/-- What a method of models takes. -/
def parameters : (name : String) → Parameters
  | "model_dump" => ⟨[], "mode" :: dumpNames ++ dumpSettings⟩
  | "dict" => ⟨[], dumpNames⟩
  | "model_dump_json" => ⟨[], "indent" :: "ensure_ascii" :: dumpNames ++ dumpSettings⟩
  | "json" => ⟨[], "encoder" :: "models_as_dict" :: dumpNames⟩
  | "model_copy" => ⟨[], ["update", "deep"]⟩
  | "copy" => ⟨[], ["include", "exclude", "update", "deep"]⟩
  | "model_post_init" => ⟨[.placed "context"], []⟩
  | "__deepcopy__" => ⟨[.omissible "memo"], []⟩
  | "__eq__" => ⟨[.needed "other"], []⟩
  | "__getattr__" | "__delattr__" => ⟨[.needed "item"], []⟩
  | "__setattr__" | "_setattr_handler" => ⟨[.needed "name", .needed "value"], []⟩
  | "__setstate__" => ⟨[.needed "state"], []⟩
  | "__repr_str__" => ⟨[.needed "join_str"], []⟩
  | "__repr_recursion__" => ⟨[.needed "object"], []⟩
  | _ => ⟨[], []⟩

/-- Matches the arguments of a method of models: what was placed, the model first, and what was
named. -/
def arguments (owner : Known) (name : String) (args : List Value) (named : Fields) :
    Act Arguments := do
  let s := parameters name
  let known := s.named ++ s.placed.map (·.name)
  let title := qualifiedRoutineName (.method owner name)
  match named.find? fun p => !known.contains p.1 with
  | some (x, _) =>
    fail .typeError (title ++ "() got an unexpected keyword argument '" ++ x ++ "'")
  | none =>
    matched ⟨title, .needed "self" :: s.placed, false, true⟩ args named

/-! ## Dumps -/

/-- Raises the fault of a value that stands inside of itself. -/
def failCircular {α : Type} : Act α :=
  fail .valueError "Circular reference detected (id repeated)"

/-- The fields of a model or a frozen record, whatever else its class may give it. -/
def dataFields? (v : Value) : Act (Option Fields) := do
  match v with
  | .config _ | .contracts _ => return some (← ownFields v)
  | .ref r =>
    match ← load r with
    | .snapshot fields => return some fields
    | .object c fields => return (← read (·.recordNames? c)).map fields.among
    | _ => return none
  | _ => return none

/-- A value with the models and records inside of it as dictionaries; `above` holds what the value
stands in, and `depth` bounds how deep values are nested. -/
def dumped : (depth : Nat) → (above : List Ref) → Value → Act Value
  | 0, _, _ => failCircular
  | depth + 1, above, v => do
    match v with
    | .ref r =>
      if above.contains r then failCircular
      else
        let inner := dumped depth (r :: above)
        match ← load r with
        | .list items => allocValue (.list (← items.mapM inner))
        | .tuple items => allocValue (.tuple (← items.mapM inner))
        | .dict entries =>
          allocValue (.dict (← entries.mapM fun (k, x) => do return (← inner k, ← inner x)))
        | _ => fieldsDumped inner v
    | v => fieldsDumped (dumped depth above) v
where
  /-- A model or a record as a dictionary; any other value is left alone. -/
  fieldsDumped (inner : Value → Act Value) (v : Value) : Act Value := do
    match ← dataFields? v with
    | none => return v
    | some fields => newFieldDict (← fields.mapM fun (name, x) => do return (name, ← inner x))

/-- A key of a dictionary in a document. -/
def keyText (v : Value) : Act String := do
  match v with
  | .null => return "None"
  | .bool b => return if b then "true" else "false"
  | .int n => return toString n
  | .float x _ => return String.ofList (Document.number x)
  | .text s => return s
  | .member m => return m.text
  | v =>
    fail .serializationError
      ("Unable to serialize unknown type: " ++ classText (← read id) (← classOf v))

/-- Bytes in a document: they have to be a text. -/
def bytesDocument (b : List UInt8) : Act Document := do
  let p := Text.Codec.read .utf8 0 b
  match p.trouble with
  | none => return .text (String.ofList p.read)
  | some t =>
    fail .serializationError ("invalid utf-8 sequence of " ++ toString (t.stop - t.start) ++
      " bytes from index " ++ toString t.start)

/-- A value as a document; `above` holds what the value stands in, and `depth` bounds how deep
values are nested. -/
def documentWithin : (depth : Nat) → (above : List Ref) → Value → Act Document
  | 0, _, _ => failCircular
  | depth + 1, above, v => do
    match v with
    | .null => return .null
    | .bool b => return .bool b
    | .int n => return .int n
    | .float x _ => return .float x
    | .text s => return .text s
    | .bytes b => bytesDocument b
    | .member m => return .text m.text
    | .ref r =>
      if above.contains r then failCircular
      else
        let inner := documentWithin depth (r :: above)
        match ← load r with
        | .list items | .tuple items => return .list (← items.mapM inner)
        | .dict entries =>
          return .object (← entries.mapM fun (k, x) => do return (← keyText k, ← inner x))
        | _ => fieldsDocument inner v
    | v => fieldsDocument (documentWithin depth above) v
where
  /-- A model or a record as a document; nothing else can be one. -/
  fieldsDocument (inner : Value → Act Document) (v : Value) : Act Document := do
    match ← dataFields? v with
    | some fields => return .object (← fields.mapM fun (name, x) => do return (name, ← inner x))
    | none =>
      fail .serializationError
        ("Unable to serialize unknown type: " ++ classText (← read id) (← classOf v))

mutual

/-- The value that a document stands for. -/
def ofDocument : Document → Act Value
  | .null => return .null
  | .bool b => return .bool b
  | .int n => return .int n
  | .float x => newFloat x
  | .text s => return .text s
  | .list items => do allocValue (.list (← ofDocuments items))
  | .object parts => do newFieldDict (Fields.ofList (← ofParts parts))

/-- The values that documents stand for. -/
def ofDocuments : List Document → Act (List Value)
  | [] => return []
  | x :: rest => do
    let v ← ofDocument x
    return v :: (← ofDocuments rest)

/-- The values that named documents stand for. -/
def ofParts : List (String × Document) → Act Fields
  | [] => return []
  | (name, x) :: rest => do
    let v ← ofDocument x
    return (name, v) :: (← ofParts rest)

end

/-! ## What a dump holds -/

/-- Whether a value names a field, and what it says of it if it is a dictionary. -/
def mention? (call : Caller) (argument : String) (v : Value) (name : String) :
    Act (Option Value) := do
  let refuse : Act (Option Value) :=
    fail .typeError ("\u0060" ++ argument ++ "\u0060 argument must be a set or dict.")
  match v with
  | .ref r =>
    match ← load r with
    | .dict entries => lookupKey? call entries (.text name)
    | .list items | .tuple items =>
      return if items.any fun x => x.text? == some name then some (.bool true) else none
    | _ => refuse
  | _ => refuse

/-- The fields of a model that a dump holds. -/
def chosenFields (call : Caller) (named : Fields) (fields : Fields) : Act Fields := do
  let argument (x : String) : Value := (named.get? x).getD .null
  let noneLeftOut ← truth call (argument "exclude_none")
  let chosen ← fields.mapM fun (name, v) => do
    let kept ← match argument "include" with
      | .null => pure true
      | w => do pure (← mention? call "include" w name).isSome
    let dropped ← match argument "exclude" with
      | .null => pure false
      | w => do
        match ← mention? call "exclude" w name with
        | some (.bool true) => pure true
        | _ => pure false
    let empty := match v with
      | .null => noneLeftOut
      | _ => false
    return if kept && !dropped && !empty then some (name, v) else none
  return chosen.filterMap id

/-- How deep the values of a machine can be nested. -/
def deepest (m : Machine) : Nat :=
  m.heap.size + 3

/-- The chosen fields of a model as a document. -/
def document (fields : Fields) : Act Document := do
  let depth ← read deepest
  return .object (← fields.mapM fun (name, x) => do return (name, ← documentWithin depth [] x))

/-- The fields of a model as a new dictionary. -/
def dump (call : Caller) (v : Value) (named : Fields) : Act Value := do
  let fields ← chosenFields call named (← ownFields v)
  if ((named.get? "mode").bind Value.text?) == some "json" then
    ofDocument (← document fields)
  else
    let depth ← read deepest
    let above := match v with
      | .ref r => [r]
      | _ => []
    newFieldDict (← fields.mapM fun (name, x) => do return (name, ← dumped depth above x))

/-- The fields of a model as the text of a document. -/
def dumpText (call : Caller) (v : Value) (named : Fields) : Act Value := do
  let fields ← chosenFields call named (← ownFields v)
  let indent := (named.get? "indent").bind Value.int?
  return .text ((← document fields).toText (indent.map Int.toNat))

/-! ## Copies -/

/-- A value with copies of what it holds. -/
def deepCopied : (depth : Nat) → Value → Act Value
  | 0, v => return v
  | depth + 1, v => do
    let inner := deepCopied depth
    let fieldsOf (fields : Fields) : Act Fields :=
      fields.mapM fun (name, x) => do return (name, ← inner x)
    match v with
    | .ref r =>
      match ← load r with
      | .list items => do allocValue (.list (← items.mapM inner))
      | .tuple items => do allocValue (.tuple (← items.mapM inner))
      | .dict entries => do
        allocValue (.dict (← entries.mapM fun (k, x) => do return (← inner k, ← inner x)))
      | .snapshot fields => do allocValue (.snapshot (← fieldsOf fields))
      | .object c fields => do allocValue (.object c (← fieldsOf fields))
      | _ => return v
    | v => return v

/-- The entries that a copy is given anew. -/
def updates (v : Value) : Act Fields := do
  match v with
  | .ref r =>
    match ← load r with
    | .dict entries => return namedEntries entries
    | _ => failAttribute v "items"
  | .null => return []
  | v => failAttribute v "items"

/-- A copy of a model with some fields given anew. -/
def copied (call : Caller) (v : Value) (deep : Bool) (named : Fields) : Act Value := do
  let fields ← chosenFields call (named.filter fun p => p.1 != "exclude_none") (← ownFields v)
  let depth ← read deepest
  let fields ← if deep then
      fields.mapM fun (name, x) => do return (name, ← deepCopied depth x)
    else pure fields
  let changed ← updates ((named.get? "update").getD .null)
  let fields := changed.foldl (fun (all : Fields) p => all.set p.1 p.2) fields
  match v with
  | .config i => do
    let settings ← read fun m => m.configs[i]?
    match settings with
    | none => return v
    | some settings => fun m =>
      let w := Value.config m.configs.size
      (.done w, { m with configs := m.configs.push settings }.attach w fields)
  | _ => allocValue (.snapshot fields)

/-! ## Methods -/

/-- What a method of models gives. -/
def run (call : Caller) (name : String) (v : Value) (given : Nat → Value) (named : Fields) :
    Act Value := do
  let deep : Act Bool := truth call ((named.get? "deep").getD .null)
  match name with
  | "model_dump" | "dict" => dump call v named
  | "model_dump_json" | "json" => dumpText call v named
  | "model_copy" | "copy" => do copied call v (← deep) named
  | "__copy__" | "__replace__" => copied call v false []
  | "__deepcopy__" => copied call v true []
  | "__repr__" => return .text (← quotedByNature (quotedText call) v)
  | "__str__" => return .text (← plainText call v)
  | "__hash__" => return .int 0
  | "__repr_name__" => return .text (← typeName v)
  | "__repr_str__" => do
    let separator ← textArgument "separator" (given 0)
    let parts ← quotedFields (quotedText call) (← ownFields v)
    return .text (separator.intercalate parts)
  | "__eq__" =>
    return (← compareByNature call (compare call) .eq v (given 0)).getD .notImplemented
  | "__iter__" | "__repr_args__" | "__rich_repr__" | "_iter" => newIterator call v
  | "__getattr__" => do
    match (given 0).text? with
    | none => fail .typeError "attribute name must be string"
    | some x =>
      match (← ownFields v).get? x with
      | some found => return found
      | none => failAttribute v x
  | "__setattr__" => do
    match (given 0).text? with
    | none => fail .typeError "attribute name must be string"
    | some x => do
      changeByKind call v x (some (given 1))
      return .null
  | "__delattr__" => do
    match (given 0).text? with
    | none => fail .typeError "attribute name must be string"
    | some x => do
      changeByKind call v x none
      return .null
  | "__getstate__" => do
    let fields ← newFieldDict (← ownFields v)
    let empty ← newFieldDict []
    let (own, extra) := match v with
      | .config _ => (fields, Value.null)
      | _ => (empty, fields)
    newFieldDict [(special "dict", own), (special "pydantic_extra", extra),
      (special "pydantic_fields_set", ← newAuxiliary "set"),
      (special "pydantic_private", .null)]
  | _ => return .null

/-- What a method of the class of snapshots gives. -/
def runOnClass (name : String) (args : List Value) (named : Fields) : Act Value := do
  match name with
  | "model_construct" | "construct" =>
    allocValue (.snapshot (named.filter fun p => p.1 != "_fields_set"))
  | "parse_obj" | "validate" => validateSnapshot (args.headD .null)
  | _ => return .null

end Covenant.Act.ModelMethod
