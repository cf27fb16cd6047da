import Covenant.Object.Attribute

/-!
Snapshots: the named values that a body is given of the state before it ran.

A snapshot holds its fields in the order in which they were given and never changes. A field whose
name is an attribute that every snapshot has anyway could not be read back, so such names are
refused, all of them together in one problem.
-/

namespace Covenant.Snapshot

/-- The ordinary names that every snapshot has as attributes. -/
def ordinaryNames : List String :=
  ["_abc_caches_clear", "_abc_impl", "_abc_registry_clear", "_calculate_keys",
    "_collect_bases_data", "_copy_and_set_values", "_dump_registry", "_get_value", "_iter",
    "_setattr_handler", "as_dict", "construct", "copy", "dict", "from_orm", "json",
    "model_computed_fields", "model_config", "model_construct", "model_copy", "model_dump",
    "model_dump_json", "model_extra", "model_fields", "model_fields_set", "model_json_schema",
    "model_parametrized_name", "model_post_init", "model_rebuild", "model_validate",
    "model_validate_json", "model_validate_strings", "mro", "parse_file", "parse_obj", "parse_raw",
    "register", "reject_shadowed_names", "schema", "schema_json", "update_forward_refs", "validate"]

/-- The names between double underscores that every object and every class has as attributes. -/
def generalNames : List String :=
  ["abstractmethods", "annotations", "base", "bases", "basicsize", "call", "class",
    "class_getitem", "class_vars", "copy", "deepcopy", "delattr", "dict", "dictoffset", "dir",
    "doc", "eq", "fields", "fields_set", "flags", "format", "ge", "get_pydantic_core_schema",
    "get_pydantic_json_schema", "getattr", "getattribute", "getstate", "gt", "hash", "init",
    "init_subclass", "instancecheck", "itemsize", "iter", "le", "lt", "module", "mro", "name",
    "ne", "new", "or", "prepare", "pretty", "private_attributes", "qualname", "reduce",
    "reduce_ex", "replace", "repr", "repr_args", "repr_name", "repr_recursion", "repr_str",
    "rich_repr", "ror", "setattr", "setstate", "signature", "sizeof", "slots", "str",
    "subclasscheck", "subclasses", "subclasshook", "text_signature", "weakref", "weakrefoffset"]

/-- The names between double underscores that belong to the validation of snapshots. -/
def validationNames : List String :=
  ["complete", "computed_fields", "core_schema", "custom_init", "decorators", "extra", "fields",
    "fields_set", "generic_metadata", "init_subclass", "on_complete", "parent_namespace",
    "post_init", "private", "root_model", "serializer", "setattr_handlers", "validator"]

/-- Whether every snapshot has an attribute of that name. -/
def isReserved (name : String) : Bool :=
  ordinaryNames.contains name || (generalNames.map special).contains name ||
    (validationNames.map fun n => special ("pydantic_" ++ n)).contains name

/-- Whether a field of that name could not be read back: the name is reserved, or it has been given
to the class of snapshots as an attribute. -/
def isShadowing (m : Machine) (name : String) : Bool :=
  isReserved name || (m.classAttribute? (.known .snapshot) name).isSome

/-- Those of the names that could not be read back, in ascending order. -/
def shadowing (m : Machine) (names : List String) : List String :=
  (names.filter (isShadowing m)).mergeSort fun a b => decide (a ≤ b)

/-- The failure that reports shadowing names. -/
def shadowFailure (names : List String) : Failure :=
  ⟨"OldState", [⟨"value_error", [],
    "Value error, OldState field names shadow model attributes: " ++ ", ".intercalate names⟩]⟩

/-- The failure of data that are no dictionary and no snapshot. -/
def shapeFailure : Failure :=
  ⟨"OldState", [⟨"model_type", [], "Input should be a valid dictionary or instance of OldState"⟩]⟩

end Covenant.Snapshot

namespace Covenant.Act

open Covenant.Snapshot

/-- A new snapshot of the given fields, unless some of their names shadow attributes. -/
def newSnapshot (fields : Fields) : Act Value := do
  match ← read fun m => shadowing m (fields.map (·.1)) with
  | [] => allocValue (.snapshot fields)
  | names => failValidation (shadowFailure names)

/-- The entries of a dictionary as fields: every key has to be a text. -/
def fieldsOfEntries : List (Value × Value) → Act Fields
  | [] => return []
  | (key, v) :: rest => do
    match key.text? with
    | none =>
      fail .typeError ("attribute name must be string, not '" ++ (← typeName key) ++ "'")
    | some name => return (name, v) :: (← fieldsOfEntries rest)

/-- A value as a snapshot: a snapshot is itself one, and a dictionary becomes one. -/
def validateSnapshot (v : Value) : Act Value := do
  match v with
  | .ref r =>
    match ← load r with
    | .snapshot _ => return v
    | .dict entries => newSnapshot (← fieldsOfEntries entries)
    | _ => failValidation shapeFailure
  | _ => failValidation shapeFailure

/-- The fields of a snapshot as a new dictionary. -/
def snapshotEntries (fields : Fields) : Act Value :=
  allocValue (.dict (fields.map fun (name, v) => (.text name, v)))

end Covenant.Act
