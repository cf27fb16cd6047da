import Covenant.Value

/-!
What the initial classes have by nature: the names of their operations, methods and attributes.

An operation is what a sign or a built-in function asks of a value; its name stands between double
underscores. The tables give the names alone. What each one does is defined with the values
concerned.
-/

namespace Covenant

/-- What an attribute that a class has by nature is. -/
inductive Nature where
  /-- A function that carries an operation out. -/
  | operation
  | method
  /-- A method of the class itself. -/
  | ofClass
  /-- A function that is not bound to anything. -/
  | static
  /-- A value that is worked out for each object. -/
  | computed
  deriving Repr, DecidableEq

/-- A name between double underscores. -/
def special (name : String) : String :=
  "__" ++ name ++ "__"

/-- The names of the fields of a contract set. -/
def contractSetParts : List String :=
  ["profile", "require", "ensure", "requiref", "ensuref", "require_ctx", "ensure_ctx",
    "run_strict", "run_error_tolerant", "run_contract", "contract_method"]

namespace Known

/-- Whether an initial class is one of the frozen records, whose objects are compared by their
fields. -/
def isRecord : Known → Bool
  | .positive | .inRange | .longerThan | .contractSet => true
  | _ => false

/-- The names of the fields of a frozen record. -/
def recordNames : Known → List String
  | .contractSet => contractSetParts
  | .inRange => ["min", "max"]
  | .longerThan => ["min_len"]
  | _ => []

/-- Whether the methods that an initial class has by nature are functions like those of scripts. -/
def hasFunctions : Known → Bool
  | .programObject | .enumeration _ | .snapshot | .config => true
  | k => k.isRecord

/-- The names of the six comparisons. -/
def comparing : List String := ["eq", "ge", "gt", "le", "lt", "ne"]

/-- The names of the operations on two numbers, each also with its operands exchanged. -/
def calculating : List String :=
  ["add", "radd", "sub", "rsub", "mul", "rmul", "truediv", "rtruediv", "floordiv", "rfloordiv",
    "mod", "rmod", "divmod", "rdivmod", "pow", "rpow"]

/-- The names of the operations on bits, each also with its operands exchanged. -/
def combining : List String := ["and", "rand", "or", "ror", "xor", "rxor"]

/-- The methods that texts and byte strings share. -/
def textual : List String :=
  ["capitalize", "center", "count", "endswith", "expandtabs", "find", "index", "isalnum",
    "isalpha", "isascii", "isdigit", "islower", "isspace", "istitle", "isupper", "join", "ljust",
    "lower", "lstrip", "partition", "removeprefix", "removesuffix", "replace", "rfind", "rindex",
    "rjust", "rpartition", "rsplit", "rstrip", "split", "splitlines", "startswith", "strip",
    "swapcase", "title", "translate", "upper", "zfill"]

/-- The names of the operations that an initial class has itself, without the underscores. -/
def operations : Known → List String
  | .object =>
    comparing ++ ["delattr", "getattribute", "hash", "init", "repr", "setattr", "str"]
  | .type =>
    ["call", "delattr", "getattribute", "init", "or", "repr", "ror", "setattr"]
  | .int =>
    comparing ++ calculating ++ combining ++
      ["abs", "bool", "float", "getattribute", "hash", "index", "int", "invert", "lshift", "neg",
        "pos", "repr", "rlshift", "rrshift", "rshift"]
  | .bool => combining ++ ["repr"]
  | .float =>
    comparing ++ calculating ++
      ["abs", "bool", "float", "getattribute", "hash", "int", "neg", "pos", "repr"]
  | .str | .bytes =>
    comparing ++ ["add", "contains", "getattribute", "getitem", "hash", "iter", "len", "mod",
      "mul", "repr", "rmod", "rmul", "str"]
  | .list =>
    comparing ++ ["add", "contains", "delitem", "getattribute", "iadd", "imul", "init", "iter",
      "len", "mul", "repr", "rmul", "setitem"]
  | .tuple =>
    comparing ++ ["add", "contains", "getattribute", "getitem", "hash", "iter", "len", "mul",
      "repr", "rmul"]
  | .dict =>
    comparing ++ ["delitem", "getattribute", "init", "ior", "iter", "len", "or", "repr", "ror",
      "setitem"]
  | .noneType => ["bool", "repr"]
  | .function => ["call", "get", "repr"]
  | .method | .builtinFunction => comparing ++ ["call", "getattribute", "hash", "repr"]
  | .property => ["delete", "get", "getattribute", "init", "set"]
  | .staticMethod => ["call", "get", "init", "repr"]
  | .auxiliary "dict_keys" | .auxiliary "dict_items" =>
    comparing ++ ["contains", "getattribute", "iter", "len", "repr"]
  | .auxiliary "dict_values" => ["getattribute", "iter", "len", "repr"]
  | .auxiliary "GenericAlias" => ["call", "getattribute", "getitem", "repr"]
  | .auxiliary "method_descriptor" | .auxiliary "wrapper_descriptor" =>
    ["call", "get", "getattribute", "repr"]
  | .auxiliary "method-wrapper" => comparing ++ ["call", "getattribute", "hash", "repr"]
  | .auxiliary "getset_descriptor" => ["delete", "get", "getattribute", "repr", "set"]
  | .auxiliary "mappingproxy" =>
    comparing ++ ["contains", "getattribute", "getitem", "iter", "len", "or", "repr"]
  | .auxiliary "NotImplementedType" => ["bool", "repr"]
  | .auxiliary _ => ["getattribute", "iter", "next"]
  | .fault .baseException => ["delattr", "getattribute", "init", "repr", "setattr", "str"]
  | .fault .keyError | .fault .unicodeDecodeError | .fault .unicodeEncodeError => ["init", "str"]
  | .fault f =>
    match f with
    | .violation | .preconditionError | .postconditionError | .invariantError | .customViolation
    | .dailyLimitExceeded | .rejected | .rejectedSub | .frozenInstanceError => []
    | _ => ["init"]
  | _ => []

/-- The methods of snapshots and of settings. -/
def modelMethods : List String :=
  ["_calculate_keys", "_copy_and_set_values", "_iter", "_setattr_handler", "copy", "dict", "json",
    "model_copy", "model_dump", "model_dump_json", "model_post_init"] ++
  ["copy", "deepcopy", "delattr", "eq", "getattr", "getstate", "iter", "pretty", "replace", "repr",
    "repr_args", "repr_name", "repr_recursion", "repr_str", "rich_repr", "setattr", "setstate",
    "str"].map special

/-- The methods of the classes of snapshots and of settings themselves. -/
def modelClassMethods : List String :=
  ["_get_value", "construct", "from_orm", "model_construct", "model_json_schema",
    "model_parametrized_name", "model_rebuild", "model_validate_json", "model_validate_strings",
    "parse_file", "parse_obj", "parse_raw", "schema", "schema_json", "update_forward_refs",
    "validate"] ++
  ["class_getitem", "get_pydantic_core_schema", "get_pydantic_json_schema",
    "pydantic_init_subclass", "pydantic_on_complete"].map special

/-- The attributes that are worked out for snapshots and for settings. -/
def modelParts : List String :=
  ["_abc_impl", "model_computed_fields", "model_config", "model_extra", "model_fields",
    "model_fields_set"] ++
  ["abstractmethods", "class_vars", "dict", "fields_set", "private_attributes", "signature",
    "slots", "weakref"].map special ++
  ["complete", "computed_fields", "core_schema", "custom_init", "decorators", "extra", "fields",
    "fields_set", "generic_metadata", "parent_namespace", "post_init", "private", "root_model",
    "serializer", "setattr_handlers", "validator"].map fun name => special ("pydantic_" ++ name)

/-- The names of the methods that an initial class has itself. -/
def methods : Known → List String
  | .object => ["dir", "format", "getstate", "reduce", "reduce_ex", "sizeof"].map special
  | .type => "mro" :: ["dir", "instancecheck", "sizeof", "subclasscheck", "subclasses"].map special
  | .int =>
    ["as_integer_ratio", "bit_count", "bit_length", "conjugate", "to_bytes"] ++
      ["ceil", "floor", "format", "getnewargs", "round", "sizeof", "trunc"].map special
  | .float =>
    ["as_integer_ratio", "conjugate", "hex", "is_integer"] ++
      ["ceil", "floor", "format", "getnewargs", "round", "trunc"].map special
  | .str =>
    textual ++ ["casefold", "encode", "format", "format_map", "isdecimal", "isidentifier",
      "isnumeric", "isprintable"] ++ ["format", "getnewargs", "sizeof"].map special
  | .bytes => textual ++ ["decode", "hex"] ++ ["bytes", "getnewargs"].map special
  | .list =>
    ["append", "clear", "copy", "count", "extend", "index", "insert", "pop", "remove", "reverse",
      "sort"] ++ ["getitem", "reversed", "sizeof"].map special
  | .tuple => ["count", "index", special "getnewargs"]
  | .dict =>
    ["clear", "copy", "get", "items", "keys", "pop", "popitem", "setdefault", "update",
      "values"] ++ ["contains", "getitem", "reversed", "sizeof"].map special
  | .auxiliary "dict_keys" | .auxiliary "dict_items" => ["isdisjoint", special "reversed"]
  | .auxiliary "dict_values" => [special "reversed"]
  | .fault .baseException =>
    ["add_note", "with_traceback"] ++ ["reduce", "setstate"].map special
  | .fault .validationError => ["error_count", "errors", "json"]
  | .snapshot => special "hash" :: modelMethods
  | .config => modelMethods
  | .programObject => [special "repr"]
  | .enumeration _ => ["dir", "format", "reduce_ex", "repr", "str"].map special
  | .positive | .inRange | .longerThan | .contractSet =>
    ["delattr", "eq", "hash", "repr", "setattr"].map special
  | _ => []

/-- The names of the methods of an initial class itself. -/
def classMethods : Known → List String
  | .object => ["init_subclass", "subclasshook"].map special
  | .int => ["from_bytes"]
  | .float => ["fromhex", special "getformat"]
  | .bytes => ["fromhex"]
  | .list | .tuple => [special "class_getitem"]
  | .dict => ["fromkeys", special "class_getitem"]
  | .snapshot => "reject_shadowed_names" :: modelClassMethods
  | .config => "normalize_log_level" :: "normalize_profile" :: modelClassMethods
  | _ => []

/-- The names of the functions of an initial class that are bound to nothing. -/
def statics : Known → List String
  | .str | .bytes => ["maketrans", special "new"]
  | .object | .type | .int | .bool | .float | .list | .tuple | .dict | .noneType | .function
  | .method | .property | .staticMethod | .fault .baseException => [special "new"]
  | _ => []

/-- The names of the attributes that are worked out for each object of an initial class. -/
def computed : Known → List String
  | .object => [special "class"]
  | .type =>
    ["abstractmethods", "annotations", "base", "bases", "basicsize", "dict", "dictoffset",
      "flags", "itemsize", "module", "mro", "name", "qualname", "text_signature",
      "weakrefoffset"].map special
  | .int => ["denominator", "imag", "numerator", "real"]
  | .float => ["imag", "real"]
  | .function =>
    ["annotations", "builtins", "closure", "code", "defaults", "dict", "globals", "kwdefaults",
      "module", "name", "qualname"].map special
  | .method => ["func", "self"].map special
  | .builtinFunction => ["module", "name", "qualname", "self", "text_signature"].map special
  | .property => ["fdel", "fget", "fset"]
  | .staticMethod => ["dict", "func", "wrapped"].map special
  | .programObject | .account | .queue | .positive | .inRange | .longerThan | .contractSet =>
    ["dict", "weakref"].map special
  | .enumeration _ => ["name", "value", special "dict"]
  | .snapshot | .config => modelParts
  | .auxiliary "dict_keys" | .auxiliary "dict_items" | .auxiliary "dict_values" => ["mapping"]
  | .auxiliary "GenericAlias" => ["args", "origin", "parameters"].map special
  | .auxiliary "method_descriptor" | .auxiliary "wrapper_descriptor" =>
    ["name", "objclass", "qualname", "text_signature"].map special
  | .auxiliary "method-wrapper" =>
    ["name", "objclass", "qualname", "self", "text_signature"].map special
  | .fault f =>
    match f with
    | .baseException =>
      "args" :: ["cause", "context", "dict", "suppress_context", "traceback"].map special
    | .stopIteration => ["value"]
    | .systemExit => ["code"]
    | .attributeError => ["name", "obj"]
    | .nameError => ["name"]
    | .unicodeDecodeError | .unicodeEncodeError => ["encoding", "end", "object", "reason", "start"]
    | .validationError => ["title"]
    | .violation | .dailyLimitExceeded | .rejected | .customViolation | .frozenInstanceError =>
      [special "weakref"]
    | _ => []
  | _ => []

/-- What an attribute of an initial class is by nature, if it has it itself. -/
def nature? (k : Known) (name : String) : Option Nature :=
  if (k.operations.map special).contains name then some .operation
  else if k.methods.contains name then some .method
  else if k.classMethods.contains name then some .ofClass
  else if k.statics.contains name then some .static
  else if k.computed.contains name then some .computed
  else none

end Known

/-- Whether a function that exists from the start carries an operation out. -/
def Routine.isOperation : Routine → Bool
  | .method k name => k.nature? name == some .operation
  | _ => false

end Covenant
