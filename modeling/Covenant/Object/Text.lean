import Covenant.Object.Comparison
import Covenant.Format.Number
import Covenant.Text.Quoted

/-!
Values as text: the quoted form, which shows what a value is, the plain form, which a message
takes in, and the form laid out by a specification.

Probes record each of the three uses and may fail, and an object of a class with special methods
for its text is asked, so that writing a value is an action. A collection that holds itself shows
dots in its place.
-/

namespace Covenant.Act

open Covenant.Format

/-- A truth value as text. -/
def truthText (b : Bool) : String :=
  if b then "True" else "False"

/-- The parts with a comma and a blank between them. -/
def joined (parts : List String) : String :=
  ", ".intercalate parts

/-- A tuple with the given parts: a single part is followed by a comma. -/
def tupleText : List String → String
  | [x] => "(" ++ x ++ ",)"
  | parts => "(" ++ joined parts ++ ")"

/-- The name that a function is known by. -/
def routineName : Routine → String
  | .assertion .pre .plain => "require"
  | .assertion .pre .formatted => "requiref"
  | .assertion .pre .context => "require_ctx"
  | .assertion .post .plain => "ensure"
  | .assertion .post .formatted => "ensuref"
  | .assertion .post .context => "ensure_ctx"
  | .skip => "_skip"
  | .runStrict => "run_strict"
  | .runErrorTolerant => "run_error_tolerant"
  | .runContract => "run_contract"
  | .runUnchecked => "run_unchecked"
  | .runContractUnchecked => "run_contract_unchecked"
  | .contractMethod _ => "contract_method"
  | .asPredicate => "as_predicate"
  | .findInvariant => "find_invariant"
  | .checkInvariant => "check_invariant"
  | .reportViolation => "report_violation"
  | .emitViolation => "emit_violation"
  | .addSpanEvent => "add_span_event"
  | .getConfig => "get_config"
  | .resetConfig => "reset_config"
  | .resolveProfile => "resolve_profile"
  | .contractsFor => "contracts_for"
  | .length => "len"
  | .absolute => "abs"
  | .all => "all"
  | .any => "any"
  | .sum => "sum"
  | .quoted => "repr"
  | .isInstance => "isinstance"
  | .callable => "callable"
  | .positiveRun | .inRangeRun | .longerThanRun | .validatorRun => "run"
  | .asDict => "as_dict"
  | .validateSnapshot => "model_validate"
  | .accountInvariant | .queueInvariant | .structuralInvariant => "invariant"
  | .accountDeposit => "deposit"
  | .accountWithdraw => "withdraw"
  | .accountTransfer => "transfer"
  | .accountClose => "close"
  | .accountDepositBatch => "deposit_batch"
  | .accountStart | .queueStart | .violationStart | .invariantErrorStart | .limitErrorStart =>
    "__init__"
  | .accountText => "__repr__"
  | .queueLength => "__len__"
  | .queueEnqueue => "enqueue"
  | .queueDequeue => "dequeue"
  | .queueDemo => "run_queue_demo"
  | .bankDemo => "run_bank_demo"
  | .method .snapshot "__hash__" => "hash_func"
  | .method _ name => name

/-- Whether a method of a model is defined in its own class rather than in that of all models. -/
def isOwnModelMethod : Known → (name : String) → Bool
  | .snapshot, name => name == special "repr" || name == "reject_shadowed_names"
  | .config, name => name == "normalize_profile" || name == "normalize_log_level"
  | _, _ => true

/-- What a function that exists from the start is defined in: a class, or another function. -/
def routineScope : Routine → String
  | .positiveRun => "Positive."
  | .inRangeRun => "InRange."
  | .longerThanRun => "LongerThan."
  | .validatorRun => "Validator."
  | .structuralInvariant => "HasInvariant."
  | .asDict => "OldState."
  | .validateSnapshot => "BaseModel."
  | .accountInvariant | .accountDeposit | .accountWithdraw | .accountTransfer | .accountClose
  | .accountDepositBatch | .accountStart | .accountText => "BankAccount."
  | .queueInvariant | .queueLength | .queueEnqueue | .queueDequeue | .queueStart =>
    "BoundedQueue."
  | .violationStart => "ContractViolationError."
  | .invariantErrorStart => "InvariantError."
  | .limitErrorStart => "DailyLimitExceeded."
  | .contractMethod _ => "make_contract_method.<locals>."
  | .method .snapshot "__hash__" => "make_hash_func.<locals>."
  | .method k name => if isOwnModelMethod k name then k.name ++ "." else "BaseModel."
  | _ => ""

/-- The name of a function that exists from the start, with what it is defined in. -/
def qualifiedRoutineName (r : Routine) : String :=
  routineScope r ++ routineName r

/-- The module that a function that exists from the start belongs to. -/
def routineHome : Routine → String
  | .assertion .. | .reportViolation => "dbcore.assertions"
  | .skip | .contractsFor | .resolveProfile => "dbcore.profile"
  | .runStrict | .runErrorTolerant | .runContract | .runUnchecked | .runContractUnchecked
  | .contractMethod _ => "dbcore.executor"
  | .asPredicate | .positiveRun | .inRangeRun | .longerThanRun | .validatorRun =>
    "dbcore.validators"
  | .findInvariant | .checkInvariant | .structuralInvariant => "dbcore.invariant"
  | .addSpanEvent | .emitViolation => "dbcore.otel"
  | .getConfig | .resetConfig => "dbcore.config"
  | .asDict => "dbcore.state"
  | .validateSnapshot => "pydantic.main"
  | .violationStart | .invariantErrorStart => "dbcore.errors"
  | .accountInvariant | .accountDeposit | .accountWithdraw | .accountTransfer | .accountClose
  | .accountDepositBatch | .accountStart | .accountText | .limitErrorStart => "dbcore.demo.bank"
  | .queueInvariant | .queueLength | .queueEnqueue | .queueDequeue | .queueStart =>
    "dbcore.demo.queue"
  | .queueDemo | .bankDemo => "dbcore.demo.scenarios"
  | .method (.enumeration _) _ => "enum"
  | .method .programObject _ => "__main__"
  | .method k name =>
    if !isOwnModelMethod k name then "pydantic.main"
    else if k.home.isEmpty then "builtins"
    else k.home
  | _ => "builtins"

/-! ## Names of functions -/

/-- The name of a function, found behind its wrappers. -/
def functionName : (depth : Nat) → Value → Act String
  | 0, _ => return ""
  | depth + 1, v => do
    match (← read (·.attachedTo v)).get? (special "name") with
    | some (.text name) => return name
    | _ =>
      match v with
      | .routine r => return routineName r
      | .cls c => read (·.className c)
      | .ref r =>
        match ← load r with
        | .closure name .. => return name
        | .contracted f .. => functionName depth f
        | .bound _ f => functionName depth f
        | .alias c _ => read (·.className c)
        | .decorator .. => return "decorator"
        | _ => typeName v
      | _ => typeName v

/-- How many wrappers a function can have. -/
def wrapperDepth : Nat := 1000

/-- What a function is defined in, as texts show it before its name. -/
def functionScope (v : Value) : Act String := do
  match v with
  | .routine r => return routineScope r
  | .ref r =>
    match ← load r with
    | .bound _ (.routine r) | .contracted (.routine r) .. => return routineScope r
    | .decorator .. => return "make_contract_method.<locals>.contract_method.<locals>."
    | _ => return ""
  | _ => return ""

/-- The name of a function with what it is defined in. -/
def qualifiedFunctionName (v : Value) : Act String := do
  match (← read (·.attachedTo v)).get? (special "qualname") with
  | some (.text name) => return name
  | _ => return (← functionScope v) ++ (← functionName wrapperDepth v)

/-- The module that a function belongs to. -/
def functionHome (v : Value) : Act String := do
  match v with
  | .routine r => return routineHome r
  | .ref r =>
    match ← load r with
    | .bound _ (.routine r) | .contracted (.routine r) .. => return routineHome r
    | .decorator .. => return "dbcore.executor"
    | _ => return "__main__"
  | _ => return "builtins"

/-! ## Quoted -/

/-- The quoted form of a class. -/
def classText (m : Machine) : ClassRef → String
  | .known (.enumeration e) => "<enum '" ++ e.title ++ "'>"
  | .known k => "<class '" ++ k.fullName ++ "'>"
  | .made n => "<class '__main__." ++ m.qualifiedName (.made n) ++ "'>"

/-- The quoted form of a function that exists from the start. -/
def routineText (r : Routine) : String :=
  match r with
  | .method k name =>
    if Machine.isBuiltinRoutine r then "<built-in method " ++ name ++ ">"
    else if r.isOperation then "<slot wrapper '" ++ name ++ "' of '" ++ k.name ++ "' objects>"
    else "<method '" ++ name ++ "' of '" ++ k.name ++ "' objects>"
  | r =>
    (if Machine.isBuiltinRoutine r then "<built-in function " else "<function ") ++
      routineName r ++ ">"

/-- The result of laying a number or a text out. -/
def laidOutBy {α : Type} (r : Except LayoutError α) : Act α :=
  match r with
  | .ok a => return a
  | .error e =>
    if e.isTooLarge then failWith .memoryError []
    else fail (if e.isOverflow then .overflowError else .valueError) e.message

/-- An integer in decimal digits. -/
def decimalText (n : Int) : Act String :=
  laidOutBy (integerText n)

/-- Shows a collection as text; inside of its own text it is shown as dots. -/
def guarded (r : Ref) (dots : String) (text : Act String) : Act String := do
  if (← read Machine.showing).contains r then return dots else whileShowing r text

/-- The text that a special method under a name gave; anything but a text is refused. -/
def asText (name : String) (v : Value) : Act String := do
  match v.text? with
  | some s => return s
  | none =>
    fail .typeError
      (special name ++ " returned non-string (type " ++ (← typeName v) ++ ")")

/-- The quoted forms of the entries of a dictionary. -/
def quotedEntries (quoted : Value → Act String) (entries : List (Value × Value)) :
    Act (List String) :=
  entries.mapM fun (k, v) => do
    let key ← quoted k
    return key ++ ": " ++ (← quoted v)

/-- The quoted forms of named values. -/
def quotedFields (quoted : Value → Act String) (fields : Fields) : Act (List String) :=
  fields.mapM fun (name, v) => do return name ++ "=" ++ (← quoted v)

/-- The quoted form of an argument of an alias: a class goes by its name. -/
def quotedArgument (quoted : Value → Act String) (v : Value) : Act String := do
  match v with
  | .cls c => read (·.qualifiedName c)
  | v => quoted v

/-- The quoted form that an object has by nature. -/
def quotedByNature (quoted : Value → Act String) (v : Value) : Act String := do
  match v with
  | .null => return "None"
  | .bool b => return truthText b
  | .int n => decimalText n
  | .float x _ => return floatText x
  | .text s => return Text.quoted s
  | .bytes b => return Text.quotedBytes b
  | .member m => return "<" ++ m.qualified ++ ": " ++ Text.quoted m.text ++ ">"
  | .cls c => return classText (← read id) c
  | .routine r => return routineText r
  | .contracts p => return "ContractSet(profile=<BuildProfile." ++ p.text.toUpper ++ ">)"
  | .config i =>
    return "DbcConfig(" ++ joined (← quotedFields quoted (← read (settingFields · i))) ++ ")"
  | .notImplemented => return "NotImplemented"
  | .ref r =>
    match ← load r with
    | .list items => guarded r "[...]" do return "[" ++ joined (← items.mapM quoted) ++ "]"
    | .tuple items => guarded r "(...)" do return tupleText (← items.mapM quoted)
    | .dict entries =>
      guarded r "\x7b...\x7d" do
        return "\x7b" ++ joined (← quotedEntries quoted entries) ++ "\x7d"
    | .view part d =>
      guarded r "..." do
        let items ← (← viewItems part d).mapM quoted
        return (← typeName v) ++ "([" ++ joined items ++ "])"
    | .snapshot fields => return "OldState(" ++ joined (← quotedFields quoted fields) ++ ")"
    | .probe p => react p "repr" p.quoted
    | .fault f =>
      let parts ← match f.args with
        | [a] => do pure ("(" ++ (← quoted a) ++ ")")
        | args => guarded r "(...)" do return "(" ++ joined (← args.mapM quoted) ++ ")"
      return (← read (·.className f.cls)) ++ parts
    | .object c fields =>
      let title ← read (·.qualifiedName c)
      match ← read (·.recordNames? c) with
      | some names =>
        guarded r "..." do
          return title ++ "(" ++ joined (← quotedFields quoted (fields.among names)) ++ ")"
      | none => return "<" ++ title ++ ">"
    | .closure name .. => return "<function " ++ name ++ ">"
    | .bound self f =>
      if Machine.boundClass f == .method then
        return "<bound method " ++ (← qualifiedFunctionName f) ++ " of " ++ (← quoted self) ++ ">"
      else return "<" ++ (← typeName v) ++ ">"
    | .alias c args =>
      let args ← args.mapM (quotedArgument quoted)
      return (← read (·.qualifiedName c)) ++ "[" ++ joined args ++ "]"
    | _ => return "<" ++ (← typeName v) ++ ">"

/-- The quoted form of a value that is nested at most `depth` deep; `form` is the name of the form
that was asked for, in which the quoted form may stand in for the plain one. -/
def quotedFor (call : Caller) : (depth : Nat) → (form : String) → Value → Act String
  | 0, _, _ =>
    fail .recursionError "maximum recursion depth exceeded while getting the repr of an object"
  | depth + 1, form, v => do
    let own ← match v with
      | .ref _ | .member _ => callSpecial? call v "repr" []
      | _ => pure none
    match own with
    | some result => asText form result
    | none => quotedByNature (quotedFor call depth "repr") v

/-- The quoted form of a value that is nested at most `depth` deep. -/
def quotedWithin (call : Caller) (depth : Nat) (v : Value) : Act String :=
  quotedFor call depth "repr" v

/-- The quoted form of a value. -/
def quotedText (call : Caller) (v : Value) : Act String :=
  fun m => quotedWithin call (m.heap.size + 4) v m

/-! ## Faults -/

/-- The text of a fault about a character that cannot be read or written: which codec, what, where,
and why. -/
def codecText (f : Fault) (verb single many : String) (shown : String) : Act String := do
  match f.slot "start", f.slot "end" with
  | .int start, .int stop =>
    let place := if stop = start + 1 then
        single ++ shown ++ " in position " ++ toString start
      else many ++ " in position " ++ toString start ++ "-" ++ toString (stop - 1)
    return "'" ++ (f.slot "encoding").text?.getD "" ++ "' codec can't " ++ verb ++ " " ++
      place ++ ": " ++ (f.slot "reason").text?.getD ""
  | _, _ => return ""

/-- The item of a sequence at which a fault about a codec starts, as a number. -/
def codecItem (f : Fault) : Nat :=
  match f.slot "object", f.slot "start" with
  | .bytes b, .int start => ((b[start.toNat]?).map UInt8.toNat).getD 0
  | .text s, .int start => ((s.toList[start.toNat]?).map Char.toNat).getD 0
  | _, _ => 0

/-- The plain text of a fault: that of its only argument, or all its arguments. -/
def faultText (quoted plain : Value → Act String) (r : Ref) (f : Fault) : Act String := do
  let cls ← faultClassOf r
  if cls.isA .unicodeDecodeError && !f.slots.isEmpty then
    codecText f "decode" "byte " "bytes" ("0x" ++ String.ofList (Text.hexDigits 2 (codecItem f)))
  else if cls.isA .unicodeEncodeError && !f.slots.isEmpty then
    codecText f "encode" "character " "characters"
      ("'" ++ String.ofList (Text.numericEscape (codecItem f)) ++ "'")
  else
    match f.args with
    | [] => return ""
    | [a] => if cls.isA .keyError then quoted a else plain a
    | args => guarded r "(...)" do return tupleText (← args.mapM quoted)

/-! ## Plain and laid out -/

/-- The plain form of a value that is nested at most `depth` deep. -/
def plainWithin (call : Caller) : (depth : Nat) → Value → Act String
  | 0, _ => fail .recursionError "maximum recursion depth exceeded"
  | depth + 1, v => do
    match v with
    | .text s => return s
    | .member m =>
      match ← callSpecial? call v "str" [] with
      | some result => asText "str" result
      | none => return m.qualified
    | .config i => fieldsText (← read (settingFields · i))
    | .ref r =>
      match ← callSpecial? call v "str" [] with
      | some result => asText "str" result
      | none =>
        match ← load r with
        | .snapshot fields => fieldsText fields
        | .probe p => react p "str" p.plain
        | .fault f => faultText (quotedWithin call (depth + 1)) (plainWithin call depth) r f
        | _ => quotedFor call (depth + 1) "str" v
    | v => quotedFor call (depth + 1) "str" v

where
  /-- The fields of a record as text. -/
  fieldsText (fields : Fields) : Act String := do
    return " ".intercalate (← quotedFields (quotedText call) fields)

/-- The plain form of a value. -/
def plainText (call : Caller) (v : Value) : Act String :=
  fun m => plainWithin call (m.heap.size + 4) v m

/-- The form that the class of an object gives it by nature: its plain form, which takes no
specification. -/
def laidOutByNature (call : Caller) (v : Value) (spec : String) : Act String := do
  if spec.isEmpty then plainText call v
  else
    fail .typeError
      ("unsupported format string passed to " ++ (← typeName v) ++ ".__format__")

/-- The form of a value laid out by a specification. -/
def laidOut (call : Caller) (v : Value) (spec : String) : Act String := do
  match v with
  | .text s => laidOutBy (formatText spec "str" s)
  | .bool b =>
    if spec.isEmpty then return truthText b
    else laidOutBy (formatInteger spec "bool" (if b then 1 else 0))
  | .int n => if spec.isEmpty then decimalText n else laidOutBy (formatInteger spec "int" n)
  | .float x _ => laidOutBy (formatFloat spec x)
  | v =>
    match ← callSpecial? call v "format" [.text spec] with
    | some result =>
      match result.text? with
      | some s => return s
      | none => fail .typeError ("__format__ must return a str, not " ++ (← typeName result))
    | none =>
      match v with
      | .member _ => do laidOutBy (formatText spec "str" (← plainText call v))
      | .ref r =>
        match ← load r with
        | .probe p => react p ("format:" ++ spec) p.laidOut
        | _ => laidOutByNature call v spec
      | v => laidOutByNature call v spec

/-- The form of a value inside a message. -/
def shown (call : Caller) (v : Value) : Act String :=
  laidOut call v ""

end Covenant.Act
