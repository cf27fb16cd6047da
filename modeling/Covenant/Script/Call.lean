import Covenant.Demo.Scenario
import Covenant.Object.Method
import Covenant.Script.Eval

/-!
Calling: what a call does for each kind of value that can be called.

Calls made by what is called go one level deeper. The levels are counted down from a fixed depth,
and running out of them ends a run without an answer.
-/

namespace Covenant.Act

/-- Calls a function of a script: in a scope of its own, positional arguments go to the parameters
in order and named ones by name, however many there are. -/
def callClosure (call : Caller) (params : List String) (body : List Script.Stmt) (scope : Ref)
    (args : List Value) (named : Fields) : Act Value := do
  let inner ← alloc (.scope (Fields.ofList (params.zip args ++ named)) (some scope))
  match ← execBlock call inner body with
  | .returned v => return v
  | .next => return .null

/-- Calls an assertion primitive. -/
def callAssertion (call : Caller) (side : Side) (shape : Shape) (args : List Value)
    (named : Fields) : Act Unit := do
  let title := routineName (.assertion side shape)
  match shape with
  | .plain => do
    let a ← matched (.exactly title [.placed "condition_or_value", .placed "message_or_validator",
      ⟨"message", true, true⟩]) args named
    match a.values[2]?.join with
    | none => checkCondition call side (a.value 0) (a.value 1)
    | some message => checkValue call side (a.value 0) (a.value 1) message
  | .formatted => do
    let a ← matched ⟨title, [.placed "condition", .placed "template"], true, true⟩ args named
    checkFormatted call side (a.value 0) (a.value 1) a.rest a.others
  | .context => do
    let a ← matched (.exactly title [.placed "condition", .placed "expr_text"]) args named
    checkContext call side (a.value 0) (a.value 1)

/-- The parameters of the runners. -/
def runnerParameters : List Parameter :=
  [.needed "subject", .needed "old_state", .needed "body"]

/-- The parameters of the runners that take a mode. -/
def moderatedParameters : List Parameter :=
  runnerParameters ++ [.omissible "mode"]

/-- A body given as a value. -/
def bodyOf (call : Caller) (body : Value) : Body :=
  fun old subject => call body [old, subject] []

/-- The mode that was given, or else strict mode. -/
def modeArgument (v : Option Value) : Value :=
  v.getD (.member (.mode .strict))

/-- Whether a value can be remembered by a weak reference. -/
def isWeaklyKept (v : Value) : Act Bool := do
  match v with
  | .null | .bool _ | .int _ | .float .. | .text _ | .bytes _ | .notImplemented => return false
  | .routine (.method k name) => return (k.nature? name) == some .static
  | .ref r =>
    match ← load r with
    | .list _ | .tuple _ | .dict _ | .view .. | .iterator .. | .property _ => return false
    | .fault f =>
      match f.cls with
      | .known k => return !k.isSealed
      | .made _ => return true
    | .bound _ f => return (Machine.boundClass f) == .method
    | .object (.known (.auxiliary _)) _ => return false
    | _ => return true
  | _ => return true

/-- The invariant found for a value: for a class the one it has, for anything else that can be
remembered weakly its attribute. Either is settled when it is first asked for. -/
def invariantOf (call : Caller) (v : Value) : Act Value := do
  match v with
  | .cls c => return (← findInvariant call c).getD .null
  | v =>
    if ← isWeaklyKept v then
      checkKey call v
      match (← read Machine.remembered).find? (v.same ·.1) with
      | some (_, found) => return found.getD .null
      | none => do
        let found ← match ← getAttribute? call v "invariant" with
          | some x => do if ← isCallable x then pure (some x) else pure none
          | none => pure none
        update fun m => { m with remembered := (v, found) :: m.remembered }
        return found.getD .null
    else
      fail .typeError ("cannot create weak reference to '" ++ (← typeName v) ++ "' object")

/-- Whether a value lies between the two bounds of a range; the upper one is only asked about if the
lower one is kept. -/
def withinRange (call : Caller) (self v : Value) : Act Value := do
  let kept ← compare call .le (← field call self "min") v
  if ← truth call kept then compare call .le v (← field call self "max") else return kept

/-- Texts as a list. -/
def textList (lines : List String) : Act Value :=
  allocValue (.list (lines.map .text))

/-- The signature of what takes an object and anything else. -/
def openSignature (title : String) : Signature :=
  ⟨title, [.needed "self"], true, true⟩

/-! ## Starting faults of contracts -/

/-- Starts a violation with its message. -/
def startViolation (call : Caller) (self message : Value) : Act Unit := do
  setAttribute call self "message" message
  setOnlyArgument self message

/-- Starts a violation of an invariant. -/
def startInvariantError (call : Caller) (self subjectType checkpoint detail cause : Value) :
    Act Unit := do
  setAttribute call self "subject_type" subjectType
  setAttribute call self "checkpoint" checkpoint
  setAttribute call self "detail" detail
  setAttribute call self "cause" cause
  startViolation call self (.text (← invariantMessage call subjectType checkpoint detail))

/-- Starts the fault of an amount above a limit. -/
def startLimitError (call : Caller) (self amount limit : Value) : Act Unit := do
  setAttribute call self "amount" amount
  setAttribute call self "limit" limit
  setOnlyArgument self (.text (← Account.limitMessage call amount limit))

/-! ## Functions that exist from the start -/

/-- Makes an object of the class that is given first, without starting it. -/
def newNaturally (call : Caller) (owner : Known) (args : List Value) (named : Fields) :
    Act Value := do
  let title := owner.name ++ ".__new__"
  match args with
  | [] => fail .typeError (title ++ "(): not enough arguments")
  | .cls c :: args =>
    let name ← read (·.className c)
    let k ← read (knownAbove · c)
    if !(← read (·.isSubclass c (.known owner))) then
      fail .typeError (title ++ "(" ++ name ++ "): " ++ name ++ " is not a subtype of " ++
        owner.name)
    else if owner == .object then
      match constructWhole? call k args named, k with
      | some _, _ =>
        fail .typeError (title ++ "(" ++ name ++ ") is not safe, use " ++ name ++ ".__new__()")
      | none, .fault _ => allocValue (.fault (.resting c []))
      | none, _ =>
        if args.isEmpty && named.isEmpty then allocValue (.object c [])
        else if (← read (·.classAttribute? c (special "new"))).isSome then
          fail .typeError (title ++ "() takes exactly one argument (the type to instantiate)")
        else if (← read (·.classAttribute? c (special "init"))).isSome then
          allocValue (.object c [])
        else failNoArguments c
    else
      match constructWhole? call k args named, k with
      | some whole, _ => whole
      | none, .fault _ => allocValue (.fault (.resting c args))
      | none, _ => allocValue (.object c [])
  | v :: _ =>
    fail .typeError (title ++ "(X): X is not a type object (" ++ (← typeName v) ++ ")")

/-- Calls a function that exists from the start. -/
def callRoutine (call : Caller) (r : Routine) (args : List Value) (named : Fields) :
    Act Value := do
  let title := routineName r
  let given (parameters : List String) : Act Arguments :=
    matched (.exactly title (parameters.map .needed)) args named
  let full := qualifiedRoutineName r
  let method (parameters : List String) : Act Arguments :=
    matched (.exactly full (("self" :: parameters).map .needed)) args named
  match r with
  | .assertion side shape => do
    callAssertion call side shape args named
    return .null
  | .skip => return .null
  | .runStrict => do
    let a ← matched (.exactly title runnerParameters) args named
    runStrict call (a.value 0) (a.value 1) (bodyOf call (a.value 2))
  | .runErrorTolerant => do
    let a ← matched (.exactly title runnerParameters) args named
    runErrorTolerant call (a.value 0) (a.value 1) (bodyOf call (a.value 2))
  | .runContract => do
    let a ← matched (.exactly title moderatedParameters) args named
    runContract call (a.value 0) (a.value 1) (bodyOf call (a.value 2))
      (modeArgument a.values[3]?.join)
  | .runUnchecked => do
    let a ← matched (.exactly title runnerParameters) args named
    runUnchecked (a.value 0) (a.value 1) (bodyOf call (a.value 2))
  | .runContractUnchecked => do
    let a ← matched (.exactly title moderatedParameters) args named
    runUnchecked (a.value 0) (a.value 1) (bodyOf call (a.value 2))
  | .contractMethod p => do
    let a ← matched (.exactly full
      [.omissible "snapshot", .omissible "mode"]) args named
    contractMethod call p (a.value 0) (modeArgument a.values[1]?.join)
  | .asPredicate => do
    let a ← given ["validator"]
    asPredicate call (a.value 0)
  | .findInvariant => do
    let a ← given ["cls"]
    invariantOf call (a.value 0)
  | .checkInvariant => do
    let a ← given ["subject", "checkpoint"]
    checkInvariant call (a.value 0) (a.value 1)
    return .null
  | .reportViolation => do
    let a ← given ["error"]
    reportViolation call (a.value 0)
    return .null
  | .emitViolation => do
    let a ← given ["error"]
    emitViolation call (a.value 0)
    return .null
  | .addSpanEvent => do
    let a ← given ["name", "attributes"]
    addSpanEvent call (a.value 0) (a.value 1)
    return .null
  | .getConfig => do
    let a ← matched ⟨title, [], false, true⟩ args named
    return .config (← getConfig a.others)
  | .resetConfig => do
    let _ ← given []
    resetConfig
    return .null
  | .resolveProfile => do
    let a ← matched (.exactly title [.omissible "config"]) args named
    return .member (.profile (← resolveProfile call (a.value 0)))
  | .contractsFor => do
    let a ← given ["profile"]
    contractsFor call (a.value 0)
  | .length => do return .int (← length call (← onlyArgument title args named))
  | .absolute => do absolute call (← onlyArgument title args named)
  | .all => do return .bool (← allTrue call (← onlyArgument title args named))
  | .any => do return .bool (← anyTrue call (← onlyArgument title args named))
  | .sum => sum call args named
  | .quoted => do return .text (← quotedText call (← onlyArgument title args named))
  | .isInstance => do
    match ← placedArguments title title 2 2 args named with
    | [v, c] => return .bool (← isInstance call v c)
    | _ => return .null
  | .callable => do return .bool (← isCallable (← onlyArgument title args named))
  | .positiveRun => do
    let a ← method ["value"]
    compare call .gt (a.value 1) (.int 0)
  | .inRangeRun => do
    let a ← method ["value"]
    withinRange call (a.value 0) (a.value 1)
  | .longerThanRun => do
    let a ← method ["value"]
    let n ← length call (a.value 1)
    compare call .gt (.int n) (← field call (a.value 0) "min_len")
  | .validatorRun => do
    let _ ← method ["value"]
    return .null
  | .structuralInvariant => do
    let _ ← method []
    return .null
  | .asDict => do
    let a ← method []
    match a.value 0 with
    | .ref s =>
      match ← load s with
      | .snapshot fields => snapshotEntries fields
      | _ => getAttribute call (a.value 0) "model_extra"
    | v => getAttribute call v "model_extra"
  | .validateSnapshot => do
    let a ← matched ⟨full, [.needed "obj"], false, true⟩ args named
    validateSnapshot (a.value 0)
  | .accountInvariant => do
    let a ← method []
    Account.invariant call (a.value 0)
  | .accountDeposit => do
    let a ← matched (openSignature full) args named
    Account.deposit call (a.value 0) a.rest a.others
  | .accountWithdraw => do
    let a ← method ["amount"]
    Account.withdraw call (a.value 0) (a.value 1)
  | .accountTransfer => do
    let a ← method ["to", "amount"]
    Account.transfer call (a.value 0) (a.value 1) (a.value 2)
  | .accountClose => do
    let a ← matched (openSignature full) args named
    Account.close call (a.value 0) a.rest a.others
  | .accountDepositBatch => do
    let a ← matched (openSignature full) args named
    Account.depositBatch call (a.value 0) a.rest a.others
  | .queueInvariant => do
    let a ← method []
    Queue.invariant call (a.value 0)
  | .queueLength => do
    let a ← method []
    field call (a.value 0) "count"
  | .queueEnqueue => do
    let a ← method ["item"]
    Queue.enqueue call (a.value 0) (a.value 1)
  | .queueDequeue => do
    let a ← method []
    Queue.dequeue call (a.value 0)
  | .queueDemo => do
    let _ ← given []
    textList (← queueDemo call)
  | .bankDemo => do
    let _ ← given []
    textList (← bankDemo call)
  | .accountStart => do
    let a ← method ["account_number"]
    Account.start call (a.value 0) (a.value 1)
    return .null
  | .accountText => do
    let a ← method []
    return .text (← Account.text call (a.value 0))
  | .queueStart => do
    let a ← method ["capacity"]
    Queue.start call (a.value 0) (a.value 1)
    return .null
  | .violationStart => do
    let a ← method ["message"]
    startViolation call (a.value 0) (a.value 1)
    return .null
  | .invariantErrorStart => do
    let a ← matched (.exactly full [.needed "self", .needed "subject_type",
      .needed "checkpoint", .needed "message", .omissible "cause"]) args named
    startInvariantError call (a.value 0) (a.value 1) (a.value 2) (a.value 3) (a.value 4)
    return .null
  | .limitErrorStart => do
    let a ← matched (.exactly full [.needed "self", .needed "amount",
      .omissible "limit"]) args named
    startLimitError call (a.value 0) (a.value 1) (a.values[2]?.join.getD (.int dailyLimit))
    return .null
  | .method owner name =>
    if name == special "new" then newNaturally call owner args named
    else callNatural false call owner name args named

/-- Calls a value; `call` is used for the calls that this makes. -/
def callValue (call : Caller) : Caller := fun f args named => do
  let byClass : Act Value := do
    match ← special? f "call" with
    | some found => callThrough call f found args named
    | none => fail .typeError ("'" ++ (← typeName f) ++ "' object is not callable")
  match f with
  | .routine r => callRoutine call r args named
  | .cls c => construct call c args named
  | .ref r =>
    match ← load r with
    | .closure _ params body scope => callClosure call params body scope args named
    | .bound self (.routine (.method owner name)) =>
      callNatural true call owner name (self :: args) named
    | .bound self g => call g (self :: args) named
    | .static g => call g args named
    | .decorator snapshot mode p => do
      let a ← matched (.exactly
        "make_contract_method.<locals>.contract_method.<locals>.decorator" [.needed "func"]) args
        named
      allocValue (.contracted (a.value 0) snapshot mode p)
    | .contracted g snapshot mode p => do
      let a ← matched (openSignature (← functionName wrapperDepth f)) args named
      callContracted call p g snapshot mode (a.value 0) a.rest a.others
    | .alias c _ => construct call c args named
    | _ => byClass
  | _ => byClass

/-- Calling with calls nested at most `depth` deep. -/
def callWithin : (depth : Nat) → Caller
  | 0 => fun _ _ _ => exhaust
  | depth + 1 => callValue (callWithin depth)

/-- How deep calls can be nested. -/
def callDepth : Nat := 1000

/-- Calls a value. -/
def call : Caller :=
  callWithin callDepth

end Covenant.Act
