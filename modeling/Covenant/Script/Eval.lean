import Covenant.Contract.Method
import Covenant.Contract.Profile
import Covenant.Script.Construct
import Covenant.Script.Globals

/-!
Evaluation of scripts.

Expressions and statements are worked through by recursion on their structure; `call` stands for
the calling of functions, so that nothing here depends on how deep calls may be nested. Operands
and arguments are worked out from left to right.
-/

namespace Covenant.Act

open Covenant.Script

/-- How a statement ends if no fault ends it: the next one is to follow, or a function is to return
a value. -/
inductive Flow where
  | next
  | returned (v : Value)

/-- Applies an operator to its operands. -/
def applyOperator (call : Caller) (o : Operator) (a b : Value) : Act Value := do
  match o with
  | .add => arithmetic call .add a b
  | .sub => arithmetic call .sub a b
  | .mul => arithmetic call .mul a b
  | .div => arithmetic call .div a b
  | .floorDiv => arithmetic call .floorDiv a b
  | .mod => arithmetic call .mod a b
  | .eq => compare call .eq a b
  | .ne => compare call .ne a b
  | .lt => compare call .lt a b
  | .le => compare call .le a b
  | .gt => compare call .gt a b
  | .ge => compare call .ge a b
  | .same => return .bool (← isSame a b)
  | .within => return .bool (← contains call b a)
  | .item => item call a b
where
  /-- Whether two values are the same object; there is only one empty tuple. -/
  isSame (a b : Value) : Act Bool := do
    match a, b with
    | .ref r, .ref s =>
      match ← load r, ← load s with
      | .tuple [], .tuple [] => return true
      | _, _ => return r == s
    | _, _ => return a.same b

/-- Whether a plain datum is kept only once, wherever it comes from: a small integer, a text or a
byte string of at most one item, and what is no number and no text. -/
def isKeptOnce : Value → Bool
  | .int n => -5 ≤ n && n ≤ 256
  | .text s =>
    match s.toList with
    | [] => true
    | [c] => c.toNat < 256
    | _ => false
  | .bytes b => b.length ≤ 1
  | _ => true

/-- Whether an expression makes a value anew: a literal or an arithmetic operation. -/
def makesAnew : Expr → Bool
  | .int _ | .text _ | .bytes _ => true
  | .binary o _ _ => [Operator.add, .sub, .mul, .div, .floorDiv, .mod].contains o
  | _ => false

/-- Whether a class is one of faults. -/
def isFaultClass (m : Machine) (c : ClassRef) : Bool :=
  m.isSubclass c (.known (.fault .baseException))

/-- The fault that a value stands for when it is raised: the fault itself, or a new one of the
class; `complaint` is what is said of anything else. -/
def asFault (call : Caller) (v : Value) (complaint : String) : Act Ref := do
  match v with
  | .cls c =>
    if ← read (isFaultClass · c) then
      let made ← call v [] []
      match ← faultAt? made with
      | some r => return r
      | none =>
        let shown (v : Value) : Act String := quotedText call v
        fail .typeError ("calling " ++ (← shown v) ++
          " should have returned an instance of BaseException, not " ++
          (← shown (.cls (← classOf made))))
    else fail .typeError complaint
  | v =>
    match ← faultAt? v with
    | some r => return r
    | none => fail .typeError complaint
where
  /-- The fault that a value is, if it is one. -/
  faultAt? : Value → Act (Option Ref)
    | .ref r => do
      match ← load r with
      | .fault _ => return some r
      | _ => return none
    | _ => return none

/-- The fault that another is raised from; nothing takes a link away. -/
def asCause (call : Caller) (v : Value) : Act (Option Ref) := do
  match v with
  | .null => return none
  | v => return some (← asFault call v "exception causes must derive from BaseException")

/-- Notes that a fault flies. -/
def launch (e : Ref) : Act Unit := do
  store e (.fault { ← loadFault e with flown := true })

/-- Raises what is being handled again. -/
def raiseAgain {α : Type} : Act α := do
  match ← read Machine.handling with
  | some e => do
    launch e
    rethrow e
  | none => fail .runtimeError "No active exception to reraise"

/-- Whether a fault is caught by one of several values, all of which have to be classes of
faults. -/
def isCaught (e : Ref) (caught : List Value) : Act Bool := do
  let m ← read id
  let f ← loadFault e
  if caught.all fun v => match v with
      | .cls c => isFaultClass m c
      | _ => false then
    return caught.any fun v => match v with
      | .cls c => m.isSubclass f.cls c
      | _ => false
  else
    fail .typeError "catching classes that do not inherit from BaseException is not allowed"

/-- Sets the fields that a new object of a class starts with; each is worked out when its turn
comes. -/
def setDefaults (call : Caller) (v : Value) (defaults : Fields) : Act Unit :=
  defaults.forM fun (name, make) => do setAttribute call v name (← call make [] [])

/-- A new object of a class with the fields that it starts with, those of classes above first, and
then the given ones. What it starts with is worked out even where it is given anew. -/
def newObject (call : Caller) (cls : Value) (given : Fields) : Act Value := do
  let v ← call cls [] []
  match cls with
  | .cls c =>
    let lineage ← read (·.lineage c)
    lineage.reverse.forM fun d => do
      setDefaults call v (((← read (·.classInfo? d)).map (·.defaults)).getD [])
  | _ => pure ()
  given.forM fun (name, x) => setAttribute call v name x
  return v

/-- Makes an object of a class of its own, with a field `run` if it is given. -/
def newDevice (name : String) (run invoke : Option Value) : Act Value := do
  let own ← match invoke with
    | none => pure []
    | some f => do pure [(special "call", ← allocValue (.static f))]
  let c ← addClass ⟨name, name, none, own, []⟩
  allocValue (.object c ((run.map fun v => ("run", v)).toList))

/-- Makes a class whose objects can be made with any arguments, which are ignored. -/
def newDeviceClass (name : String) (run : Option Value) (scope : Ref) : Act Value := do
  let start ← allocValue (.closure (special "init") [] [] scope)
  let own := (special "init", start) :: (run.map fun v => ("run", v)).toList
  return .cls (← addClass ⟨name, name, none, own, []⟩)

/-- The contracted form of a method. -/
def contractedMethod (call : Caller) (function : Value) (snapshot mode via : Option Value) :
    Act Value := do
  let wrap ← match via with
    | none => do pure (.routine (.contractMethod (← read Machine.active)))
    | some p => do getAttribute call (← contractsFor call p) "contract_method"
  let named := (snapshot.map fun v => ("snapshot", v)).toList ++
    (mode.map fun v => ("mode", v)).toList
  let decorator ← call wrap [] named
  call decorator [function] []

mutual

/-- The value of an expression. -/
def evalExpr (call : Caller) (scope : Ref) : Expr → Act Value
  | .null => return .null
  | .bool b => return .bool b
  | .int n => return .int n
  | .float x => newFloat x
  | .text s => return .text s
  | .bytes b => return .bytes b
  | .list items => do allocValue (.list (← evalList call scope items))
  | .tuple items => do allocValue (.tuple (← evalList call scope items))
  | .dict entries => do allocValue (.dict (← evalEntries call scope [] entries))
  | .name x => lookupName scope x
  | .attribute e name => do getAttribute call (← evalExpr call scope e) name
  | .call callee args named => do
    let f ← evalExpr call scope callee
    let args ← evalList call scope args
    call f args (← evalNamed call scope named)
  | .binary o a b => do
    let x ← evalExpr call scope a
    let y ← evalExpr call scope b
    if o == .same && (makesAnew a || makesAnew b) && !isKeptOnce x then return .bool false
    else applyOperator call o x y
  | .allOf operands => evalAll call scope operands
  | .anyOf operands => evalAny call scope operands
  | .negate e => do return .bool (!(← truth call (← evalExpr call scope e)))
  | .function name params body => allocValue (.closure name params body scope)
  | .fresh cls fields => do
    let cls ← evalExpr call scope cls
    newObject call cls (← evalNamed call scope fields)
  | .probe p => allocValue (.probe p)
  | .device name run invoke => do
    let run ← evalOption call scope run
    newDevice name run (← evalOption call scope invoke)
  | .deviceClass name run => do newDeviceClass name (← evalOption call scope run) scope

/-- The value of an expression that may be absent. -/
def evalOption (call : Caller) (scope : Ref) : Option Expr → Act (Option Value)
  | none => return none
  | some e => do return some (← evalExpr call scope e)

/-- The values of expressions. -/
def evalList (call : Caller) (scope : Ref) : List Expr → Act (List Value)
  | [] => return []
  | e :: rest => do
    let v ← evalExpr call scope e
    return v :: (← evalList call scope rest)

/-- The entries of a dictionary, put in one after the other. -/
def evalEntries (call : Caller) (scope : Ref) (done : List (Value × Value)) :
    List (Expr × Expr) → Act (List (Value × Value))
  | [] => return done
  | (k, e) :: rest => do
    let key ← evalExpr call scope k
    let v ← evalExpr call scope e
    evalEntries call scope (← insertKey call done key v) rest

/-- The values of named expressions. -/
def evalNamed (call : Caller) (scope : Ref) : List (String × Expr) → Act Fields
  | [] => return []
  | (name, e) :: rest => do
    let v ← evalExpr call scope e
    return (name, v) :: (← evalNamed call scope rest)

/-- The first operand that counts as false, or else the last, which is asked as well. -/
def evalAll (call : Caller) (scope : Ref) : List Expr → Act Value
  | [] => return .bool true
  | e :: rest => do
    let v ← evalExpr call scope e
    if !(← truth call v) || rest.isEmpty then return v else evalAll call scope rest

/-- The first operand that counts as true, or else the last, which is asked as well. -/
def evalAny (call : Caller) (scope : Ref) : List Expr → Act Value
  | [] => return .bool false
  | e :: rest => do
    let v ← evalExpr call scope e
    if (← truth call v) || rest.isEmpty then return v else evalAny call scope rest

/-- Carries a statement out. -/
def execStmt (call : Caller) (scope : Ref) : Stmt → Act Flow
  | .eval e => do
    let _ ← evalExpr call scope e
    return .next
  | .bind x e => do
    bindName scope x (← evalExpr call scope e)
    return .next
  | .setField target field e => do
    let t ← evalExpr call scope target
    setAttribute call t field (← evalExpr call scope e)
    return .next
  | .deleteField target field => do
    deleteAttribute call (← evalExpr call scope target) field
    return .next
  | .emit e => do
    record (.emit (← answer call (← evalExpr call scope e)))
    return .next
  | .give e => do return .returned (← evalExpr call scope e)
  | .branch condition yes no => do
    if ← truth call (← evalExpr call scope condition) then execBlock call scope yes
    else execBlock call scope no
  | .loop x source body => do
    let source ← evalExpr call scope source
    through call source .next fun _ v => do
      bindName scope x v
      match ← execBlock call scope body with
      | .next => return .more .next
      | .returned w => return .enough (.returned w)
  | .raise e cause => do
    let v ← evalExpr call scope e
    match ← evalOption call scope cause with
    | none => do
      let e ← asFault call v "exceptions must derive from BaseException"
      launch e
      raise e
    | some c => do
      let e ← asFault call v "exceptions must derive from BaseException"
      let cause ← asCause call c
      launch e
      raiseFrom e cause
  | .reraise => raiseAgain
  | .attempt body caught x handler => do
    let caught ← caught.mapM (lookupName scope)
    match ← attempt (execBlock call scope body) with
    | .ok flow => return flow
    | .error e =>
      if ← whileHandling e (isCaught e caught) then
        whileHandling e do
          bindName scope x (.ref e)
          execBlock call scope handler
      else rethrow e
  | .classDef name qualified base fields invariant methods => do
    let base ← evalOption call scope base
    let invariant ← evalInvariant call scope invariant
    let methods ← evalMethods call scope methods
    let above ← match base with
      | none => pure none
      | some v => pure (some (← baseFrom [v]))
    let defaults ← fields.mapM fun (field, e) => do
      return (field, ← allocValue (.closure field [] [.give e] scope))
    let own := Fields.ofList ((invariant.map fun v => ("invariant", v)).toList ++ methods)
    let c ← makeClass call ⟨name, qualified, above, own, defaults⟩
    bindName scope name (.cls c)
    return .next

/-- Carries statements out until one returns. -/
def execBlock (call : Caller) (scope : Ref) : List Stmt → Act Flow
  | [] => return .next
  | s :: rest => do
    match ← execStmt call scope s with
    | .returned v => return .returned v
    | .next => execBlock call scope rest

/-- The invariant of a class definition. -/
def evalInvariant (call : Caller) (scope : Ref) : InvariantDef → Act (Option Value)
  | .absent => return none
  | .attribute e => do return some (← evalExpr call scope e)
  | .static e => do return some (← allocValue (.static (← evalExpr call scope e)))
  | .property e => do return some (← allocValue (.property (← evalExpr call scope e)))

/-- The methods of a class definition. -/
def evalMethods (call : Caller) (scope : Ref) : List MethodDef → Act Fields
  | [] => return []
  | m :: rest => do
    let own ← evalMethod call scope m
    return own :: (← evalMethods call scope rest)

/-- A method of a class definition under its name. -/
def evalMethod (call : Caller) (scope : Ref) : MethodDef → Act (String × Value)
  | .plain name params body => do
    return (name, ← allocValue (.closure name params body scope))
  | .contracted name params body snapshot mode via => do
    let function ← allocValue (.closure name params body scope)
    let snapshot ← evalOption call scope snapshot
    let mode ← evalOption call scope mode
    let via ← evalOption call scope via
    return (name, ← contractedMethod call function snapshot mode via)

end

end Covenant.Act
