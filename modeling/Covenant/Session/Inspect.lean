import Covenant.Session.Script

/-!
Looking at parts of the library: the contract sets, the enumerations, faults and how they survive
being stored, what a process has bound, and the attributes of the demo package.
-/

namespace Covenant.Session

open Covenant.Script

/-- What a contract set shows: its profile, whether it checks, which primitives are the same
function, whether it is the active set, and what came of an attempt to change it. -/
structure ContractView where
  profile : Profile
  groups : List (List String)
  active : Bool
  change : Option (Report Answer)

/-- The groups of names that stand for the same value. -/
def groupSame (value? : String → Option Value) (names : List String) : List (List String) :=
  let place (groups : List (List String)) (name : String) : List (List String) :=
    let fits (group : List String) : Bool :=
      match group.head?.bind value?, value? name with
      | some a, some b => a.same b
      | _, _ => false
    match groups.findIdx? fits with
    | some i => groups.modify i (· ++ [name])
    | none => groups ++ [[name]]
  names.foldl place []

/-- Looks at the contract set of a profile, and tries to change one of its parts. -/
def viewContracts (profile : Expr) (change : Option String) :
    StateM Machine (Report ContractView) := do
  let found ← observe do Act.contractsFor Act.call (← evaluate profile)
  match found.result with
  | .error f => return ⟨.error f, found.trace⟩
  | .ok (.contracts p) => do
    let changed ← change.mapM fun name =>
      observeValue do
        Act.setAttribute Act.call (.contracts p) name .null
        return .null
    let active := (← get).active
    return ⟨.ok ⟨p, groupSame (contractPart? p) primitiveNames, active == p, changed⟩,
      found.trace⟩
  | .ok _ => return ⟨.error depthFault, found.trace⟩

/-- The member of an enumeration for a value. -/
def viewMember (e : Enumeration) (value : Expr) : StateM Machine (Report Answer) :=
  observeValue do
    return .member (← Act.enumMember Act.call e (← evaluate value))

/-- What a fault shows: how it is reported, its quoted form, its message attribute, its arguments,
and the fault behind it. -/
inductive FaultView where
  | mk (fault : FaultAnswer) (quoted : String) (message : Answer) (args : List Answer)
      (cause : Option FaultView)

/-- Looks at a fault; `depth` bounds how many faults stand behind it. -/
def viewFault : (depth : Nat) → Ref → Act (Option FaultView)
  | 0, _ => return none
  | depth + 1, r => do
    let .mk name details failure _ ← Act.faultAnswer Act.call r
    let quoted ← Act.quotedText Act.call (.ref r)
    let message ← Act.getAttribute Act.call (.ref r) "message"
    let f ← Act.loadFault r
    let args ← f.args.mapM (Act.answer Act.call)
    let cause ← match f.fields.get? "cause" with
      | some (.ref c) => viewFault depth c
      | _ => pure none
    return some (.mk (.mk name details failure []) quoted
      (← Act.answer Act.call message) args cause)

/-- A fault as it is after being stored and read back: it is made again from what was stored.
`depth` bounds how many faults stand behind it. -/
def restored : (depth : Nat) → Ref → Act Ref
  | 0, r => return r
  | depth + 1, r => do
    let f ← Act.loadFault r
    let cls ← Act.faultClassOf r
    let field (name : String) : Value := (f.fields.get? name).getD .null
    if cls.isA .invariantError then do
      let cause ← match field "cause" with
        | .ref c => do pure (.ref (← restored depth c))
        | v => pure v
      let (message, fields) ← Act.invariantFields Act.call (field "subject_type")
        (field "checkpoint") (field "detail") cause
      Act.alloc (.fault (.fresh f.cls [message] fields))
    else do
      let args ←
        if cls.isA .dailyLimitExceeded then do
          let message ← Act.Account.limitMessage Act.call (f.args.headD .null) (.int Act.dailyLimit)
          pure [.text message]
        else pure f.args
      Act.alloc (.fault { Fault.fresh f.cls args f.fields with failure := f.failure })

/-- A fault before and after being stored, and the classes that it belongs to. -/
structure FaultComparison where
  value : FaultView
  stored : FaultView
  belongs : List String

/-- The classes that a fault is compared with. -/
def comparedClasses : List FaultClass :=
  [.preconditionError, .postconditionError, .invariantError, .violation, .assertionError,
    .exception, .valueError]

/-- Makes a fault of a class and looks at it before and after being stored. -/
def viewError (cls : String) (args : List Expr) : StateM Machine (Report FaultComparison) :=
  observe do
    match ← evaluate (.call (.name cls) args []) with
    | .ref r => do
      let m ← Act.read id
      let depth := m.heap.size
      let c ← Act.faultClassOf r
      let value ← viewFault depth r
      let stored ← viewFault depth (← restored depth r)
      match value, stored with
      | some value, some stored =>
        return ⟨value, stored, (comparedClasses.filter c.isA).map (·.name)⟩
      | _, _ => Act.exhaust
    | v => Act.fail .typeError ((← Act.typeName v) ++ " is no fault")

/-- What a started process shows. -/
structure ProcessView where
  active : Profile
  version : String
  bound : List String
  settings : Settings

/-- The primitives whose global name stands for that of the active profile. -/
def boundPrimitives (m : Machine) : List String :=
  primitiveNames.filter fun name =>
    match globalValue? m name, contractPart? m.active name with
    | some a, some b => a.same b
    | _, _ => false

/-- Looks at the process. -/
def viewProcess : StateM Machine (Report ProcessView) :=
  observe do
    let s ← Act.currentSettings
    Act.read fun m => ⟨m.active, version, boundPrimitives m, s⟩

/-- The scenarios by name. -/
def demos : List (String × Routine) :=
  [("queue", .queueDemo), ("bank", .bankDemo)]

/-- An attribute of the demo package. -/
def demoAttribute (name : String) : Act Value := do
  match name with
  | "BoundedQueue" => return .cls (.known .queue)
  | "BankAccount" => return .cls (.known .account)
  | "DailyLimitExceeded" => return .cls (.known (.fault .dailyLimitExceeded))
  | "DEMOS" => Act.allocValue (.dict (demos.map fun (name, r) => (.text name, .routine r)))
  | _ =>
    Act.fail .attributeError
      ("module 'dbcore.demo' has no attribute " ++ Text.quoted name)

/-- Looks an attribute of the demo package up. -/
def viewDemo (name : String) : StateM Machine (Report Answer) :=
  observeValue (demoAttribute name)

end Covenant.Session
