import Covenant.Session.Script

/-!
The demo objects in use: accounts under names, and a queue, with their fields shown after every
step.
-/

namespace Covenant.Session

open Covenant.Script

/-- A step of a run on accounts. -/
inductive BankStep where
  | new (name : String) (number : Expr)
  /-- Calls an operation of an account. -/
  | operate (name operation : String) (args : List Expr) (named : List (String × Expr))
  | transfer (sender recipient : String) (amount : Expr)
  | set (name field : String) (e : Expr)
  | quoted (name : String)

/-- The account under a name. -/
def account (accounts : Fields) (name : String) : Act Value := do
  match accounts.get? name with
  | some v => return v
  | none => Act.failWith .keyError [.text name]

/-- Calls an operation of an object. -/
def operate (v : Value) (operation : String) (args : List Value) (named : Fields) : Act Value := do
  Act.call (← Act.getAttribute Act.call v operation) args named

/-- Carries out a step; gives its value and the accounts after it. -/
def runBankStep (accounts : Fields) : BankStep → Act (Answer × Fields)
  | .new name number => do
    let v ← Act.call (.cls (.known .account)) [← evaluate number] []
    return (.null, accounts.set name v)
  | .operate name operation args named => do
    let v ← account accounts name
    let args ← Act.evalList Act.call globalScope args
    let named ← Act.evalNamed Act.call globalScope named
    return (← Act.answer Act.call (← operate v operation args named), accounts)
  | .transfer sender recipient amount => do
    let v ← account accounts sender
    let other := (accounts.get? recipient).getD .null
    return (← Act.answer Act.call (← operate v "transfer" [other, ← evaluate amount] []), accounts)
  | .set name field e => do
    let v ← account accounts name
    Act.setAttribute Act.call v field (← evaluate e)
    return (.null, accounts)
  | .quoted name => do
    let v ← account accounts name
    return (.text (← Act.quotedText Act.call v), accounts)

/-- Some fields of an object as answers. -/
def fieldAnswers (names : List String) (v : Value) : Act (List Answer) :=
  names.mapM fun name => do
    match ← Act.getAttribute? Act.call v name with
    | some x => Act.answer Act.call x
    | none => return .null

/-- The fields of an account that are shown. -/
def accountFields : List String :=
  ["account_number", "balance", "is_active", "transaction_count"]

/-- Runs steps on accounts; after each, the fields of all accounts are shown. -/
def runBank : (accounts : Fields) → List BankStep →
    StateM Machine (List (Report Answer × List (String × List Answer)))
  | _, [] => return []
  | accounts, s :: rest => do
    let report ← observe (runBankStep accounts s)
    let after := match report.result with
      | .ok (_, accounts) => accounts
      | .error _ => accounts
    let shown ← after.mapM fun (name, v) => do
      return (name, (← silently (fieldAnswers accountFields v)).getD [])
    return (⟨report.result.map (·.1), report.trace⟩, shown) :: (← runBank after rest)

/-- A step of a run on a queue. -/
inductive QueueStep where
  | enqueue (e : Expr)
  | dequeue
  | length
  | set (field : String) (e : Expr)
  | invariant

/-- Carries out a step on a queue. -/
def runQueueStep (queue : Value) : QueueStep → Act Value
  | .enqueue e => do operate queue "enqueue" [← evaluate e] []
  | .dequeue => operate queue "dequeue" [] []
  | .length => do return .int (← Act.length Act.call queue)
  | .set field e => do
    Act.setAttribute Act.call queue field (← evaluate e)
    return .null
  | .invariant => operate queue "invariant" [] []

/-- The fields of a queue that are shown. -/
def queueFields : List String :=
  ["capacity", "items", "head", "tail", "count"]

/-- Makes a queue and runs steps on it; after each, its fields are shown. If it cannot be made there
are no steps. -/
def runQueue (capacity : Expr) (steps : List QueueStep) :
    StateM Machine (Report Answer × List (Report Answer × List Answer)) := do
  let made ← observe do Act.call (.cls (.known .queue)) [← evaluate capacity] []
  match made.result with
  | .error f => return (⟨.error f, made.trace⟩, [])
  | .ok queue => do
    let reports ← steps.mapM fun s => do
      let report ← observeValue (runQueueStep queue s)
      return (report, (← silently (fieldAnswers queueFields queue)).getD [])
    return (⟨.ok .null, made.trace⟩, reports)

end Covenant.Session
