import Covenant.Session.Start

/-!
Running scripts: single calls, validators tried on values, and programs step by step.
-/

namespace Covenant.Session

open Covenant.Script

/-- The value of an expression among the global names. -/
def evaluate (e : Expr) : Act Value :=
  Act.evalExpr Act.call globalScope e

/-- Calls the function of a global name. -/
def callGlobal (function : String) (args : List Expr) (named : List (String × Expr)) :
    StateM Machine (Report Answer) :=
  observeValue (evaluate (.call (.name function) args named))

/-- What trying a validator showed: whether it fits the structural type of validators, whether a
predicate stands behind it, whether that is the validator itself, and what the predicate gave for
each value. -/
structure Trial where
  isValidator : Bool
  resolved : Report Unit
  same : Bool
  calls : List (Report Answer)

/-- Tries a validator on values. -/
def tryValidator (validator : Expr) (values : List Expr) : StateM Machine Trial := do
  let v := (← silently (evaluate validator)).getD .null
  let fits := (← silently (Act.isInstance Act.call v (.cls (.known .validator)))).getD false
  let predicate ← observe (Act.asPredicate Act.call v)
  let resolved : Report Unit := ⟨predicate.result.map fun _ => (), predicate.trace⟩
  match predicate.result with
  | .error _ => return ⟨fits, resolved, false, []⟩
  | .ok p => do
    let mut calls := []
    for e in values do
      calls := calls ++ [← observeValue do Act.call p [← evaluate e] []]
    return ⟨fits, resolved, p.same v, calls⟩

/-- What one step of a program showed: how it ended, and the fields of the objects of script classes
that global names stand for. -/
structure Step where
  report : Report Answer
  objects : List (String × List (String × Answer))

/-- Carries out one statement of a program; an expression gives its value. -/
def runStatement (s : Stmt) : Act Value := do
  match s with
  | .eval e => evaluate e
  | s => do
    let _ ← Act.execStmt Act.call globalScope s
    return .null

/-- The fields of a value that is an object of a script class. -/
def objectFields? (v : Value) : Act (Option (List (String × Answer))) := do
  match v with
  | .ref r =>
    match ← Act.load r with
    | .object c fields =>
      if ← Act.read fun m => (m.lineage c).contains (.known .programObject) then
        return some (← Act.answerNamed Act.call fields)
      else return none
    | _ => return none
  | _ => return none

/-- The objects of script classes among named values. -/
def objectsAmong : Fields → Act (List (String × List (String × Answer)))
  | [] => return []
  | (name, v) :: rest => do
    match ← objectFields? v with
    | some fields => return (name, fields) :: (← objectsAmong rest)
    | none => objectsAmong rest

/-- The objects of script classes that global names stand for. -/
def globalObjects : Act (List (String × List (String × Answer))) := do
  match ← Act.load globalScope with
  | .scope fields _ => objectsAmong fields
  | _ => return []

/-- Runs a program step by step; a fault ends a step and not the program. -/
def runProgram (steps : List Stmt) : StateM Machine (List Step) :=
  steps.mapM fun s => do
    let report ← observeValue (runStatement s)
    return ⟨report, (← silently globalObjects).getD []⟩

end Covenant.Session
