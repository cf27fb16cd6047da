import Covenant.Session.Script

/-!
Snapshots in use: made from named values, read, asked to change, and taken out as dictionaries.
-/

namespace Covenant.Session

open Covenant.Script

/-- A use of a snapshot. -/
inductive SnapshotUse where
  | get (field : String)
  | set (field : String) (e : Expr)
  | delete (field : String)
  | entries
  /-- Changes the dictionary that was taken out and takes out another. -/
  | setEntry (key : String) (e : Expr)
  /-- Adds to a list that was read from the snapshot. -/
  | append (field : String) (e : Expr)
  /-- Adds to the list that the snapshot was made from. -/
  | appendSource (field : String) (e : Expr)
  | quoted

/-- Adds an item to the end of a list. -/
def appendItem (target item : Value) : Act Value := do
  match target with
  | .ref r =>
    match ← Act.load r with
    | .list items => do
      Act.store r (.list (items ++ [item]))
      return .null
    | _ => do Act.call (← Act.getAttribute Act.call target "append") [item] []
  | _ => do Act.call (← Act.getAttribute Act.call target "append") [item] []

/-- The fields of a snapshot as a new dictionary. -/
def entriesOf (snapshot : Value) : Act Value :=
  Act.call (.routine .asDict) [snapshot] []

/-- Uses a snapshot that was made from the given fields. -/
def useSnapshot (snapshot : Value) (source : Fields) : SnapshotUse → Act Value
  | .get field => Act.getAttribute Act.call snapshot field
  | .set field e => do
    Act.setAttribute Act.call snapshot field (← evaluate e)
    return .null
  | .delete field => do
    Act.deleteAttribute Act.call snapshot field
    return .null
  | .entries => entriesOf snapshot
  | .setEntry key e => do
    let copy ← entriesOf snapshot
    Act.setItem Act.call copy (.text key) (← evaluate e)
    entriesOf snapshot
  | .append field e => do
    let target ← Act.getAttribute Act.call snapshot field
    appendItem target (← evaluate e)
  | .appendSource field e => do
    match source.get? field with
    | some target => appendItem target (← evaluate e)
    | none => Act.failWith .keyError [.text field]
  | .quoted => do return .text (← Act.quotedText Act.call snapshot)

/-- Makes a snapshot and uses it; without a snapshot there is only the report that it could not be
made. -/
def runSnapshot (fields : List (String × Expr)) (uses : List SnapshotUse) :
    StateM Machine (List (Report Answer)) := do
  let source := Fields.ofList
    ((← silently (Act.evalNamed Act.call globalScope fields)).getD [])
  let made ← observe (Act.newSnapshot source)
  match made.result with
  | .error f => return [⟨.error f, made.trace⟩]
  | .ok snapshot => do
    let reports ← uses.mapM fun u => observeValue (useSnapshot snapshot source u)
    return ⟨.ok .null, made.trace⟩ :: reports

/-- Validates a value as a snapshot. -/
def validateSnapshot (e : Expr) : StateM Machine (Report Answer) :=
  observeValue do Act.validateSnapshot (← evaluate e)

end Covenant.Session
