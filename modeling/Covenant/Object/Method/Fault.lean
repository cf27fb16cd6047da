import Covenant.Object.Assignment
import Covenant.Object.Start

/-!
The methods of faults.
-/

namespace Covenant.Act

namespace FaultMethod

/-- The name under which a fault keeps its notes. -/
def notesName : String := special "notes"

/-- Adds a note to a fault. -/
def addNote (how : Invocation) (call : Caller) (v : Value) (args : List Value) (named : Fields)
    : Act Value := do
  let note ← onlyArgument (how.title "add_note") args named
  match note.text? with
  | none => fail .typeError ("note must be a str, not '" ++ (← typeName note) ++ "'")
  | some _ =>
    let notes ← match ← getAttribute? call v notesName with
      | some notes => pure notes
      | none => do
        let notes ← allocValue (.list [])
        setAttribute call v notesName notes
        pure notes
    let refuse : Act Value := fail .typeError "Cannot add note: __notes__ is not a list"
    match notes with
    | .ref r =>
      match ← load r with
      | .list _ => do
        appendItem r note
        return .null
      | _ => refuse
    | _ => refuse

/-- Gives fields to a fault from a dictionary. -/
def setState (how : Invocation) (call : Caller) (v : Value) (args : List Value) (named : Fields)
    : Act Value := do
  let refuse : Act Value := fail .typeError "state is not a dictionary"
  match ← onlyArgument (how.title "__setstate__") args named with
  | .null => return .null
  | .ref r =>
    match ← load r with
    | .dict entries => do
      (namedEntries entries).forM fun (name, x) => setAttribute call v name x
      return .null
    | _ => refuse
  | _ => refuse

/-- The problems of a failed validation as dictionaries. -/
def problems (failure : Failure) : Act Value := do
  let each ← failure.problems.mapM fun p => do
    let place ← newTuple (p.location.map .text)
    newFieldDict [("type", .text p.kind), ("loc", place), ("msg", .text p.message)]
  allocValue (.list each)

/-- What a method of a fault gives; nothing if faults have no method of that name. -/
def run? (how : Invocation) (call : Caller) (name : String) (v : Value) (f : Fault)
    (args : List Value) (named : Fields) : Option (Act Value) :=
  match name with
  | "add_note" => some (addNote how call v args named)
  | "with_traceback" => some do
    let trace ← onlyArgument (how.title "with_traceback") args named
    match v with
    | .ref e => changeFaultPart call e (special "traceback") (some trace)
    | _ => pure ()
    return v
  | "__setstate__" => some (setState how call v args named)
  | "__reduce__" => some do
    noArguments (how.title "__reduce__") args named
    let parts ← newTuple f.args
    if (← read (·.faultClass f.cls)).isA .invariantError then
      let given ← ["subject_type", "checkpoint", "detail", "cause"].mapM (getAttribute call v)
      newTuple [.cls f.cls, ← newTuple given]
    else if f.fields.isEmpty then newTuple [.cls f.cls, parts]
    else newTuple [.cls f.cls, parts, ← newFieldDict f.fields]
  | "error_count" => f.failure.map fun failure => do
    noArguments (how.title "error_count") args named
    return .int failure.problems.length
  | "errors" => f.failure.map problems
  | _ => none

end FaultMethod

end Covenant.Act
