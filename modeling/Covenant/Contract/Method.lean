import Covenant.Contract.Runner
import Covenant.Signature

/-!
Contracted methods: functions that are called with a snapshot of the state before the call and run
under a contract.
-/

namespace Covenant.Act

/-- What turns functions into contracted ones. The mode is settled here, for every later call. -/
def contractMethod (call : Caller) (p : Profile) (snapshot mode : Value) : Act Value := do
  allocValue (.decorator snapshot (← coerceMode call mode) p)

/-- A function as it is called: with its arguments and its named arguments. -/
abbrev Function := List Value → Fields → Act Value

/-- Calls a method under a contract: the snapshot is taken first, and the method is given the
subject, the snapshot, and the other arguments. -/
def callMethod (call : Caller) (p : Profile) (method : Function) (snapshot : Option Function)
    (mode self : Value) (args : List Value) (named : Fields) : Act Value := do
  let old ← match snapshot with
    | none => pure .null
    | some take => take (self :: args) named
  runUnder call p self old (fun old subject => method (subject :: old :: args) named) mode

/-- Calls a contracted function. -/
def callContracted (call : Caller) (p : Profile) (function snapshot mode self : Value)
    (args : List Value) (named : Fields) : Act Value :=
  let take : Option Function := match snapshot with
    | .null => none
    | s => some (call s)
  callMethod call p (call function) take mode self args named

end Covenant.Act
