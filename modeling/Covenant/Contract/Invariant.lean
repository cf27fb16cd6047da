import Covenant.Contract.Violation

/-!
Invariants: how the invariant of a class is found, and what comes of checking it.

Which function a class has as its invariant is settled once, when it is first asked for. Checking
an object whose class has none does nothing at all.
-/

namespace Covenant.Act

/-- The attribute of a class, own or inherited, as it is reached through the class. What is missing
only because reaching it says so counts as missing. -/
def inherited? (call : Caller) (c : ClassRef) (name : String) : Act (Option Value) := do
  match ← read (·.classAttribute? c name) with
  | some found =>
    match ← attempt (throughClass call c found) with
    | .ok x => return some x
    | .error e =>
      if (← faultClassOf e).isA .attributeError then return none else rethrow e
  | none => return none

/-- The invariant that a class has now, if it is something that can be called. -/
def currentInvariant? (call : Caller) (c : ClassRef) : Act (Option Value) := do
  match ← inherited? call c "invariant" with
  | some candidate => if ← isCallable candidate then return some candidate else return none
  | none => return none

/-- The invariant of a class, as it was when it was first asked for. -/
def findInvariant (call : Caller) (c : ClassRef) : Act (Option Value) := do
  match (← read Machine.lookups).find? (·.1 == c) with
  | some (_, found) => return found
  | none =>
    let found ← currentInvariant? call c
    update fun m => { m with lookups := (c, found) :: m.lookups }
    return found

/-- Raises the violation of an invariant that gave `false`. -/
def failFalse (call : Caller) (subjectType checkpoint : Value) : Act Unit := do
  let e ← newInvariantError call subjectType checkpoint (.text "invariant returned False") .null
  reportViolation call (.ref e)
  raise e

/-- What becomes of a fault of an invariant: a violation that does not name a subject yet is
replaced by one that names this one; every other fault flies on. -/
def blame (call : Caller) (subjectType checkpoint : Value) (e : Ref) : Act Unit := do
  let cls ← faultClassOf e
  if cls.isA .violation && !cls.isA .invariantError then
    whileHandling e do
      let detail ← getAttribute call (.ref e) "message"
      let replacement ← newInvariantError call subjectType checkpoint detail (.ref e)
      reportViolation call (.ref replacement)
      raiseFrom replacement (some e)
  else rethrow e

/-- Checks the invariant of an object, if its class has one. It fails by a violation or by giving
`false`; every other result is good. -/
def checkInvariant (call : Caller) (subject checkpoint : Value) : Act Unit := do
  let c ← classOf subject
  match ← findInvariant call c with
  | none => pure ()
  | some invariant =>
    let subjectType ← read (·.qualifiedName c)
    let place ← getAttribute call checkpoint "value"
    log .debug .invariant
      ("Checking invariant of " ++ subjectType ++ " on " ++ (← plainText call place))
    match ← attempt (call invariant [subject] []) with
    | .error e => blame call (.text subjectType) checkpoint e
    | .ok outcome =>
      if outcome.same (.bool false) then failFalse call (.text subjectType) checkpoint
      else pure ()

/-- Checks the invariant of an object at one of the two checkpoints of a contract. -/
def checkAt (call : Caller) (subject : Value) (c : Checkpoint) : Act Unit :=
  checkInvariant call subject (.member (.checkpoint c))

end Covenant.Act
