import Covenant.Contract.Violation
import Covenant.Object.Render

/-!
Checks: the assertion primitives, each for preconditions and for postconditions.

A check with a plain condition, one with a validator, one whose message is formatted only when the
check fails, and one that shows the text of the condition. The two kinds of violation share every
definition and differ in `Side` alone. What is wrong with the arguments comes first, before
anything is asked of them.
-/

namespace Covenant

/-- The class of the violation that a failed check raises. -/
def Side.faultClass : Side → FaultClass
  | .pre => .preconditionError
  | .post => .postconditionError

/-- What a check is called in its texts about wrong arguments. -/
def Side.verb : Side → String
  | .pre => "require"
  | .post => "ensure"

/-- The word for what is checked. -/
def Side.title : Side → String
  | .pre => "Precondition"
  | .post => "Postcondition"

/-- Whether a value is a text. -/
def Value.isText (v : Value) : Bool :=
  v.text?.isSome

namespace Act

/-- The function behind a validator. A `run` that can be called comes before calling the validator
itself; a class that has one is refused, since an object of it was meant. -/
def asPredicate (call : Caller) (validator : Value) : Act Value := do
  match ← getAttribute? call validator "run", validator with
  | some run, .cls c =>
    if ← isCallable run then
      fail .typeError
        ("Validator " ++ (← read (·.className c)) ++ " is a class; pass an instance")
    else return validator
  | none, .cls _ => return validator
  | some run, _ => if ← isCallable run then return run else itself
  | none, _ => itself
where
  /-- The validator itself, if it can be called. -/
  itself : Act Value := do
    if ← isCallable validator then return validator
    else
      fail .typeError ("Validator must be callable or expose a 'run' method, got " ++
        (← typeName validator))

/-- Raises the violation of a failed check, after reporting it. -/
def failCheck (call : Caller) (side : Side) (message : Value) : Act Unit := do
  let e ← newViolation side.faultClass message
  reportViolation call (.ref e)
  raise e

/-- Checks a condition. -/
def checkCondition (call : Caller) (side : Side) (condition message : Value) : Act Unit := do
  if message.isText then
    if ← truth call condition then pure () else failCheck call side message
  else
    fail .typeError (side.verb ++ "(condition, message) expects a str message, got " ++
      (← typeName message) ++ "; the validator form is " ++ side.verb ++
      "(value, validator, message)")

/-- Checks a value by a validator. -/
def checkValue (call : Caller) (side : Side) (value validator message : Value) : Act Unit := do
  if message.isText then
    let predicate ← asPredicate call validator
    let verdict ← call predicate [value] []
    if ← truth call verdict then pure () else failCheck call side message
  else
    fail .typeError (side.verb ++ "(value, validator, message) expects a str message, got " ++
      (← typeName message))

/-- A template filled in. Anything but a text is asked for a way of its own to format. -/
def fillIn (call : Caller) (template : Value) (args : List Value) (named : Fields) :
    Act Value := do
  match template with
  | .text s => return .text (← render call s args named)
  | _ => call (← getAttribute call template "format") args named

/-- Checks a condition; the message is formatted only if it does not hold. -/
def checkFormatted (call : Caller) (side : Side) (condition template : Value) (args : List Value)
    (named : Fields) : Act Unit := do
  if ← truth call condition then pure ()
  else failCheck call side (← fillIn call template args named)

/-- Checks a condition; the message shows the text of the condition. -/
def checkContext (call : Caller) (side : Side) (condition expression : Value) : Act Unit := do
  if ← truth call condition then pure ()
  else do
    let text ← shown call expression
    failCheck call side (.text (side.title ++ " failed: " ++ text))

end Act

end Covenant
