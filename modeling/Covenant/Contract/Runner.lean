import Covenant.Contract.Invariant
import Covenant.Object.Key

/-!
Runners: a body between the entry check and the exit check of a subject's invariant.

A strict run makes the exit check whether the body returned or failed in an ordinary way; an
error-tolerant run makes it only if the body returned. Violations and faults that are not
ordinary fly through both at once, and nothing that a body changed is taken back.
-/

namespace Covenant

/-- What is run under a contract: a function of the old state and of the subject. -/
abbrev Body := Value → Value → Act Value

namespace Act

/-- Whether a fault is ordinary: an exception that is no violation. -/
def isOrdinary (e : Ref) : Act Bool := do
  let cls ← faultClassOf e
  return cls.isA .exception && !cls.isA .violation

/-- Runs a body with the exit check also after an ordinary fault, which flies on if the check
passes. -/
def runStrict (call : Caller) (subject old : Value) (body : Body) : Act Value := do
  checkAt call subject .entry
  match ← attempt (body old subject) with
  | .ok result =>
    checkAt call subject .exit
    return result
  | .error e =>
    if ← isOrdinary e then whileHandling e (checkAt call subject .exit)
    rethrow e

/-- Runs a body with the exit check only if it returned. -/
def runErrorTolerant (call : Caller) (subject old : Value) (body : Body) : Act Value := do
  checkAt call subject .entry
  let result ← body old subject
  checkAt call subject .exit
  return result

/-- Runs a body without any check. -/
def runUnchecked (subject old : Value) (body : Body) : Act Value :=
  body old subject

/-- Raises the fault of a value that stands for no member of an enumeration. -/
def failMember {α : Type} (call : Caller) (e : Enumeration) (v : Value) : Act α := do
  fail .valueError ((← quotedText call v) ++ " is not a valid " ++ e.title)

/-- The first of some members whose text is equal to a value. -/
def memberEqualTo? (call : Caller) (v : Value) : List Member → Act (Option Member)
  | [] => return none
  | m :: rest => do
    if ← holds call .eq (.text m.text) v then return some m else memberEqualTo? call v rest

/-- The member of an enumeration that a value which is no text stands for. Members are found by the
hash of their text, and only a value without a hash is compared with them. -/
def foreignMember? (call : Caller) (e : Enumeration) (v : Value) : Act (Option Member) := do
  match ← attempt (hash call v) with
  | .ok _ => return none
  | .error fault =>
    if (← faultClassOf fault).isA .typeError then memberEqualTo? call v e.members
    else rethrow fault

/-- The member of an enumeration that a value stands for: the member itself or its text. -/
def enumMember (call : Caller) (e : Enumeration) (v : Value) : Act Member := do
  match v.text? with
  | some s =>
    match e.ofText? s with
    | some m => return m
    | none => failMember call e v
  | none =>
    match ← foreignMember? call e v with
    | some m => return m
    | none => failMember call e v

/-- A mode as it is stored: a text is read as a mode and has to be one; any other value is kept. -/
def coerceMode (call : Caller) (mode : Value) : Act Value := do
  if mode.text?.isSome then return .member (← enumMember call .mode mode) else return mode

/-- The mode of enforcement that a stored mode selects. Only the member for strict mode selects
strict runs. -/
def modeOf (mode : Value) : Mode :=
  if mode.same (.member (.mode .strict)) then .strict else .errorTolerant

/-- Runs a body in the given mode. -/
def runIn (call : Caller) (mode : Mode) (subject old : Value) (body : Body) : Act Value :=
  match mode with
  | .strict => runStrict call subject old body
  | .errorTolerant => runErrorTolerant call subject old body

/-- Runs a body under a contract in a mode given as a value. -/
def runContract (call : Caller) (subject old : Value) (body : Body) (mode : Value) :
    Act Value := do
  runIn call (modeOf (← coerceMode call mode)) subject old body

/-- Runs a body under the contract of a profile. -/
def runUnder (call : Caller) (p : Profile) (subject old : Value) (body : Body) (mode : Value) :
    Act Value :=
  match p with
  | .checked => runContract call subject old body mode
  | .unchecked => runUnchecked subject old body

end Act

end Covenant
