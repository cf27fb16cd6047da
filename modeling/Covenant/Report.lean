import Covenant.Object.Attribute

/-!
Reporting: turning values and faults of the heap into answers.

A fault is reported with its details and with the faults behind it: from each one the walk goes
to the fault it was raised from, or else to the one that was being handled unless that is not to be
shown, and stops before it would come to a fault again.
-/

namespace Covenant.Act

/-- The fault that stands behind another, and how. -/
def behind? (f : Fault) : Option (Link × Ref) :=
  match f.cause, f.context, f.suppressed with
  | some c, _, _ => some (.cause, c)
  | none, some c, false => some (.context, c)
  | none, _, _ => none

/-- The faults behind a fault, nearest first, with the link that leads to each. -/
def faultChain (m : Machine) : (steps : Nat) → (seen : List Ref) → Ref → List (Link × Ref)
  | 0, _, _ => []
  | steps + 1, seen, r =>
    match m.cell r with
    | .fault f =>
      match behind? f with
      | none => []
      | some (link, n) =>
        if seen.contains n then [] else (link, n) :: faultChain m steps (n :: seen) n
    | _ => []

/-- An attribute of a value, nothing if it cannot be read. -/
def attributeOrNull (call : Caller) (v : Value) (name : String) : Act Value := do
  match ← attempt (getAttribute call v name) with
  | .ok x => return x
  | .error _ => return .null

/-- The value that an attribute of a fault, a member of an enumeration, stands for. -/
def memberValue (call : Caller) (r : Ref) (name : String) : Act Value := do
  attributeOrNull call (← attributeOrNull call (.ref r) name) "value"

/-- The details of a fault: its message, the kind of a violation, and what a violated invariant and
an exceeded limit carry. -/
def faultDetails (call : Caller) (answer : Value → Act Answer) (r : Ref) :
    Act (List (String × Answer)) := do
  let f ← loadFault r
  let cls ← faultClassOf r
  let carried (name : String) : Act Answer := do answer (← attributeOrNull call (.ref r) name)
  let message ← if f.failure.isSome then pure [] else do
    pure [("message", Answer.text (← plainText call (.ref r)))]
  let kind ← if cls.isA .violation then do
      pure [("kind", ← answer (← memberValue call r "kind"))]
    else pure []
  let own ←
    if cls.isA .invariantError then do
      let subject ← carried "subject_type"
      let place ← answer (← memberValue call r "checkpoint")
      let detail ← carried "detail"
      let caused := match (← attributeOrNull call (.ref r) "cause"), f.cause with
        | .ref c, some d => c == d
        | _, _ => false
      pure [("subject_type", subject), ("checkpoint", place), ("detail", detail),
        ("has_cause", Answer.bool caused)]
    else if cls.isA .dailyLimitExceeded then do
      let amount ← carried "amount"
      pure [("amount", amount), ("limit", ← carried "limit")]
    else pure []
  return message ++ kind ++ own

/-- A fault as an answer; `answer` gives the answers of the values that it carries. -/
def faultAnswerBy (call : Caller) (answer : Value → Act Answer) (r : Ref) : Act FaultAnswer := do
  let named (r : Ref) : Act (String × List (String × Answer) × Option Failure) := do
    let f ← loadFault r
    let name ← read (·.className f.cls)
    return (name, ← faultDetails call answer r, f.failure)
  let (name, details, failure) ← named r
  let links ← read fun m => faultChain m m.heap.size [r] r
  let chain ← links.mapM fun (link, r) => do
    let (name, details, failure) ← named r
    return (link, FaultAnswer.mk name details failure [])
  return .mk name details failure chain

/-- The answer for an object: a frozen record is shown by its quoted form, any other object by its
class. -/
def objectAnswer (call : Caller) (v : Value) (c : ClassRef) (fields : Fields) : Act Answer := do
  match c, fields.get? "profile" with
  | .known .contractSet, some (.member (.profile p)) => return .contracts p
  | _, _ =>
    if (← read (·.recordNames? c)).isSome then return .shown (← quotedText call v)
    else return .object (← read (·.qualifiedName c))

/-- A value as an answer; `depth` bounds how deep values are nested. -/
def answerWithin (call : Caller) : (depth : Nat) → Value → Act Answer
  | 0, _ => return .null
  | depth + 1, v => do
    let inner := answerWithin call depth
    match v with
    | .null => return .null
    | .bool b => return .bool b
    | .int n => return .int n
    | .float x _ => return .float x
    | .text s => return .text s
    | .bytes b => return .bytes b
    | .member x => return .member x
    | .cls c => return .cls (← read (·.qualifiedName c))
    | .routine _ => return .function (← functionName wrapperDepth v)
    | .contracts p => return .contracts p
    | .config _ => return .object Known.config.name
    | .notImplemented => return .object (← typeName v)
    | .ref r =>
      match ← load r with
      | .list items => return .list (← items.mapM inner)
      | .tuple items => return .tuple (← items.mapM inner)
      | .dict entries =>
        return .dict (← entries.mapM fun (k, v) => do
          let key ← inner k
          return (key, ← inner v))
      | .snapshot fields =>
        return .snapshot (← fields.mapM fun (name, v) => do return (name, ← inner v))
      | .fault _ => return .fault (← faultAnswerBy call inner r)
      | .probe p => return .probe p.name
      | .object c fields => objectAnswer call v c fields
      | .closure .. | .contracted .. | .bound .. | .decorator .. | .alias .. =>
        return .function (← functionName wrapperDepth v)
      | cell => return .object (← read (·.qualifiedName (Machine.cellClass cell)))

/-- How deep values are nested at most that are reported. -/
def reportDepth : Nat := 1000

/-- A value as an answer. -/
def answer (call : Caller) (v : Value) : Act Answer :=
  fun m => answerWithin call (min reportDepth (m.heap.size + 4)) v m

/-- Named values as answers. -/
def answerNamed (call : Caller) (fields : Fields) : Act (List (String × Answer)) :=
  fields.mapM fun (name, v) => do return (name, ← answer call v)

/-- A fault as an answer. -/
def faultAnswer (call : Caller) (r : Ref) : Act FaultAnswer :=
  faultAnswerBy call (answer call) r

end Covenant.Act
