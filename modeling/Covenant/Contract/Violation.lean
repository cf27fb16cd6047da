import Covenant.Config.Settings
import Covenant.Report

/-!
Violations: what they carry and how they are reported.

A violation that is about to be raised is reported once: a warning is logged and, where the
settings ask for it and the current span records, an event is added to the span. Reporting reads
the settings in effect, so it can itself fail if they cannot be built.
-/

namespace Covenant.Act

/-- A new violation of an initial class with a message. -/
def newViolation (cls : FaultClass) (message : Value) : Act Ref :=
  alloc (.fault (.fresh (.known (.fault cls)) [message] [("message", message)]))

/-- The message of a violated invariant. -/
def invariantMessage (call : Caller) (subjectType checkpoint detail : Value) : Act String := do
  let subject ← shown call subjectType
  let place ← shown call (← getAttribute call checkpoint "value")
  return "Invariant of " ++ subject ++ " violated on " ++ place ++ ": " ++ (← shown call detail)

/-- The fields of a violated invariant: whose it is, where it was checked, what was wrong, and the
violation behind it, if there is one. -/
def invariantFields (call : Caller) (subjectType checkpoint detail cause : Value) :
    Act (Value × Fields) := do
  let message := Value.text (← invariantMessage call subjectType checkpoint detail)
  return (message, [("subject_type", subjectType), ("checkpoint", checkpoint), ("detail", detail),
    ("cause", cause), ("message", message)])

/-- A new violation of an invariant. -/
def newInvariantError (call : Caller) (subjectType checkpoint detail cause : Value) : Act Ref := do
  let (message, fields) ← invariantFields call subjectType checkpoint detail cause
  alloc (.fault (.fresh (.known (.fault .invariantError)) [message] fields))

/-- The name of the event that reports a violation. -/
def violationEvent : String := "dbc.contract.violation"

/-- A value in words, as it is now. Whoever reads the words finds them, so finding them is no part of
what the program does; a value that has none shows as nothing. -/
def inWords (call : Caller) (v : Value) : Act Answer :=
  read fun m =>
    match (answer call v m).1 with
    | .done a => a
    | _ => .null

/-- Adds an event to the current span if it records. The span takes the data in as they are and asks
nothing of them. Nothing else depends on the span. -/
def addSpanEvent (call : Caller) (name attributes : Value) : Act Unit := do
  match ← read Machine.span with
  | .recording =>
    let name ← inWords call name
    match attributes with
    | .ref r =>
      match ← load r with
      | .dict entries =>
        let attributes ← entries.mapM fun (k, v) => do
          let key ← inWords call k
          return (key, ← inWords call v)
        record (.event name attributes)
      | _ => record (.event name [])
    | _ => record (.event name [])
  | _ => pure ()

/-- Reports a violation on the current span. Violations are only raised by checks, so the profile
is always the checked one. -/
def emitViolation (call : Caller) (e : Value) : Act Unit := do
  let settings := Value.config (← getConfig [])
  if ← truth call (← getAttribute call settings "emit_span_events") then do
    let kind ← getAttribute call (← getAttribute call e "kind") "value"
    let message ← getAttribute call e "message"
    let common : Fields :=
      [("dbc.kind", kind), ("dbc.message", message), ("dbc.profile", .text Profile.checked.text)]
    let isInvariant ← read fun m => m.isSubclass (m.classOf e) (.known (.fault .invariantError))
    let own ← if isInvariant then do
        let subject ← getAttribute call e "subject_type"
        let place ← getAttribute call (← getAttribute call e "checkpoint") "value"
        pure [("dbc.subject_type", subject), ("dbc.checkpoint", place)]
      else pure []
    let attributes ← allocValue (.dict ((common ++ own).map fun (name, v) => (.text name, v)))
    addSpanEvent call (.text violationEvent) attributes

/-- Reports a violation that is about to be raised. -/
def reportViolation (call : Caller) (e : Value) : Act Unit := do
  let kind ← getAttribute call (← getAttribute call e "kind") "value"
  let message ← getAttribute call e "message"
  let kind ← plainText call kind
  log .warning .assertions ("Contract " ++ kind ++ " violated: " ++ (← plainText call message))
  emitViolation call e

end Covenant.Act
