import Covenant.CommandLine.Usage
import Covenant.Session.Inspect

/-!
Carrying a command line out: what is written to the two channels, the exit code, and the fault that
nothing handled, if there was one.
-/

namespace Covenant.CommandLine

open Covenant.Session

/-- How a command ended. -/
structure Exit where
  code : Nat
  out : String
  err : String
  fault : Option FaultAnswer

/-- The line for a log record. -/
def logLine (level : Level) (logger : Logger) (message : String) : String :=
  level.name ++ " " ++ logger.name ++ ": " ++ message ++ "\n"

/-- The rank of a stored log level. -/
def thresholdOf : String → Nat
  | "debug" => Level.debug.rank
  | "info" => Level.info.rank
  | "warning" => Level.warning.rank
  | _ => Level.error.rank

/-- The log lines of a trace from a threshold on. -/
def logText (threshold : Nat) (trace : List Entry) : String :=
  String.join (trace.filterMap fun e =>
    match e with
    | .log level logger message =>
      if threshold ≤ level.rank then some (logLine level logger message) else none
    | _ => none)

/-- What the program shows of its profile and settings. -/
structure Info where
  profile : Profile
  configured : String
  debug : Bool
  optimize : Nat
  emitSpanEvents : Bool
  deriving Repr, DecidableEq

/-- What there is to show. -/
def infoOf (m : Machine) (s : Settings) : Info :=
  ⟨m.active, s.profile, !m.optimized, if m.optimized then 1 else 0, s.emitSpanEvents⟩

/-- The information as plain lines. -/
def Info.plain (i : Info) : String :=
  "Profile:          " ++ i.profile.text ++ "\nConfigured:       " ++ i.configured ++
    "\n__debug__:        " ++ Act.truthText i.debug ++ "\nOptimize level:   " ++
    toString i.optimize ++ "\nSpan events:      " ++ Act.truthText i.emitSpanEvents ++ "\n"

/-- The information as a JSON object. -/
def Info.json (i : Info) : String :=
  let flag (b : Bool) : String := if b then "true" else "false"
  "\x7b\n  \"profile\": \"" ++ i.profile.text ++ "\",\n  \"configured\": \"" ++ i.configured ++
    "\",\n  \"debug\": " ++ flag i.debug ++ ",\n  \"optimize\": " ++ toString i.optimize ++
    ",\n  \"emit_span_events\": " ++ flag i.emitSpanEvents ++ "\n\x7d\n"

/-- A demo that is replaced by one that fails: its name, and the class and message of the fault. -/
structure Broken where
  demo : String
  cls : String
  message : String
  deriving Repr, DecidableEq

/-- The lines of a demo. -/
def demoLines (broken : List Broken) (name : String) : Act (List String) := do
  match broken.find? (·.demo == name) with
  | some b => do
    let cls ← Act.lookupName globalScope b.cls
    let v ← Act.call cls [.text b.message] []
    Act.raise (← Act.asFault Act.call v "exceptions must derive from BaseException")
  | none =>
    match name with
    | "queue" => Act.queueDemo Act.call
    | _ => Act.bankDemo Act.call

/-- The text of lines. -/
def linesText (lines : List String) : String :=
  String.join (lines.map (· ++ "\n"))

/-- How a fault ends the program: a violation with a message, and the requests to stop in their own
ways. -/
def endBy (name : String) (out : String) (e : Ref) : Act Exit := do
  let cls ← Act.faultClassOf e
  if cls.isA .violation then
    let text := "Error: Contract violation in '" ++ name ++ "': " ++
      (← Act.shown Act.call (.ref e)) ++ "\n"
    return ⟨1, out, text, none⟩
  else if cls.isA .keyboardInterrupt then return ⟨1, out, "\nAborted!\n", none⟩
  else if cls.isA .systemExit then
    return ⟨1, out ++ (← Act.plainText Act.call (.ref e)) ++ "\n", "", none⟩
  else return ⟨1, out, "", some (← Act.faultAnswer Act.call e)⟩

/-- Runs demos one after the other, with an empty line between their reports. -/
def runDemos (broken : List Broken) : (out : String) → List String → Act Exit
  | out, [] => return ⟨0, out, "", none⟩
  | out, name :: rest => do
    let out := out ++ (if out.isEmpty then "" else "\n") ++ "--> Running '" ++ name ++ "'\n"
    match ← Act.attempt (demoLines broken name) with
    | .ok lines => runDemos broken (out ++ linesText lines) rest
    | .error e => endBy name out e

/-- Carries a task out. -/
def perform (broken : List Broken) : Task → Act Exit
  | .showHelp c => return ⟨0, c.help, "", none⟩
  | .showVersion => return ⟨0, "dbcore, version " ++ Script.version ++ "\n", "", none⟩
  | .showInfo json => do
    let i ← Act.read (infoOf · (← Act.currentSettings))
    return ⟨0, if json then i.json else i.plain, "", none⟩
  | .runDemos names => runDemos broken "" names

/-- Carries a task out; what is logged from the configured level on comes first on the second
channel. -/
def performLogged (broken : List Broken) (task : Task) : StateM Machine Exit := do
  let report ← observe do
    let s ← Act.currentSettings
    return (s.logLevel, ← perform broken task)
  match report.result with
  | .ok (level, e) =>
    return { e with err := logText (thresholdOf level) report.trace ++ e.err }
  | .error f => return ⟨1, "", "", some f⟩

/-- Carries a command line out. -/
def run (broken : List Broken) (words : List String) : StateM Machine Exit :=
  match words with
  | [] => return ⟨2, "", Command.program.help, none⟩
  | _ =>
    match readTask words with
    | .ok task => performLogged broken task
    | .error (c, e) => return ⟨2, "", c.complaint e, none⟩

end Covenant.CommandLine
