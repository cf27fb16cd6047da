import Covenant.Value

/-!
Answers: values as they are reported, detached from the heap. What is recorded in a trace is an
answer, so that a later change of a list does not change what was recorded before.
-/

namespace Covenant

/-- How a fault leads to an earlier one. -/
inductive Link where
  | cause
  | context
  deriving Repr, DecidableEq

/-- The word for a link. -/
def Link.text : Link → String
  | .cause => "cause"
  | .context => "context"

mutual

/-- A reported value. -/
inductive Answer where
  | null
  | bool (b : Bool)
  | int (n : Int)
  | float (x : Float)
  | text (s : String)
  | bytes (b : List UInt8)
  | list (items : List Answer)
  | tuple (items : List Answer)
  | dict (entries : List (Answer × Answer))
  | member (m : Member)
  | fault (f : FaultAnswer)
  | cls (name : String)
  | function (name : String)
  | object (typeName : String)
  | snapshot (fields : List (String × Answer))
  | shown (text : String)
  | contracts (p : Profile)
  | probe (name : String)

/-- A reported fault: its class name, its named details, the problems of a failed validation, and
the faults reached by its links. -/
inductive FaultAnswer where
  | mk (name : String) (details : List (String × Answer)) (failure : Option Failure)
      (chain : List (Link × FaultAnswer))

end

/-- The class name of a reported fault. -/
def FaultAnswer.name : FaultAnswer → String
  | .mk name _ _ _ => name

instance : Inhabited Answer := ⟨.null⟩

instance : Inhabited FaultAnswer := ⟨.mk "" [] none []⟩

/-- How grave a log record is. -/
inductive Level where
  | debug
  | info
  | warning
  | error
  deriving Repr, DecidableEq

/-- The name of a level in capitals. -/
def Level.name : Level → String
  | .debug => "DEBUG"
  | .info => "INFO"
  | .warning => "WARNING"
  | .error => "ERROR"

/-- The rank of a level among the others. -/
def Level.rank : Level → Nat
  | .debug => 10
  | .info => 20
  | .warning => 30
  | .error => 40

/-- The two sources of log records. -/
inductive Logger where
  | assertions
  | invariant
  deriving Repr, DecidableEq

/-- The name of a source of log records. -/
def Logger.name : Logger → String
  | .assertions => "dbcore.assertions"
  | .invariant => "dbcore.invariant"

/-- One entry of a trace: a log record, an event on the current span, the use of a probe, or a
value that a script gave out. -/
inductive Entry where
  | log (level : Level) (logger : Logger) (message : String)
  | event (name : Answer) (attributes : List (Answer × Answer))
  | probe (name what : String)
  | emit (a : Answer)

end Covenant
