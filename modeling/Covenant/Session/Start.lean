import Covenant.Script.Call

/-!
Starting a process: the settings are built from the environment once, and the profile that they
select is what the primitives stay bound to. A process whose settings cannot be built does not
start.

What happens in a process is observed action by action: how each one ended and what it recorded.
-/

namespace Covenant.Session

/-- How a process is launched. -/
structure Launch where
  /-- Where settings come from. -/
  surroundings : Surroundings
  optimized : Bool
  span : Span
  deriving Repr, DecidableEq

/-- The scope of the global names. -/
def globalScope : Ref := 0

/-- A machine before anything has run. -/
def Launch.blank (l : Launch) : Machine where
  heap := #[.scope [] none]
  classes := #[]
  patches := []
  lookups := []
  remembered := []
  fitting := []
  attached := []
  handling := none
  configs := #[]
  current := none
  surroundings := l.surroundings
  optimized := l.optimized
  active := .checked
  span := l.span
  trace := []
  showing := []
  marks := 0

/-- Binds the primitives to the profile that the settings select. -/
def bindPrimitives : Act Unit := do
  let p ← Act.selectedProfile Act.call
  Act.update fun m => { m with active := p }

/-- How an observed action ended, and what it recorded. -/
structure Report (α : Type) where
  result : Except FaultAnswer α
  trace : List Entry

/-- What is reported when calls are nested too deep. -/
def depthFault : FaultAnswer :=
  .mk "RecursionError" [("message", .text "maximum recursion depth exceeded")] none []

/-- Runs an action and observes it. What is recorded while its fault is put into words counts as
well. -/
def observe {α : Type} (x : Act α) : StateM Machine (Report α) := fun m =>
  match x { m with trace := [] } with
  | (.done a, m) => (⟨.ok a, m.trace.reverse⟩, m)
  | (.exhausted, m) => (⟨.error depthFault, m.trace.reverse⟩, m)
  | (.raised e, m) =>
    match Act.faultAnswer Act.call e m with
    | (.done f, m) => (⟨.error f, m.trace.reverse⟩, m)
    | (_, m) => (⟨.error depthFault, m.trace.reverse⟩, m)

/-- Runs an action and observes the value that it gives. -/
def observeValue (x : Act Value) : StateM Machine (Report Answer) :=
  observe do Act.answer Act.call (← x)

/-- Runs an action without observing it; a fault gives nothing. -/
def silently {α : Type} (x : Act α) : StateM Machine (Option α) := fun m =>
  match x m with
  | (.done a, m) => (some a, m)
  | (_, m) => (none, m)

/-- Starts a process, or gives the fault that kept it from starting. -/
def Launch.start (l : Launch) : Except FaultAnswer Machine :=
  let (report, m) := (observe bindPrimitives).run l.blank
  match report.result with
  | .ok _ => .ok { m with trace := [] }
  | .error f => .error f

end Covenant.Session
