import Covenant.Report

/-!
The names that every script knows from the start. The ten primitives stand for those of the active
profile.
-/

namespace Covenant.Script

/-- The names of the ten primitives. -/
def primitiveNames : List String :=
  ["require", "ensure", "requiref", "ensuref", "require_ctx", "ensure_ctx", "run_strict",
    "run_error_tolerant", "run_contract", "contract_method"]

/-- The version that scripts can ask for. -/
def version : String := "0.1.0"

/-- The functions that scripts can call by name, the primitives apart. -/
def functions : List Routine :=
  [.asPredicate, .findInvariant, .checkInvariant, .reportViolation, .emitViolation, .addSpanEvent,
    .getConfig, .resetConfig, .resolveProfile, .contractsFor, .length, .absolute, .all, .any, .sum,
    .quoted, .isInstance, .callable]

/-- The classes of faults that scripts know by name. -/
def faultClasses : List FaultClass :=
  [.baseException, .exception, .keyboardInterrupt, .systemExit, .generatorExit, .stopIteration,
    .arithmeticError, .overflowError, .zeroDivisionError, .lookupError, .keyError, .indexError,
    .valueError, .typeError, .attributeError, .runtimeError, .assertionError, .violation,
    .preconditionError, .postconditionError, .invariantError, .customViolation,
    .dailyLimitExceeded, .rejected, .rejectedSub]

/-- The classes that scripts know by name. -/
def classes : List Known :=
  [.bool, .int, .str, .float, .list, .type, .enumeration .mode, .enumeration .profile,
    .enumeration .kind, .enumeration .checkpoint, .snapshot, .config, .contractSet, .positive,
    .inRange, .longerThan, .validator, .hasInvariant, .account, .queue] ++
    faultClasses.map .fault

/-- What a name stands for from the start. -/
def globalValue? (m : Machine) (name : String) : Option Value :=
  if primitiveNames.contains name then contractPart? m.active name
  else if name == "ACTIVE_PROFILE" then some (.member (.profile m.active))
  else if name == "CHECKED" then some (.bool (m.active == .checked))
  else if name == "__version__" then some (.text version)
  else
    match functions.find? (Act.routineName · == name) with
    | some r => some (.routine r)
    | none => (classes.find? (·.name == name)).map fun k => .cls (.known k)

end Covenant.Script

namespace Covenant.Act

/-- What a name stands for: the nearest scope that has it decides. `steps` bounds the walk. -/
def lookupFrom : (steps : Nat) → (scope : Ref) → (name : String) → Act (Option Value)
  | 0, _, _ => return none
  | steps + 1, scope, name => do
    match ← load scope with
    | .scope fields parent =>
      match fields.get? name, parent with
      | some v, _ => return some v
      | none, some up => lookupFrom steps up name
      | none, none => return none
    | _ => return none

/-- What a name stands for in a scope; a name that stands for nothing is a fault. -/
def lookupName (scope : Ref) (name : String) : Act Value := do
  match ← lookupFrom (← read (·.heap.size)) scope name with
  | some v => return v
  | none =>
    match ← read (Script.globalValue? · name) with
    | some v => return v
    | none => fail .nameError name

/-- Gives a name a value in a scope. -/
def bindName (scope : Ref) (name : String) (v : Value) : Act Unit := do
  match ← load scope with
  | .scope fields parent => store scope (.scope (fields.set name v) parent)
  | _ => pure ()

end Covenant.Act
