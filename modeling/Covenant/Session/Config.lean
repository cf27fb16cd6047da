import Covenant.Session.Script

/-!
Settings in use: built from all their sources, and the settings in effect over a run of changes.
-/

namespace Covenant.Session

open Covenant.Script

/-- Sets a variable of the environment: in place if it is there, else at the end. -/
def setVariable (environment : List (String × String)) (name value : String) :
    List (String × String) :=
  if environment.any (·.1 == name) then
    environment.map fun p => if p.1 == name then (name, value) else p
  else environment ++ [(name, value)]

/-- Settings together with the profile that they select. -/
structure Resolved where
  settings : Settings
  profile : Profile

/-- Builds settings from keywords, further variables and the text of a settings file. -/
def buildConfig (keywords : List (String × Expr)) (added : List (String × String))
    (file : Option String) : StateM Machine (Report Resolved) := do
  let named := (← silently (Act.evalNamed Act.call globalScope keywords)).getD []
  modify fun m => { m with surroundings := ⟨added.foldl (fun environment p =>
    setVariable environment p.1 p.2) m.surroundings.environment, file⟩ }
  observe do
    let i ← Act.buildSettings named
    let profile ← Act.resolveProfile Act.call (.config i)
    return ⟨← Act.settingsAt i, profile⟩

/-- A step of a run of changes to the settings. -/
inductive ConfigStep where
  | get (keywords : List (String × Expr))
  | reset
  | setVariable (name value : String)
  | unsetVariable (name : String)
  | resolve
  | fail (message : Expr)

/-- What a step gives: settings with their number in the order in which settings were first seen, or
a value. -/
inductive ConfigAnswer where
  | settings (s : Settings) (number : Nat)
  | value (a : Answer)

/-- The number of an item among those seen so far, and those seen with it. -/
def numbered (seen : List Nat) (i : Nat) : Nat × List Nat :=
  match seen.findIdx? (· == i) with
  | some n => (n, seen)
  | none => (seen.length, seen ++ [i])

/-- Changes the environment. -/
def changeEnvironment (f : List (String × String) → List (String × String)) : Act ConfigAnswer := do
  Act.update fun m =>
    { m with surroundings := { m.surroundings with environment := f m.surroundings.environment } }
  return .value .null

/-- Carries out a step that gives a value. -/
def runConfigStep : ConfigStep → Act ConfigAnswer
  | .get keywords => do
    let i ← Act.getConfig (← Act.evalNamed Act.call globalScope keywords)
    return .settings (← Act.settingsAt i) i
  | .reset => do
    Act.resetConfig
    return .value .null
  | .setVariable name value => changeEnvironment (setVariable · name value)
  | .unsetVariable name => changeEnvironment (·.filter (·.1 != name))
  | .resolve => do
    return .value (.member (.profile (← Act.resolveProfile Act.call .null)))
  | .fail message => do
    let args := [.bool false, ← evaluate message]
    return .value (← Act.answer Act.call (← Act.call (.routine (.assertion .pre .plain)) args []))

/-- Runs steps one after the other. -/
def runConfigSteps : (seen : List Nat) → List ConfigStep → StateM Machine
    (List (Report ConfigAnswer))
  | _, [] => return []
  | seen, s :: rest => do
    let report ← observe (runConfigStep s)
    match report.result with
    | .ok (.settings settings i) =>
      let (n, seen) := numbered seen i
      return ⟨.ok (.settings settings n), report.trace⟩ :: (← runConfigSteps seen rest)
    | _ => return report :: (← runConfigSteps seen rest)

end Covenant.Session
