import Covenant.Contract.Runner

/-!
Profiles: which of the two is selected, and the set of primitives of each.
-/

namespace Covenant.Act

/-- The profile that a value stands for: the member itself or its text. -/
def profileOfValue (call : Caller) (v : Value) : Act Profile := do
  match ← enumMember call .profile v with
  | .profile p => return p
  | _ => failMember call .profile v

/-- The primitives of a profile. -/
def contractsFor (call : Caller) (profile : Value) : Act Value := do
  return .contracts (← profileOfValue call profile)

/-- The profile that some settings select. The settings in effect stand in for settings that count
as false. -/
def resolveProfile (call : Caller) (config : Value) : Act Profile := do
  let config ← if ← truth call config then pure config else do pure (.config (← getConfig []))
  let profile ← getAttribute call config "profile"
  if ← holds call .eq profile (.text "auto") then
    return if ← read Machine.optimized then .unchecked else .checked
  else profileOfValue call (← getAttribute call config "profile")

/-- The profile that the settings in effect select. -/
def selectedProfile (call : Caller) : Act Profile := do
  let s ← currentSettings
  match profileOf s (← read Machine.optimized) with
  | some p => return p
  | none => failMember call .profile (.text s.profile)

end Covenant.Act
