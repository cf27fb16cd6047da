import Covenant.CommandLine.Run

/-!
The program: settings come from the environment and from a settings file in the current directory.
-/

namespace Covenant

/-- The names under which settings are looked for in the environment. -/
def settingNames : List String :=
  ["DBCORE_PROFILE", "DBCORE_EMIT_SPAN_EVENTS", "DBCORE_LOG_LEVEL"]

/-- The settings in the environment, under their names in capitals or in small letters. -/
def readVariables : IO (List (String × String)) := do
  let found ← (settingNames ++ settingNames.map Text.lower).mapM fun name => do
    return (← IO.getEnv name).map fun value => (name, value)
  return found.filterMap id

/-- The text of the settings file, if there is one. -/
def readSettingsFile : IO (Option String) := do
  try
    return some (← IO.FS.readFile ".env")
  catch _ => return none

end Covenant

open Covenant in
/-- Carries the command line out. -/
def main (args : List String) : IO UInt32 := do
  let launch : Session.Launch := ⟨⟨← readVariables, ← readSettingsFile⟩, false, .none⟩
  match launch.start with
  | .error f =>
    IO.eprintln f.name
    return 1
  | .ok m =>
    let (e, _) := (CommandLine.run [] args).run m
    IO.print e.out
    IO.eprint e.err
    match e.fault with
    | some f => IO.eprintln f.name
    | none => pure ()
    return e.code.toUInt32
