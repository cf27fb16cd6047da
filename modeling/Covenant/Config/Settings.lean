import Covenant.Config.EnvFile
import Covenant.Object.Comparison

/-!
Settings: which values each of the three settings accepts, and how they are chosen.

Each setting is decided on its own by the first source that names it: a keyword, then the
environment, then the settings file, then the default. There is no way back to a lower source if
the chosen value is not accepted; all such settings are reported together, in their order.
-/

namespace Covenant.Config

open Covenant.Text

/-- The three settings. -/
inductive Setting where
  | profile
  | emitSpanEvents
  | logLevel
  deriving Repr, DecidableEq

/-- The name of a setting. -/
def Setting.name : Setting → String
  | .profile => "profile"
  | .emitSpanEvents => "emit_span_events"
  | .logLevel => "log_level"

/-- The name of a setting in the environment and in the settings file. -/
def Setting.variable (s : Setting) : String :=
  "dbcore_" ++ s.name

/-- The profiles that can be stored. -/
def profileChoices : List String := ["auto", "checked", "unchecked"]

/-- The log levels that can be stored. -/
def levelChoices : List String := ["debug", "info", "warning", "error"]

/-- The stored profile that a build mode stands for; any other word stands for itself. -/
def resolveAlias : String → String
  | "debug" | "safe" | "small" => "checked"
  | "fast" | "release" => "unchecked"
  | word => word

/-- A word as it is compared: without blanks around it and in small letters. -/
def normalize (s : String) : String :=
  lower (strip s)

/-- A choice that is not among the accepted ones. -/
def choiceProblem (s : Setting) (message : String) : Problem :=
  ⟨"literal_error", [s.name], message⟩

/-- Reads the profile. -/
def readProfile (v : Value) : Except Problem String :=
  let problem := choiceProblem .profile "Input should be 'auto', 'checked' or 'unchecked'"
  match v.text? with
  | none => .error problem
  | some s =>
    let word := resolveAlias (normalize s)
    if profileChoices.contains word then .ok word else .error problem

/-- Reads the log level. -/
def readLogLevel (v : Value) : Except Problem String :=
  let problem := choiceProblem .logLevel "Input should be 'debug', 'info', 'warning' or 'error'"
  match v.text? with
  | none => .error problem
  | some s =>
    let word := normalize s
    if levelChoices.contains word then .ok word else .error problem

/-- The truth value that a word stands for, in any case of its ASCII letters. -/
def flagOfWord? (s : String) : Option Bool :=
  let word := lowerAscii s
  if ["0", "off", "f", "false", "n", "no"].contains word then some false
  else if ["1", "on", "t", "true", "y", "yes"].contains word then some true
  else none

/-- The truth value of a number. -/
def flagOfNumber? (n : Int) : Option Bool :=
  if n = 0 then some false else if n = 1 then some true else none

/-- Reads whether span events are emitted: a truth value, a word or a number for one. A word or a
number of machine size that stands for none cannot be interpreted; any other value has the wrong
type. -/
def readFlag (v : Value) : Except Problem Bool :=
  let place := [Setting.emitSpanEvents.name]
  let unread : Except Problem Bool := .error
    ⟨"bool_parsing", place, "Input should be a valid boolean, unable to interpret input"⟩
  let wrongType : Except Problem Bool := .error
    ⟨"bool_type", place, "Input should be a valid boolean"⟩
  let ofFlag (b : Option Bool) : Except Problem Bool :=
    match b with
    | some b => .ok b
    | none => unread
  let limit : Int := Number.wordLimit
  match v with
  | .bool b => .ok b
  | .bytes b =>
    if b.all (· < 128) then
      ofFlag (flagOfWord? (String.ofList (b.map fun x => Char.ofNat x.toNat)))
    else unread
  | .int n => if -limit ≤ n && n < limit then ofFlag (flagOfNumber? n) else wrongType
  | .float x _ =>
    match Number.truncate? x with
    | none => wrongType
    | some n =>
      if Number.equalsInt x n && -limit < n && n < limit then ofFlag (flagOfNumber? n)
      else wrongType
  | v =>
    match v.text? with
    | some s => ofFlag (flagOfWord? s)
    | none => wrongType

/-- Where values of settings come from, the strongest source first. -/
structure Sources where
  keywords : Fields
  environment : List (String × String)
  file : List EnvFile.Binding

/-- The last of the named entries whose name is the given one in any case. -/
def lastNamed? {α : Type} (entries : List (String × α)) (name : String) : Option α :=
  ((entries.filter fun p => lower p.1 == name).getLast?).map (·.2)

/-- The value that the strongest source naming a setting gives it. -/
def Sources.choose? (s : Sources) (x : Setting) : Option Value :=
  (lastNamed? s.keywords x.name).or
    (((lastNamed? s.environment x.variable).map Value.text).or
      ((lastNamed? s.file x.variable).join.map Value.text))

/-- What a setting is read as: its default if no source names it. -/
def Sources.resolve {α : Type} (s : Sources) (x : Setting) (read : Value → Except Problem α)
    (default : α) : Except Problem α :=
  match s.choose? x with
  | some v => read v
  | none => .ok default

/-- The problem of a reading, if it has one. -/
def problem? {α : Type} : Except Problem α → Option Problem
  | .ok _ => none
  | .error p => some p

/-- Builds settings from their sources, or reports all settings whose value is not accepted. -/
def Sources.build (s : Sources) : Except Failure Settings :=
  let profile := s.resolve .profile readProfile "auto"
  let flag := s.resolve .emitSpanEvents readFlag true
  let level := s.resolve .logLevel readLogLevel "warning"
  match profile, flag, level with
  | .ok p, .ok f, .ok l => .ok ⟨p, f, l⟩
  | _, _, _ =>
    .error ⟨"DbcConfig", [problem? profile, problem? flag, problem? level].filterMap id⟩

/-- The sources for some keywords in given surroundings. -/
def sourcesIn (around : Surroundings) (keywords : Fields) : Sources :=
  ⟨keywords, around.environment,
    (around.file.map (EnvFile.read around.environment)).getD []⟩

end Covenant.Config

namespace Covenant.Act

open Covenant.Config

/-- Builds settings from keywords and the surroundings; they are not put into effect. -/
def buildSettings (keywords : Fields) : Act Nat := do
  let around ← read Machine.surroundings
  match (sourcesIn around keywords).build with
  | .error failure => failValidation failure
  | .ok s => fun m => (.done m.configs.size, { m with configs := m.configs.push s })

/-- The settings in effect. With keywords, and where there are none yet, new ones are built and put
into effect; if that fails, the ones before stay. -/
def getConfig (keywords : Fields) : Act Nat := do
  match (← read Machine.current), keywords with
  | some i, [] => return i
  | _, _ =>
    let i ← buildSettings keywords
    update fun m => { m with current := some i }
    return i

/-- Takes the settings in effect back. -/
def resetConfig : Act Unit :=
  update fun m => { m with current := none }

/-- The settings under an index. -/
def settingsAt (i : Nat) : Act Settings :=
  read fun m => m.configs.getD i ⟨"auto", true, "warning"⟩

/-- The settings that a violation is reported under. -/
def currentSettings : Act Settings := do
  settingsAt (← getConfig [])

/-- The profile that stored settings select: `auto` follows the process. -/
def profileOf (s : Settings) (optimized : Bool) : Option Profile :=
  if s.profile == "auto" then some (if optimized then .unchecked else .checked)
  else Profile.ofText? s.profile

end Covenant.Act
