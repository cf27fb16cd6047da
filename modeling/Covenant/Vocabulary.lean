/-!
The closed vocabularies of contract checking: enforcement modes, checking profiles, kinds of
violation and checkpoints, and the four enumerations that make their members values of a script.
-/

namespace Covenant

/-- How the exit check depends on the way the body ended. -/
inductive Mode where
  /-- The exit check runs whether the body returned or failed in an ordinary way. -/
  | strict
  /-- The exit check runs only if the body returned. -/
  | errorTolerant
  deriving Repr, DecidableEq

/-- Whether contracts are enforced. -/
inductive Profile where
  | checked
  | unchecked
  deriving Repr, DecidableEq

/-- Which part of a contract was violated. -/
inductive Kind where
  | precondition
  | postcondition
  | invariant
  deriving Repr, DecidableEq

/-- Where an invariant is checked. -/
inductive Checkpoint where
  | entry
  | exit
  deriving Repr, DecidableEq

/-- The text of a mode. -/
def Mode.text : Mode → String
  | .strict => "strict"
  | .errorTolerant => "error_tolerant"

/-- The text of a profile. -/
def Profile.text : Profile → String
  | .checked => "checked"
  | .unchecked => "unchecked"

/-- The text of a kind. -/
def Kind.text : Kind → String
  | .precondition => "precondition"
  | .postcondition => "postcondition"
  | .invariant => "invariant"

/-- The text of a checkpoint. -/
def Checkpoint.text : Checkpoint → String
  | .entry => "entry"
  | .exit => "exit"

/-- The four enumerations. -/
inductive Enumeration where
  | mode
  | profile
  | kind
  | checkpoint
  deriving Repr, DecidableEq

/-- A member of one of the enumerations. -/
inductive Member where
  | mode (m : Mode)
  | profile (p : Profile)
  | kind (k : Kind)
  | checkpoint (c : Checkpoint)
  deriving Repr, DecidableEq

/-- The name under which scripts know an enumeration. -/
def Enumeration.title : Enumeration → String
  | .mode => "ContractMode"
  | .profile => "BuildProfile"
  | .kind => "ContractKind"
  | .checkpoint => "Checkpoint"

/-- The members of an enumeration in their order. -/
def Enumeration.members : Enumeration → List Member
  | .mode => [.mode .strict, .mode .errorTolerant]
  | .profile => [.profile .checked, .profile .unchecked]
  | .kind => [.kind .precondition, .kind .postcondition, .kind .invariant]
  | .checkpoint => [.checkpoint .entry, .checkpoint .exit]

/-- The enumeration of a member. -/
def Member.enumeration : Member → Enumeration
  | .mode _ => .mode
  | .profile _ => .profile
  | .kind _ => .kind
  | .checkpoint _ => .checkpoint

/-- The text that a member stands for. -/
def Member.text : Member → String
  | .mode m => m.text
  | .profile p => p.text
  | .kind k => k.text
  | .checkpoint c => c.text

/-- The name of a member: its text in capitals. -/
def Member.name (m : Member) : String :=
  m.text.toUpper

/-- A member as plain text: the enumeration's name, a point and its own. -/
def Member.qualified (m : Member) : String :=
  m.enumeration.title ++ "." ++ m.name

/-- The member of an enumeration with the given text. -/
def Enumeration.ofText? (e : Enumeration) (text : String) : Option Member :=
  e.members.find? (·.text == text)

/-- The member of an enumeration with the given name. -/
def Enumeration.named? (e : Enumeration) (name : String) : Option Member :=
  e.members.find? (·.name == name)

/-- The profile with the given text. -/
def Profile.ofText? : String → Option Profile
  | "checked" => some .checked
  | "unchecked" => some .unchecked
  | _ => none

/-! ## Texts stand for what they were written for -/

/-- A profile is found by its text. -/
@[simp] theorem Profile.ofText?_text (p : Profile) : Profile.ofText? p.text = some p := by
  cases p <;> rfl

/-- A text is that of a profile if and only if the profile is found by it. -/
theorem Profile.ofText?_eq_some_iff {s : String} {p : Profile} :
    Profile.ofText? s = some p ↔ s = p.text := by
  constructor
  · intro h
    unfold Profile.ofText? at h
    split at h <;> cases h <;> rfl
  · rintro rfl
    exact p.ofText?_text

/-- Every member is listed by its enumeration. -/
theorem Member.mem_members (m : Member) : m ∈ m.enumeration.members := by
  rcases m with (_ | _) | (_ | _) | (_ | _ | _) | (_ | _) <;>
    simp [Member.enumeration, Enumeration.members]

/-- A member is found by its text. -/
@[simp] theorem Enumeration.ofText?_text (m : Member) : m.enumeration.ofText? m.text = some m := by
  rcases m with (_ | _) | (_ | _) | (_ | _ | _) | (_ | _) <;> decide

end Covenant
