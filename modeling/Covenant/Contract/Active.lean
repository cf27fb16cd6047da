import Covenant.Contract.Check
import Covenant.Contract.Runner

/-!
The primitives as the process has bound them: those of the checked profile, or stand-ins that do
nothing. What is given to a stand-in has been worked out all the same.
-/

namespace Covenant.Act

/-- Checks only if the process checks. -/
def ifChecked (check : Act Unit) : Act Unit := do
  match ← read Machine.active with
  | .checked => check
  | .unchecked => pure ()

/-- Asserts a condition. -/
def assertThat (call : Caller) (side : Side) (condition : Value) (message : String) : Act Unit :=
  ifChecked (checkCondition call side condition (.text message))

/-- Asserts what a validator says of a value. -/
def assertValue (call : Caller) (side : Side) (value validator : Value) (message : String) :
    Act Unit :=
  ifChecked (checkValue call side value validator (.text message))

/-- Asserts a condition with a formatted message. -/
def assertFormatted (call : Caller) (side : Side) (condition : Value) (template : String)
    (args : List Value) : Act Unit :=
  ifChecked (checkFormatted call side condition (.text template) args [])

/-- Asserts a condition whose text is the message. -/
def assertContext (call : Caller) (side : Side) (condition : Value) (expression : String) :
    Act Unit :=
  ifChecked (checkContext call side condition (.text expression))

/-- Runs a body strictly. -/
def runActive (call : Caller) (subject old : Value) (body : Body) : Act Value := do
  match ← read Machine.active with
  | .checked => runStrict call subject old body
  | .unchecked => runUnchecked subject old body

end Covenant.Act
