import Covenant.Class
import Covenant.Number.Power

/-!
Special methods: what the operations ask the class of a value for.

An operation on an object looks for a method of a fixed name in the class of the object and the
classes above it; the object's own fields play no part. What is found is called like any attribute
that is reached through the object: a function is given the object first.

An object can be an attribute of a class as well; its own class then says what it gives.
-/

namespace Covenant.Act

/-- Records the use of a probe and gives its reaction. -/
def react {α : Type} (p : Script.Probe) (what : String) (r : Script.Reaction α) : Act α := do
  record (.probe p.name what)
  match r with
  | .give a => return a
  | .fail message => fail .valueError message

/-- Whether a value is a function that is bound to an object when it is reached through it. -/
def bindsToObject (v : Value) : Act Bool := do
  match v with
  | .routine r => return Machine.bindsRoutine r
  | .ref r =>
    match ← load r with
    | .closure .. | .contracted .. | .decorator .. => return true
    | _ => return false
  | _ => return false

/-- What an object that is an attribute of a class gives, by the special method for that if its own
class has one; `self` is what it is reached through, or nothing. -/
def describedBy (call : Caller) (found : Value) (cls : ClassRef) (self : Value) : Act Value := do
  match ← read fun m => m.classAttribute? cls (special "get") with
  | none => return found
  | some get =>
    let c ← match self with
      | .cls c => pure c
      | self => classOf self
    let through := match self with
      | .cls _ => Value.null
      | self => self
    if ← bindsToObject get then call get [found, through, .cls c] []
    else call get [through, .cls c] []

/-- What an attribute found in a class gives when it is reached through an object. -/
def throughObject (call : Caller) (self found : Value) : Act Value := do
  match found with
  | .ref r =>
    match ← load r with
    | .static f => return f
    | .ofClass f => do allocValue (.bound (.cls (← classOf self)) f)
    | .property f => call f [self] []
    | .object cls _ => describedBy call found cls self
    | _ => if ← bindsToObject found then allocValue (.bound self found) else return found
  | _ => if ← bindsToObject found then allocValue (.bound self found) else return found

/-- What an attribute found in a class gives when it is reached through the class. -/
def throughClass (call : Caller) (c : ClassRef) (found : Value) : Act Value := do
  match found with
  | .ref r =>
    match ← load r with
    | .static f => return f
    | .ofClass f => allocValue (.bound (.cls c) f)
    | .object cls _ => describedBy call found cls (.cls c)
    | _ => return found
  | _ => return found

/-- Whether a value is an attribute that is worked out for each object. -/
def isProperty (v : Value) : Act Bool := do
  match v with
  | .ref r =>
    match ← load r with
    | .property _ => return true
    | _ => return false
  | _ => return false

/-- Calls what was found in a class as it is called through an object. -/
def callThrough (call : Caller) (self found : Value) (args : List Value) (named : Fields) :
    Act Value := do
  if ← bindsToObject found then call found (self :: args) named
  else call (← throughObject call self found) args named

/-- The special method of a value under a name, given without the underscores. -/
def special? (v : Value) (name : String) : Act (Option Value) :=
  read fun m => m.classAttribute? (m.classOf v) (special name)

/-- What a special method of a value gives; nothing if its class has none. -/
def callSpecial? (call : Caller) (v : Value) (name : String) (args : List Value) :
    Act (Option Value) := do
  match ← special? v name with
  | some found => return some (← callThrough call v found args [])
  | none => return none

/-- The integer that a value stands for where a position or a size is wanted; nothing if it stands
for none. -/
def indexOf? (call : Caller) (v : Value) : Act (Option Int) := do
  match v.int? with
  | some n => return some n
  | none =>
    match ← callSpecial? call v "index" [] with
    | none => return none
    | some result =>
      match result.int? with
      | some n => return some n
      | none => fail .typeError ("__index__ returned non-int (type " ++ (← typeName result) ++ ")")

/-- The integer that a value stands for where a position or a size is wanted. -/
def indexOf (call : Caller) (v : Value) : Act Int := do
  match ← indexOf? call v with
  | some n => return n
  | none =>
    fail .typeError ("'" ++ (← typeName v) ++ "' object cannot be interpreted as an integer")

/-- The largest length. -/
def largestLength : Int := Number.wordLimit - 1

/-- Whether an integer is too large in either direction to be a position or a size. -/
def outOfWord (n : Int) : Bool :=
  n < -(largestLength + 1) || largestLength < n

/-- Raises the fault of an integer that is too large to be a position or a size. -/
def failWord {α : Type} (cls : FaultClass) (v : Value) : Act α := do
  fail cls ("cannot fit '" ++ (← typeName v) ++ "' into an index-sized integer")

end Covenant.Act
