import Covenant.Object.Attribute

/-!
Structural types, and which values are instances of a class.

A value fits a structural type if it has the attribute that the type asks for, whatever its class.
-/

namespace Covenant.Act

/-- The attribute that an object must have to fit a structural type. -/
def structuralName? : Known → Option String
  | .hasInvariant => some "invariant"
  | .validator => some "run"
  | _ => none

/-- Whether a value fits a structural type: its class has the attribute, or the value itself has
it, and it is not nothing. That a class fits is remembered, as long as the class was found to. -/
def fits (call : Caller) (v : Value) (k : Known) (name : String) : Act Bool := do
  let c ← classOf v
  if (← read fun m => m.fitting.contains (k, c)) then return true
  match (← read fun m => m.classAttribute? c name) with
  | some .null => fitsItself
  | some _ =>
    update fun m => { m with fitting := (k, c) :: m.fitting }
    return true
  | none => fitsItself
where
  /-- Whether the value itself has the attribute, which is read twice: to see that it is there and
  that it is something. -/
  fitsItself : Act Bool := do
    match ← getAttribute? call v name with
    | none => return false
    | some _ =>
      match ← getAttribute call v name with
      | .null => return false
      | _ => return true

/-- The classes that a value that is no class claims to extend; nothing if it claims none. -/
def claimedBases? (call : Caller) (v : Value) : Act (Option (List Value)) := do
  match ← getAttribute? call v (special "bases") with
  | some (.ref r) =>
    match ← load r with
    | .tuple bases => return some bases
    | _ => return none
  | _ => return none

/-- Whether a value is what another one claims to extend, or that claims to extend, `depth` steps up
at most. -/
def claims (call : Caller) (wanted : Value) : (depth : Nat) → Value → Act Bool
  | 0, _ => return false
  | depth + 1, v => do
    if v.same wanted then return true
    else anyOf depth ((← claimedBases? call v).getD [])
where
  /-- Whether one of several values does so. -/
  anyOf (depth : Nat) : List Value → Act Bool
    | [] => return false
    | v :: rest => do if ← claims call wanted depth v then return true else anyOf depth rest

/-- Whether a value is an instance of a class: its own class is that one or stands below it, or what
it gives as its class does. -/
def isOfClass (call : Caller) (v : Value) (c : ClassRef) : Act Bool := do
  let d ← classOf v
  if ← read (·.isSubclass d c) then return true
  else if (← special? v "getattribute").isNone then return false
  else
    match ← getAttribute? call v (special "class") with
    | some (.cls d) => read (·.isSubclass d c)
    | _ => return false

/-- Whether a value is an instance of another one that is no class: as a special method of that one
says, or by what the class of the value claims to extend. -/
def isOfObject (call : Caller) (v other : Value) (depth : Nat) (refuse : Act Bool) : Act Bool := do
  match ← callSpecial? call other "instancecheck" [v] with
  | some answer => truth call answer
  | none =>
    match ← claimedBases? call other with
    | none => refuse
    | some _ =>
      match ← getAttribute? call v (special "class") with
      | some cls => claims call other depth cls
      | none => return false

/-- Whether a value is an instance of a class, or of one of several in a tuple. `depth` bounds the
nesting of tuples. -/
def isInstanceWithin (call : Caller) (v : Value) : (depth : Nat) → Value → Act Bool
  | 0, _ => fail .recursionError "maximum recursion depth exceeded in __instancecheck__"
  | depth + 1, cls => do
    let failClass : Act Bool :=
      fail .typeError "isinstance() arg 2 must be a type, a tuple of types, or a union"
    match cls with
    | .cls c =>
      let d ← classOf v
      match c with
      | .known k =>
        match structuralName? k with
        | some name => if c == d then return true else fits call v k name
        | none => isOfClass call v c
      | .made _ => isOfClass call v c
    | .ref r =>
      match ← load r with
      | .tuple classes => anyOf depth classes
      | .alias .. => fail .typeError "isinstance() argument 2 cannot be a parameterized generic"
      | _ => isOfObject call v cls depth failClass
    | _ => isOfObject call v cls depth failClass
where
  /-- Whether the value is an instance of one of the classes, asked in order. -/
  anyOf (depth : Nat) : List Value → Act Bool
    | [] => return false
    | c :: rest => do
      if ← isInstanceWithin call v depth c then return true else anyOf depth rest

/-- Whether a value is an instance of a class. -/
def isInstance (call : Caller) (v cls : Value) : Act Bool :=
  fun m => isInstanceWithin call v (m.heap.size + 2) cls m

end Covenant.Act
