import Covenant.Object.Special

/-!
Lengths and truth values.

A value is true unless it is nothing, zero or empty. A probe records that it was asked. An object
is true unless its class has a say in it: by a special method for the truth value, or else by one
for the length.
-/

namespace Covenant.Act

/-- A length given by an object: a whole number from zero up to the largest length. -/
def asLength (call : Caller) (v : Value) : Act Nat := do
  let n ← indexOf call v
  if n < 0 then fail .valueError "__len__() should return >= 0"
  else if largestLength < n then failWord .overflowError v
  else return n.toNat

/-- The length of an object of a class with a special method for it; nothing for any other
value. -/
def ownLength? (call : Caller) (v : Value) : Act (Option Nat) := do
  match ← callSpecial? call v "len" [] with
  | some n => return some (← asLength call n)
  | none => return none

/-- The number of entries of a dictionary that a view is of. -/
def viewLength (dict : Ref) : Act Nat := do
  match ← load dict with
  | .dict entries => return entries.length
  | _ => return 0

/-- The length of a value, if it has one. -/
def length? (call : Caller) (v : Value) : Act (Option Nat) := do
  match v with
  | .text s => return some s.length
  | .bytes b => return some b.length
  | .cls (.known (.enumeration e)) => return some e.members.length
  | .member m =>
    match ← ownLength? call v with
    | some n => return some n
    | none => return some m.text.length
  | .ref r =>
    match ← load r with
    | .list items | .tuple items => return some items.length
    | .dict entries => return some entries.length
    | .view _ d => return some (← viewLength d)
    | _ => ownLength? call v
  | _ => return none

/-- The length of a value. -/
def length (call : Caller) (v : Value) : Act Nat := do
  match ← length? call v with
  | some n => return n
  | none => fail .typeError ("object of type '" ++ (← typeName v) ++ "' has no len()")

/-- The truth value that the class of an object gives it. -/
def objectTruth (call : Caller) (v : Value) : Act Bool := do
  match ← callSpecial? call v "bool" [] with
  | some (.bool b) => return b
  | some result =>
    fail .typeError ("__bool__ should return bool, returned " ++ (← typeName result))
  | none =>
    match ← length? call v with
    | some n => return n != 0
    | none => return true

/-- Whether a value counts as true. -/
def truth (call : Caller) (v : Value) : Act Bool := do
  match v with
  | .null => return false
  | .bool b => return b
  | .int n => return n != 0
  | .float x _ => return x != 0
  | .text s => return !s.isEmpty
  | .bytes b => return !b.isEmpty
  | .cls _ | .routine _ | .notImplemented => return true
  | .ref r =>
    match ← load r with
    | .probe p => react p "bool" p.truth
    | _ => objectTruth call v
  | v => objectTruth call v

end Covenant.Act
