import Covenant.Object.Comparison

/-!
Keys of dictionaries: which values can be one, and which of them are the same key.

What can change cannot be a key, and neither can what holds such a value. An object of a class with
a special method for its hash is asked. Two keys are the same if they are one value, or if their
hashes agree and they are equal.
-/

namespace Covenant

/-- What the hash of a key tells of it: a number; or that it is like no other value; or nothing that
the comparison of the keys would not tell. -/
inductive Hash where
  | number (n : Int)
  | unique (v : Value)
  | content
  deriving Repr

/-- Whether two keys with these hashes may be equal. -/
def Hash.agrees : Hash → Hash → Bool
  | number a, number b => a == b
  | unique a, unique b => a.same b
  | content, content => true
  | _, _ => false

/-- Whether two plain data are equal; nothing if one of the values is no plain datum. -/
def Value.equalData? (a b : Value) : Option Bool :=
  match a, b with
  | .ref _, _ => none
  | _, .ref _ => none
  | a, b =>
    some (match a.compareData? b with
      | some o => Comparison.eq.holdsFor o
      | none => a.same b)

/-- The hash of a floating-point number: that of the integer it equals, if there is one. -/
def Hash.ofFloat (x : Float) : Hash :=
  match Number.truncate? x with
  | some n => if Number.equalsInt x n then number n else content
  | none => content

namespace Act

/-- The hash of a value, if it can be a key at all. `depth` bounds how deep values are nested. -/
def hashWithin (call : Caller) : (depth : Nat) → Value → Act Hash
  | 0, _ => fail .recursionError "maximum recursion depth exceeded"
  | depth + 1, v => do
    let refuse : Act Hash := do
      fail .typeError ("unhashable type: '" ++ (← typeName v) ++ "'")
    let each (values : List Value) : Act Hash := do
      values.forM fun v => do
        let _ ← hashWithin call depth v
      return .content
    let byNature : Act Hash := do
      match v with
      | .bool b => return .number (if b then 1 else 0)
      | .int n => return .number n
      | .float x _ => return .ofFloat x
      | .text _ | .bytes _ | .member _ => return .content
      | .config _ => refuse
      | .ref r =>
        match ← load r with
        | .list _ | .dict _ | .view .keys _ | .view .items _ => refuse
        | .tuple items => each items
        | .object c fields =>
          match ← read (·.recordNames? c) with
          | some names => each ((fields.among names).map (·.2))
          | none => return .unique v
        | .snapshot _ | .bound .. | .alias .. => return .content
        | _ => return .unique v
      | v => return .unique v
    match ← special? v "hash" with
    | none => byNature
    | some .null => refuse
    | some found =>
      match (← callThrough call v found [] []).int? with
      | some n => return .number n
      | none => fail .typeError "__hash__ method should return an integer"

/-- The hash of a value, if it can be a key at all. -/
def hash (call : Caller) (v : Value) : Act Hash :=
  fun m => hashWithin call (m.heap.size + 2) v m

/-- Refuses a value that cannot be a key. -/
def checkKey (call : Caller) (v : Value) : Act Unit := do
  let _ ← hash call v

/-- The hash of a value that is a key already; nobody notices that it is asked for again. -/
def hashOfKey (call : Caller) (v : Value) : Act Hash := do
  match ← quietly (attempt (hash call v)) with
  | .ok h => return h
  | .error _ => return .unique v

/-- Whether a key is the same as a value of the given hash. -/
def isKey (call : Caller) (h : Hash) (v key : Value) : Act Bool := do
  if key.same v then return true
  else
    match key.equalData? v with
    | some b => return b
    | none =>
      if (← hashOfKey call key).agrees h then holds call .eq key v else return false

/-- The place of a key of the given hash among entries. -/
def placeOf? (call : Caller) (h : Hash) (key : Value) : List (Value × Value) → Act (Option Nat)
  | [] => return none
  | (k, _) :: rest => do
    if ← isKey call h key k then return some 0
    else return (← placeOf? call h key rest).map (· + 1)

/-- The value under a key. -/
def lookupKey? (call : Caller) (entries : List (Value × Value)) (key : Value) :
    Act (Option Value) := do
  let place ← placeOf? call (← hash call key) key entries
  return place.bind fun i => entries[i]?.map (·.2)

/-- The entries with a key given a value: in place if the key is there, else at the end. -/
def insertKey (call : Caller) (entries : List (Value × Value)) (key v : Value) :
    Act (List (Value × Value)) := do
  match ← placeOf? call (← hash call key) key entries with
  | some i => return entries.modify i fun (k, _) => (k, v)
  | none => return entries ++ [(key, v)]

/-- The entries without a key, and the value that was under it. -/
def removeKey? (call : Caller) (entries : List (Value × Value)) (key : Value) :
    Act (Option (Value × List (Value × Value))) := do
  let place ← placeOf? call (← hash call key) key entries
  return place.bind fun i => entries[i]?.map fun (_, v) => (v, entries.eraseIdx i)

/-- A dictionary with the given entries, later ones replacing earlier ones. -/
def newDict (call : Caller) (entries : List (Value × Value)) : Act Value := do
  allocValue (.dict (← entries.foldlM (fun acc (k, v) => insertKey call acc k v) []))

end Act

end Covenant
