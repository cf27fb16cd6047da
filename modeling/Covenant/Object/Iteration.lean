import Covenant.Object.Comparison

/-!
Going through the items of a value, one at a time.

A list is read by position as it is when its turn comes, and a dictionary must not change its size
meanwhile. An object is gone through by its special methods: one that gives an iterator, which is
asked for the next item until it says that there is none, or one that gives the item at a position,
which is asked for positions from zero on.
-/

namespace Covenant.Act

/-- How many items are gone through at most. Only a loop without end has more. -/
def iterationLimit : Nat := 10000000

/-- The characters of a text as texts. -/
def characters (s : String) : List Value :=
  s.toList.map fun c => .text c.toString

/-- The bytes of a byte string as integers. -/
def byteValues (b : List UInt8) : List Value :=
  b.map fun x => .int x.toNat

/-- Named values as pairs. -/
def pairsOf (fields : Fields) : Act (List Value) :=
  fields.mapM fun (name, v) => allocValue (.tuple [.text name, v])

/-- The items of a value that cannot change, if it is one; and the items of a list or a dictionary
as they are now. -/
def presentItems? (v : Value) : Act (Option (List Value)) := do
  match v with
  | .text s => return some (characters s)
  | .member m => return some (characters m.text)
  | .bytes b => return some (byteValues b)
  | .cls (.known (.enumeration e)) => return some (e.members.map .member)
  | .config i => do return some (← pairsOf (← read (settingFields · i)))
  | .ref r =>
    match ← load r with
    | .list items | .tuple items => return some items
    | .dict entries => return some (entries.map (·.1))
    | .view part d => do return some (← viewItems part d)
    | .snapshot fields => do return some (← pairsOf fields)
    | _ => return none
  | _ => return none

/-- Raises the fault of a value that cannot be gone through. -/
def failIterable {α : Type} (v : Value) : Act α := do
  fail .typeError ("'" ++ (← typeName v) ++ "' object is not iterable")

/-- Whether a value can be asked for its next item. -/
def isIterator (v : Value) : Act Bool := do
  match v with
  | .ref r =>
    match ← load r with
    | .iterator .. => return true
    | _ => return (← special? v "next").isSome
  | _ => return false

/-- The way through the items of an object by its special methods. -/
def iterateObject (call : Caller) (v : Value) : Act Iteration := do
  match ← special? v "iter" with
  | some .null => failIterable v
  | some found => do
    let result ← callThrough call v found [] []
    if ← isIterator result then return .asked result
    else
      fail .typeError ("iter() returned non-iterator of type '" ++ (← typeName result) ++ "'")
  | none =>
    if (← special? v "getitem").isSome then return .indexed v 0 else failIterable v

/-- The way through the items of a value. -/
def iterate (call : Caller) (v : Value) : Act Iteration := do
  match v with
  | .ref r =>
    match ← load r with
    | .list _ => return .list r 0
    | .dict entries => return .dict r .keys 0 entries.length
    | .view part d => do return .dict d part 0 (← viewLength d)
    | .iterator .. => return .asked v
    | .tuple items => return .fixed items
    | .snapshot _ =>
      if (← special? v "iter").isSome then iterateObject call v
      else return .fixed ((← presentItems? v).getD [])
    | _ => iterateObject call v
  | v =>
    match ← presentItems? v with
    | some items => return .fixed items
    | none => failIterable v

/-- The next item on the way, and the way after it; nothing at the end. An object that is asked for
its next item is not asked here. -/
def step (call : Caller) : Iteration → Act (Option (Value × Iteration))
  | .fixed [] => return none
  | .fixed (x :: rest) => return some (x, .fixed rest)
  | .list r i => do
    match ← load r with
    | .list items => return items[i]?.map fun x => (x, .list r (i + 1))
    | _ => return none
  | .dict r part i size => do
    if (← viewLength r) != size then
      fail .runtimeError "dictionary changed size during iteration"
    else
      match ← load r with
      | .dict entries =>
        match entries[i]?, part with
        | none, _ => return none
        | some (k, _), .keys => return some (k, .dict r part (i + 1) size)
        | some (_, v), .values => return some (v, .dict r part (i + 1) size)
        | some (k, v), .items => do
          return some (← allocValue (.tuple [k, v]), .dict r part (i + 1) size)
      | _ => return none
  | .indexed v i => do
    match ← attempt (callSpecial? call v "getitem" [.int i]) with
    | .ok x => return x.map fun x => (x, .indexed v (i + 1))
    | .error e => do
      let cls ← faultClassOf e
      if cls.isA .indexError || cls.isA .stopIteration then return none else rethrow e
  | .asked _ => return none

/-- The next item of an iterator; nothing at the end. -/
def next? (call : Caller) (v : Value) : Act (Option Value) := do
  let byClass : Act (Option Value) := do
    match ← attempt (callSpecial? call v "next" []) with
    | .ok (some x) => return some x
    | .ok none => fail .typeError ("'" ++ (← typeName v) ++ "' object is not an iterator")
    | .error e => if (← faultClassOf e).isA .stopIteration then return none else rethrow e
  match v with
  | .ref r =>
    match ← load r with
    | .iterator name state =>
      match ← step call state with
      | none => do
        store r (.iterator name (.fixed []))
        return none
      | some (x, state) => do
        store r (.iterator name state)
        return some x
    | _ => byClass
  | _ => byClass

/-- The next item on the way, and the way after it; nothing at the end. -/
def advance (call : Caller) : Iteration → Act (Option (Value × Iteration))
  | .asked v => do return (← next? call v).map fun x => (x, .asked v)
  | way => step call way

/-- What going through items leads to: after each one, whether to go on. -/
inductive Progress (β : Type) where
  | more (b : β)
  | enough (b : β)

/-- Goes on along a way of at most `limit` items. -/
def followWithin {β : Type} (call : Caller) (f : β → Value → Act (Progress β)) :
    (limit : Nat) → β → Iteration → Act β
  | 0, _, _ => exhaust
  | limit + 1, b, way => do
    match ← advance call way with
    | none => return b
    | some (x, way) =>
      match ← f b x with
      | .more b => followWithin call f limit b way
      | .enough b => return b

/-- Goes through the items of a value until a step says that it is enough. -/
def through {β : Type} (call : Caller) (v : Value) (b : β) (f : β → Value → Act (Progress β)) :
    Act β := do
  followWithin call f iterationLimit b (← iterate call v)

/-- What is asked, if the asking does not fail for the type of something. -/
def unlessTypeError? {α : Type} (asked : Act (Option α)) : Act (Option α) := do
  match ← attempt asked with
  | .ok a => return a
  | .error e => if (← faultClassOf e).isA .typeError then return none else rethrow e

/-- Asks an object how many items it expects to have, before they are gathered: by its length, or
else by a special method. Only the effects of asking matter. -/
def lengthHint (call : Caller) (v : Value) : Act Unit := do
  match ← unlessTypeError? (ownLength? call v) with
  | some _ => pure ()
  | none =>
    match ← unlessTypeError? (callSpecial? call v "length_hint" []) with
    | none | some .notImplemented => pure ()
    | some hint =>
      match hint.int? with
      | none =>
        fail .typeError ("__length_hint__ must be an integer, not " ++ (← typeName hint))
      | some n =>
        if outOfWord n then fail .overflowError "Python int too large to convert to C ssize_t"
        else if n < 0 then fail .valueError "__length_hint__() should return >= 0"
        else pure ()

/-- Gathers the items on a way. -/
def gather (call : Caller) (way : Iteration) : Act (List Value) := do
  let add (found : List Value) (x : Value) : Act (Progress (List Value)) :=
    return .more (x :: found)
  return (← followWithin call add iterationLimit [] way).reverse

/-- The items of a value in order. -/
def items (call : Caller) (v : Value) : Act (List Value) := do
  match ← presentItems? v with
  | some items => return items
  | none =>
    let way ← iterate call v
    lengthHint call v
    gather call way

/-- The items of a value in order, gathered from an iterator over it; `refuse` is done with a value
that cannot be gone through. -/
def itemsOr (call : Caller) (v : Value) (refuse : Act (List Value)) : Act (List Value) := do
  match ← presentItems? v with
  | some items => return items
  | none =>
    match ← attempt (iterate call v) with
    | .error e => if (← faultClassOf e).isA .typeError then refuse else rethrow e
    | .ok (.asked iterator) => items call iterator
    | .ok (.indexed w i) => do
      let _ ← unlessTypeError? (ownLength? call w)
      gather call (.indexed w i)
    | .ok way => gather call way

/-- A new iterator over a value. -/
def newIterator (call : Caller) (v : Value) : Act Value := do
  let name := match v with
    | .text s =>
      if s.toList.all fun c => c.toNat < 128 then "str_ascii_iterator" else "str_iterator"
    | .member _ => "str_ascii_iterator"
    | .bytes _ => "bytes_iterator"
    | _ => "generator"
  let name ← match v with
    | .ref r => do
      match ← load r with
      | .list _ => pure "list_iterator"
      | .tuple _ => pure "tuple_iterator"
      | .dict _ | .view .keys _ => pure "dict_keyiterator"
      | .view .values _ => pure "dict_valueiterator"
      | .view .items _ => pure "dict_itemiterator"
      | _ => pure name
    | _ => pure name
  match ← iterate call v with
  | .asked w => return w
  | way => allocValue (.iterator name way)

end Covenant.Act
