import Covenant.Object.Collection
import Covenant.Object.Method.Slice
import Covenant.Object.Text

/-!
The methods of lists and tuples.

A list is sorted by inserting one item after the other into the run at its start, so that items of
which none comes before the other stay in their order. Meanwhile the list counts as empty. If a
comparison fails, the list keeps the order that it had reached.
-/

namespace Covenant.Act.SequenceMethod

/-! ## Looking for items -/

/-- The position of the first item that equals a value, counted from `position`. -/
def positionFrom? (call : Caller) (v : Value) : (position : Nat) → List Value → Act (Option Nat)
  | _, [] => return none
  | position, x :: rest => do
    if ← equal call x v then return some position else positionFrom? call v (position + 1) rest

/-- How many items equal a value. -/
def countEqual (call : Caller) (v : Value) : List Value → Act Nat
  | [] => return 0
  | x :: rest => do
    if ← equal call x v then return (← countEqual call v rest) + 1 else countEqual call v rest

/-- A bound of the part in which an item is looked for. -/
def searchBound (call : Caller) (otherwise : Int) (v : Option Value) : Act Int := do
  match v with
  | none => return otherwise
  | some v =>
    match ← indexOf? call v with
    | some n => return n
    | none => fail .typeError "slice indices must be integers or have an __index__ method"

/-- The position of an item in a part of a sequence; `missing` is said if it is not there. -/
def position (call : Caller) (missing : Value → Act String) (title : String)
    (items : List Value) (args : List Value) (named : Fields) : Act Value := do
  let args ← placedArguments (title ++ ".index") "index" 1 3 args named
  let v := args.headD .null
  let start ← searchBound call 0 args[1]?
  let stop ← searchBound call largestLength args[2]?
  let found ← match partBounds? (some start) (some stop) items.length with
    | none => pure none
    | some (first, last) => positionFrom? call v first ((items.take last).drop first)
  match found with
  | some i => return .int i
  | none => do fail .valueError (← missing v)

/-! ## Sorting -/

/-- How many items go on with a run: each comes before the last one, or none does. -/
def runLength (less : Value → Value → Act Bool) (down : Bool) :
    (last : Value) → List (Value × Value) → Act Nat
  | _, [] => return 0
  | last, x :: rest => do
    if (← less x.1 last) == down then return (← runLength less down x.1 rest) + 1 else return 0

/-- The run at the start of a list, in order, and the rest. -/
def firstRun (less : Value → Value → Act Bool) (whole : List (Value × Value)) :
    Act (List (Value × Value) × List (Value × Value)) := do
  match whole with
  | x :: y :: rest =>
    let down ← less y.1 x.1
    let n := (← runLength less down y.1 rest) + 2
    let run := whole.take n
    return (if down then run.reverse else run, whole.drop n)
  | whole => return (whole, [])

/-- Where a key belongs between two positions of a sorted list, after all keys that it does not come
before. -/
def placeBetween (less : Value → Value → Act Bool) (sorted : List (Value × Value)) (key : Value) :
    (steps : Nat) → (low high : Nat) → Act Nat
  | 0, low, _ => return low
  | steps + 1, low, high =>
    if low < high then
      let middle := low + (high - low) / 2
      match sorted[middle]? with
      | none => return low
      | some x => do
        if ← less key x.1 then placeBetween less sorted key steps low middle
        else placeBetween less sorted key steps (middle + 1) high
    else return low

/-- Inserts items into a sorted list. With the fault of a comparison, what there is then. -/
def insertAll (less : Value → Value → Act Bool) :
    (sorted : List (Value × Value)) → List (Value × Value) →
      Act (List (Value × Value) × Option Ref)
  | sorted, [] => return (sorted, none)
  | sorted, x :: rest => do
    match ← attempt (placeBetween less sorted x.1 (sorted.length + 1) 0 sorted.length) with
    | .ok i => insertAll less (sorted.insertIdx i x) rest
    | .error e => return (sorted ++ x :: rest, some e)

/-- Sorts items by their keys. With the fault of a comparison, what there is then. -/
def sortByKeys (call : Caller) (whole : List (Value × Value)) :
    Act (List (Value × Value) × Option Ref) := do
  let less := holds call .lt
  match ← attempt (firstRun less whole) with
  | .ok (run, rest) => insertAll less run rest
  | .error e => return (whole, some e)

/-- The items with the keys by which they are sorted. -/
def withKeys (call : Caller) (key : Value) (items : List Value) : Act (List (Value × Value)) :=
  match key with
  | .null => return items.map fun x => (x, x)
  | key => items.mapM fun x => do return (← call key [x] [], x)

/-- Sorts a list in its place. -/
def sort (call : Caller) (r : Ref) (items : List Value) (args : List Value) (named : Fields) :
    Act Value := do
  let given ← namedArguments ⟨"sort", ["key", "reverse"], 0, 0, 0⟩ args named
  let backwards ← match given[1]?.join with
    | none => pure false
    | some v => do pure ((← smallArgument call v) != 0)
  store r (.list [])
  let restore (items : List Value) : Act Unit := store r (.list items)
  match ← attempt (withKeys call (given[0]?.join.getD .null) items) with
  | .error e => do
    restore items
    rethrow e
  | .ok keyed => do
    let turn (xs : List (Value × Value)) := if backwards then xs.reverse else xs
    let (sorted, fault) ← sortByKeys call (turn keyed)
    let changed ← match ← load r with
      | .list [] => pure false
      | _ => pure true
    restore ((turn sorted).map (·.2))
    match fault with
    | some e => rethrow e
    | none => if changed then fail .valueError "list modified during sort" else return .null

/-! ## Methods -/

/-- A method of a list without arguments that gives nothing. -/
def change (title : String) (r : Ref) (items : List Value) (args : List Value) (named : Fields) :
    Act Value := do
  noArguments title args named
  store r (.list items)
  return .null

/-- Puts an item in before a position. -/
def insert (call : Caller) (r : Ref) (items : List Value) (args : List Value) (named : Fields) :
    Act Value := do
  let args ← placedArguments "list.insert" "insert" 2 2 args named
  let n ← sizeArgument call (args.headD .null)
  let i := if n < 0 then max 0 (n + items.length) else min n items.length
  store r (.list (items.insertIdx i.toNat ((args.drop 1).headD .null)))
  return .null

/-- Takes an item out by its position, the last one if none is given. -/
def pop (call : Caller) (r : Ref) (items : List Value) (args : List Value) (named : Fields) :
    Act Value := do
  let args ← placedArguments "list.pop" "pop" 0 1 args named
  let i ← match args with
    | v :: _ => sizeArgument call v
    | [] => pure (-1)
  if items.isEmpty then fail .indexError "pop from empty list"
  else
    match itemAt? items i, removeAt? items i with
    | some x, some rest => do
      store r (.list rest)
      return x
    | _, _ => fail .indexError "pop index out of range"

/-- Takes the first item out that equals a value. -/
def remove (call : Caller) (r : Ref) (items : List Value) (v : Value) : Act Value := do
  match ← positionFrom? call v 0 items with
  | some i =>
    match ← load r with
    | .list items => do
      store r (.list (items.eraseIdx i))
      return .null
    | _ => return .null
  | none => fail .valueError "list.remove(x): x not in list"

/-- An iterator over items from the last to the first. -/
def backwards (name : String) (items : List Value) : Act Value :=
  allocValue (.iterator name (.fixed items.reverse))

/-- What a method of a list gives; nothing if lists have no method of that name. -/
def onList? (call : Caller) (name : String) (r : Ref) (items : List Value) (args : List Value)
    (named : Fields) : Option (Act Value) :=
  let title := "list." ++ name
  match name with
  | "append" => some do
    appendItem r (← onlyArgument title args named)
    return .null
  | "extend" => some do
    extendList call r (← onlyArgument title args named)
    return .null
  | "clear" => some (change title r [] args named)
  | "reverse" => some (change title r items.reverse args named)
  | "copy" => some do
    noArguments title args named
    allocValue (.list items)
  | "count" => some do
    return .int (← countEqual call (← onlyArgument title args named) items)
  | "index" => some do
    let missing (v : Value) : Act String := do return (← quotedText call v) ++ " is not in list"
    position call missing "list" items args named
  | "insert" => some (insert call r items args named)
  | "pop" => some (pop call r items args named)
  | "remove" => some do remove call r items (← onlyArgument title args named)
  | "sort" => some (sort call r items args named)
  | "__getitem__" => some do item call (.ref r) (← onlyArgument title args named)
  | "__reversed__" => some do
    noArguments title args named
    backwards "list_reverseiterator" items
  | _ => none

/-- What a method of a tuple gives; nothing if tuples have no method of that name. -/
def onTuple? (call : Caller) (name : String) (v : Value) (items : List Value) (args : List Value)
    (named : Fields) : Option (Act Value) :=
  let title := "tuple." ++ name
  match name with
  | "count" => some do
    return .int (← countEqual call (← onlyArgument title args named) items)
  | "index" => some do
    position call (fun _ => pure "tuple.index(x): x not in tuple") "tuple" items args named
  | "__getnewargs__" => some do
    noArguments title args named
    allocValue (.tuple [v])
  | _ => none

end Covenant.Act.SequenceMethod
