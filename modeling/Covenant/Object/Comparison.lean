import Covenant.Number.Binary64
import Covenant.Object.Truth

/-!
Equality and order of values.

Numbers of different types compare by their exact value, a member compares as its text, and
sequences compare item by item, an item being equal to itself. An object of a class with special
methods for comparing is asked, also when it is the second of the two; what it answers is the
result. Two values that nobody can compare are equal only if they are the same, and have no order.
-/

namespace Covenant

/-- The six comparisons. -/
inductive Comparison where
  | eq
  | ne
  | lt
  | le
  | gt
  | ge
  deriving Repr, DecidableEq

namespace Comparison

/-- The sign of a comparison. -/
def sign : Comparison → String
  | eq => "=="
  | ne => "!="
  | lt => "<"
  | le => "<="
  | gt => ">"
  | ge => ">="

/-- The name of the special method for a comparison. -/
def name : Comparison → String
  | eq => "eq"
  | ne => "ne"
  | lt => "lt"
  | le => "le"
  | gt => "gt"
  | ge => "ge"

/-- The comparison that holds with its operands exchanged. -/
def swapped : Comparison → Comparison
  | eq => eq
  | ne => ne
  | lt => gt
  | le => ge
  | gt => lt
  | ge => le

/-- Whether an order satisfies a comparison. -/
def holds : Comparison → Ordering → Bool
  | eq, o => o == .eq
  | ne, o => o != .eq
  | lt, o => o == .lt
  | le, o => o != .gt
  | gt, o => o == .gt
  | ge, o => o != .lt

/-- Whether a comparison holds between two things that are known to be equal or not; nothing for a
comparison of order. -/
def ofEquality? : Comparison → (equal : Bool) → Option Bool
  | eq, equal => some equal
  | ne, equal => some !equal
  | _, _ => none

end Comparison

/-- The order of two floating-point numbers; nothing if one of them compares with nothing. -/
def Number.compareFloats (x y : Float) : Option Ordering :=
  if x < y then some .lt else if y < x then some .gt else if x == y then some .eq else none

/-- How two numbers compare: `none` if one of the values is no number, and inside `none` if one of
the numbers compares with nothing. -/
def Value.compareNumbers? (a b : Value) : Option (Option Ordering) :=
  match a, b with
  | .float x _, .float y _ => some (Number.compareFloats x y)
  | .float x _, b => b.int?.map fun n => Number.compareInt x n
  | a, .float y _ => a.int?.map fun n => (Number.compareInt y n).map Ordering.swap
  | a, b => a.int?.bind fun n => b.int?.map fun k => some (compare n k)

/-- The order of two byte strings. -/
def compareBytes : List UInt8 → List UInt8 → Ordering
  | [], [] => .eq
  | [], _ => .lt
  | _, [] => .gt
  | x :: xs, y :: ys => if x < y then .lt else if y < x then .gt else compareBytes xs ys

/-- The order of two texts, character by character. -/
def compareText (s t : String) : Ordering :=
  if s < t then .lt else if t < s then .gt else .eq

/-- How two plain data compare, if they are of types that do: `none` if not, and inside `none` if
they compare with nothing. -/
def Value.compareData? (a b : Value) : Option (Option Ordering) :=
  match a, b with
  | .bytes x, .bytes y => some (some (compareBytes x y))
  | a, b =>
    match a.compareNumbers? b with
    | some o => some o
    | none => a.text?.bind fun s => b.text?.map fun t => some (compareText s t)

/-- Whether a comparison holds between two things of a given order, if they have one. -/
def Comparison.holdsFor (c : Comparison) : Option Ordering → Bool
  | some o => c.holds o
  | none => c == .ne

namespace Machine

/-- Whether a class is one of the frozen records itself. -/
def isRecordClass : ClassRef → Bool
  | .known k => k.isRecord
  | .made _ => false

/-- The names of the fields that the objects of a class have as frozen records; nothing if they are
no records. Classes made from a record may give their objects more fields than these. -/
def recordNames? (m : Machine) (c : ClassRef) : Option (List String) :=
  (m.lineage c).findSome? fun d =>
    match d with
    | .known k => if k.isRecord then some k.recordNames else none
    | .made _ => none

end Machine

namespace Act

/-- Raises the fault for values that have no order. -/
def failOrder {α : Type} (c : Comparison) (a b : Value) : Act α := do
  fail .typeError ("'" ++ c.sign ++ "' not supported between instances of '" ++ (← typeName a) ++
    "' and '" ++ (← typeName b) ++ "'")

/-- Comparing two values. -/
abbrev Compare := Comparison → Value → Value → Act Value

/-- Whether two values are equal where an item is looked for: a value is equal to itself without
being asked. -/
def equalBy (call : Caller) (compare : Compare) (a b : Value) : Act Bool := do
  if a.same b then return true else truth call (← compare .eq a b)

/-- The first two items at which two runs differ, if they do before one of them ends. -/
def firstDifference (equal : Value → Value → Act Bool) :
    List Value → List Value → Act (Option (Value × Value))
  | x :: xs, y :: ys => do
    if ← equal x y then firstDifference equal xs ys else return some (x, y)
  | _, _ => return none

/-- Compares two sequences item by item. Where only equality is asked for, two lists of different
length are not looked into. -/
def compareSequences (call : Caller) (compare : Compare) (lists : Bool) (c : Comparison)
    (xs ys : List Value) : Act Value := do
  match (if lists && xs.length != ys.length then c.ofEquality? false else none) with
  | some b => return .bool b
  | none =>
    match ← firstDifference (equalBy call compare) xs ys with
    | none => return .bool (c.holds (Ord.compare xs.length ys.length))
    | some (x, y) =>
      match c.ofEquality? false with
      | some b => return .bool b
      | none => compare c x y

/-- Whether two dictionaries are equal: as many entries, and for every key of the first an equal
value in the second. -/
def equalEntries (call : Caller) (compare : Compare) :
    List (Value × Value) → List (Value × Value) → Act Bool
  | [], _ => return true
  | (k, v) :: rest, ys => do
    match ← findEntry k ys with
    | none => return false
    | some w =>
      if ← equalBy call compare w v then equalEntries call compare rest ys else return false
where
  /-- The value under a key. -/
  findEntry (key : Value) : List (Value × Value) → Act (Option Value)
    | [] => return none
    | (k, v) :: rest => do
      if ← equalBy call compare k key then return some v else findEntry key rest

/-- Named values as the entries of a dictionary. -/
def entriesOfFields (fields : Fields) : List (Value × Value) :=
  fields.map fun (name, v) => (.text name, v)

/-- The settings under an index as named values, with what a script has put in their place. -/
def settingFields (m : Machine) (i : Nat) : Fields :=
  let s := m.configs.getD i ⟨"auto", true, "warning"⟩
  let changed := m.attachedTo (.config i)
  let built : Fields := [("profile", .text s.profile), ("emit_span_events", .bool s.emitSpanEvents),
    ("log_level", .text s.logLevel)]
  built.map fun (name, v) => (name, (changed.get? name).getD v)

/-- Whether two dictionaries given by their entries are equal. -/
def equalDicts (call : Caller) (compare : Compare) (xs ys : List (Value × Value)) : Act Bool := do
  if xs.length == ys.length then equalEntries call compare xs ys else return false

/-- What a view shows of a dictionary. -/
def viewItems (part : Part) (dict : Ref) : Act (List Value) := do
  match ← load dict with
  | .dict entries =>
    match part with
    | .keys => return entries.map (·.1)
    | .values => return entries.map (·.2)
    | .items => entries.mapM fun (k, v) => allocValue (.tuple [k, v])
  | _ => return []

/-- Whether every one of some values has an equal among others. -/
def allAmong (equal : Value → Value → Act Bool) : List Value → List Value → Act Bool
  | [], _ => return true
  | x :: rest, ys => do
    if ← among x ys then allAmong equal rest ys else return false
where
  /-- Whether a value has an equal among others. -/
  among (x : Value) : List Value → Act Bool
    | [] => return false
    | y :: ys => do if ← equal y x then return true else among x ys

/-- Compares the contents of two cells as their class does by nature; nothing if it has no rule for
the two. -/
def compareCells (call : Caller) (compare : Compare) (c : Comparison) (a b : Cell) :
    Act (Option Value) := do
  let asEquality (equal : Act Bool) : Act (Option Value) := do
    match c.ofEquality? true with
    | some _ => return (c.ofEquality? (← equal)).map .bool
    | none => return none
  match a, b with
  | .list xs, .list ys => return some (← compareSequences call compare true c xs ys)
  | .tuple xs, .tuple ys => return some (← compareSequences call compare false c xs ys)
  | .dict xs, .dict ys => asEquality (equalDicts call compare xs ys)
  | .snapshot xs, .snapshot ys =>
    asEquality (equalDicts call compare (entriesOfFields xs) (entriesOfFields ys))
  | .object d xs, .object e ys =>
    match ← read (·.recordNames? d) with
    | some names =>
      if d == e then
        asEquality do
          truth call (← compareSequences call compare false .eq ((xs.among names).map (·.2))
            ((ys.among names).map (·.2)))
      else return none
    | none => return none
  | .bound x f, .bound y g => asEquality (pure (x.same y && f.same g))
  | .alias d xs, .alias e ys =>
    asEquality do
      if d == e then truth call (← compareSequences call compare false .eq xs ys)
      else return false
  | .view p d, .view q e =>
    if p == .values || q == .values then return none
    else do
      let xs ← viewItems p d
      let ys ← viewItems q e
      let covered (fits : Bool) (xs ys : List Value) : Act Bool :=
        if fits then allAmong (equalBy call compare) xs ys else pure false
      match c with
      | .eq | .ne => asEquality (covered (xs.length == ys.length) xs ys)
      | .le => return some (.bool (← covered (xs.length ≤ ys.length) xs ys))
      | .lt => return some (.bool (← covered (xs.length < ys.length) xs ys))
      | .ge => return some (.bool (← covered (ys.length ≤ xs.length) ys xs))
      | .gt => return some (.bool (← covered (ys.length < xs.length) ys xs))
  | _, _ => return none

/-- Compares two values as the class of the first does by nature; nothing if it has no rule for the
two. -/
def compareByNature (call : Caller) (compare : Compare) (c : Comparison) (a b : Value) :
    Act (Option Value) := do
  match a.compareData? b with
  | some o => return some (.bool (c.holdsFor o))
  | none =>
    let found ← match a, b with
      | .ref r, .ref s => do compareCells call compare c (← load r) (← load s)
      | .config i, .config j => do
        let xs ← read (settingFields · i)
        let ys ← read (settingFields · j)
        match c.ofEquality? true with
        | some _ =>
          let same ← equalDicts call compare (entriesOfFields xs) (entriesOfFields ys)
          pure ((c.ofEquality? same).map .bool)
        | none => pure none
      | _, _ => pure none
    match found with
    | some v => return some v
    | none => return if a.same b then (c.ofEquality? true).map .bool else none

/-- What the class of a value answers to a comparison; nothing if it does not take the other one.
A special method comes before the nature of the class, and one for equality serves for inequality
as well. -/
def compareByClass (call : Caller) (compare : Compare) (c : Comparison) (self other : Value) :
    Act (Option Value) := do
  match ← callSpecial? call self c.name [other] with
  | some .notImplemented => return none
  | some v => return some v
  | none =>
    match c with
    | .ne =>
      match ← callSpecial? call self "eq" [other] with
      | some .notImplemented => return none
      | some v => return some (.bool (!(← truth call v)))
      | none => compareByNature call compare c self other
    | _ => compareByNature call compare c self other

/-- Compares two values by asking their classes: first that of the second value if it extends that
of the first, else first that of the first. -/
def compareByClasses (call : Caller) (compare : Compare) : Compare := fun c a b => do
  let d ← classOf a
  let e ← classOf b
  let extending ← read fun m => d != e && m.isSubclass e d
  let first ← if extending then compareByClass call compare c.swapped b a
    else compareByClass call compare c a b
  match first with
  | some v => return v
  | none =>
    let second ← if extending then compareByClass call compare c a b
      else compareByClass call compare c.swapped b a
    match second with
    | some v => return v
    | none =>
      match c.ofEquality? (a.same b) with
      | some r => return .bool r
      | none => failOrder c a b

/-- Compares two values that are nested at most `depth` deep. -/
def compareWithin (call : Caller) : (depth : Nat) → Compare
  | 0 => fun _ _ _ => fail .recursionError "maximum recursion depth exceeded in comparison"
  | depth + 1 => fun c a b => do
    match a.compareNumbers? b with
    | some o => return .bool (c.holdsFor o)
    | none => compareByClasses call (compareWithin call depth) c a b

/-- Compares two values. -/
def compare (call : Caller) : Compare :=
  fun c a b m => compareWithin call (m.heap.size + 2) c a b m

/-- Whether a comparison holds between two values. -/
def holds (call : Caller) (c : Comparison) (a b : Value) : Act Bool := do
  truth call (← compare call c a b)

/-- Whether two values are equal where an item is looked for. -/
def equal (call : Caller) (a b : Value) : Act Bool :=
  equalBy call (compare call) a b

end Act

end Covenant
