import Covenant.Object.Percent

/-!
Arithmetic on values, and the faults of operands that do not fit together.

Two numbers are reckoned with at once. Otherwise the classes of the operands are asked: the special
method of the first operand, then the one of the second for exchanged operands; where the class of
the second extends that of the first and has a method of its own, it is asked first. What no method
takes is tried as sequences, which are joined by addition and repeated by multiplication.
-/

namespace Covenant.Act

/-- Raises the fault for operands of types that do not fit together. -/
def failOperands {α : Type} (sign : String) (a b : Value) : Act α := do
  fail .typeError ("unsupported operand type(s) for " ++ sign ++ ": '" ++ (← typeName a) ++
    "' and '" ++ (← typeName b) ++ "'")

/-! ## Sequences -/

/-- A value that can be joined and repeated. -/
inductive Sequence where
  | text (s : String)
  | bytes (b : List UInt8)
  | list (items : List Value)
  | tuple (items : List Value)

/-- A value as a sequence. -/
def asSequence? (v : Value) : Act (Option Sequence) := do
  match v with
  | .text s => return some (.text s)
  | .member m => return some (.text m.text)
  | .bytes b => return some (.bytes b)
  | .ref r =>
    match ← load r with
    | .list items => return some (.list items)
    | .tuple items => return some (.tuple items)
    | _ => return none
  | _ => return none

/-- A sequence as a new value. -/
def ofSequence (s : Sequence) : Act Value := do
  match s with
  | .text s => return .text s
  | .bytes b => return .bytes b
  | .list items => allocValue (.list items)
  | .tuple items => allocValue (.tuple items)

/-- Two sequences of one type joined. -/
def Sequence.append? : Sequence → Sequence → Option Sequence
  | .text s, .text t => some (.text (s ++ t))
  | .bytes s, .bytes t => some (.bytes (s ++ t))
  | .list s, .list t => some (.list (s ++ t))
  | .tuple s, .tuple t => some (.tuple (s ++ t))
  | _, _ => none

/-- The number of items of a sequence. -/
def Sequence.length : Sequence → Nat
  | .text s => s.length
  | .bytes b => b.length
  | .list items | .tuple items => items.length

/-- `count` copies of a list, one after the other. -/
def repeated {α : Type} (count : Nat) (items : List α) : List α :=
  (List.replicate count items).flatten

/-- A sequence repeated. -/
def Sequence.repeat (count : Nat) : Sequence → Sequence
  | .text s => .text (String.ofList (repeated count s.toList))
  | .bytes b => .bytes (repeated count b)
  | .list items => .list (repeated count items)
  | .tuple items => .tuple (repeated count items)

/-- Raises the fault for a sequence that is joined with something else. -/
def failJoin {α : Type} (s : Sequence) (b : Value) : Act α := do
  let other ← typeName b
  match s with
  | .text _ => fail .typeError ("can only concatenate str (not \"" ++ other ++ "\") to str")
  | .list _ => fail .typeError ("can only concatenate list (not \"" ++ other ++ "\") to list")
  | .tuple _ => fail .typeError ("can only concatenate tuple (not \"" ++ other ++ "\") to tuple")
  | .bytes _ => fail .typeError ("can't concat " ++ other ++ " to bytes")

/-- Joins a sequence with another value. -/
def join (s : Sequence) (b : Value) : Act Value := do
  match (← asSequence? b).bind s.append? with
  | some joined => ofSequence joined
  | none => failJoin s b

/-- The most items that a sequence made by repetition has. -/
def storageLimit : Nat := Number.twoTo 33

/-- Raises the fault of a sequence that cannot get so long. -/
def failLength {α : Type} (s : Sequence) (length : Nat) : Act α :=
  if (length : Int) ≤ largestLength then failWith .memoryError []
  else
    match s with
    | .text _ => fail .overflowError "repeated string is too long"
    | .bytes _ => fail .overflowError "repeated bytes are too long"
    | _ => failWith .memoryError []

/-- A sequence repeated as often as a value says; a negative number counts as zero. -/
def repeatSequence (call : Caller) (s : Sequence) (count : Value) : Act Value := do
  match ← indexOf? call count with
  | none =>
    fail .typeError
      ("can't multiply sequence by non-int of type '" ++ (← typeName count) ++ "'")
  | some n =>
    if outOfWord n then failWord .overflowError count
    else if s.length = 0 then ofSequence s
    else if storageLimit < n.toNat * s.length then failLength s (n.toNat * s.length)
    else ofSequence (s.repeat n.toNat)

/-- An operation on operands of which one is a sequence; `sign` is what a fault about the operands
calls it. -/
def sequenceArithmetic (call : Caller) (sign : String) (o : Arithmetic) (a b : Value) :
    Act Value := do
  match o, (← asSequence? a), (← asSequence? b) with
  | .add, some s, _ => join s b
  | .mul, some s, _ => repeatSequence call s b
  | .mul, none, some s => repeatSequence call s a
  | _, _, _ => failOperands sign a b

/-! ## Special methods -/

/-- The special methods of a value for an operation: as it is, and with the operands exchanged. -/
def operationMethods (v : Value) (o : Arithmetic) : Act (Option Value × Option Value) := do
  return (← special? v o.name, ← special? v o.reflectedName)

/-- What a special method answers; nothing if it does not take the operand or is not there. -/
def askMethod (call : Caller) (self : Value) (method : Option Value) (other : Value) :
    Act (Option Value) := do
  match method with
  | none => return none
  | some found =>
    match ← callThrough call self found [other] [] with
    | .notImplemented => return none
    | v => return some v

/-- The answer of the first of two questions that has one. -/
def orElse (first second : Act (Option Value)) : Act (Option Value) := do
  match ← first with
  | some v => return some v
  | none => second

/-- What the special methods of the operands make of an operation; nothing if none of them takes
it. -/
def askOperands (call : Caller) (o : Arithmetic) (a b : Value) : Act (Option Value) := do
  let (own, ownReflected) ← operationMethods a o
  let (other, reflected) ← operationMethods b o
  let d ← classOf a
  let e ← classOf b
  let askFirst := askMethod call a own b
  let askSecond := askMethod call b reflected a
  if d == e then askFirst
  else if other.isNone && reflected.isNone then askFirst
  else
    let differing := match ownReflected, reflected with
      | some x, some y => !x.same y
      | none, some _ => true
      | _, none => false
    let asked := own.isSome || ownReflected.isSome
    let extending ← read (·.isSubclass e d)
    if asked && extending && differing then orElse askSecond askFirst
    else orElse askFirst askSecond

/-- An operation on two values that are not both numbers. -/
def otherArithmetic (call : Caller) (sign : String) (o : Arithmetic) (a b : Value) : Act Value := do
  let filled ← match o with
    | .mod => percent? call a b
    | _ => pure none
  match filled with
  | some v => return v
  | none =>
    match ← askOperands call o a b with
    | some v => return v
    | none => sequenceArithmetic call sign o a b

/-- An arithmetic operation; `sign` is what a fault about the operands calls it. -/
def arithmeticAs (call : Caller) (sign : String) (o : Arithmetic) (a b : Value) : Act Value := do
  match ← numberArithmetic? o a b with
  | some v => return v
  | none => otherArithmetic call sign o a b

/-- An arithmetic operation. -/
def arithmetic (call : Caller) (o : Arithmetic) (a b : Value) : Act Value :=
  arithmeticAs call o.sign o a b

/-- An operation that changes the first operand if it can, and else gives a new value. -/
def arithmeticInPlace (call : Caller) (o : Arithmetic) (a b : Value) : Act Value := do
  let byMethods : Act Value := do
    match ← askMethod call a (← special? a o.inPlaceName) b with
    | some v => return v
    | none => arithmeticAs call (o.sign ++ "=") o a b
  match ← numberArithmetic? o a b with
  | some v => return v
  | none =>
    match a, o with
    | .ref r, .add =>
      match ← load r with
      | .list _ =>
        match ← askOperands call o a b with
        | some v => return v
        | none => do
          extendList call r b
          return a
      | _ => byMethods
    | _, _ => byMethods

end Covenant.Act
