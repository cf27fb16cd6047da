import Covenant.Object.Arithmetic
import Covenant.Object.Conversion

/-!
Built-in functions on numbers and collections.
-/

namespace Covenant.Act

/-- The distance from zero. -/
def absolute (call : Caller) (v : Value) : Act Value := do
  match v with
  | .float x _ => newFloat x.abs
  | v =>
    match v.int? with
    | some n => return .int n.natAbs
    | none =>
      match ← callSpecial? call v "abs" [] with
      | some x => return x
      | none => fail .typeError ("bad operand type for abs(): '" ++ (← typeName v) ++ "'")

/-- Whether all items of a value count as true; those after the first that does not are not
asked. -/
def allTrue (call : Caller) (v : Value) : Act Bool :=
  through call v true fun _ x => do
    if ← truth call x then return .more true else return .enough false

/-- Whether some item of a value counts as true; those after the first that does are not asked. -/
def anyTrue (call : Caller) (v : Value) : Act Bool :=
  through call v false fun _ x => do
    if ← truth call x then return .enough true else return .more false

/-- The sum of the items of a value, from a start. -/
def sumFrom (call : Caller) (v start : Value) : Act Value := do
  let way ← iterate call v
  match start with
  | .text _ | .member _ =>
    fail .typeError "sum() can't sum strings [use ''.join(seq) instead]"
  | .bytes _ => fail .typeError "sum() can't sum bytes [use b''.join(seq) instead]"
  | _ =>
    let add (total x : Value) : Act (Progress Value) := do
      return .more (← arithmetic call .add total x)
    followWithin call add iterationLimit start way

/-- The sum of the items of the first argument, from the second if there is one. -/
def sum (call : Caller) (args : List Value) (named : Fields) : Act Value := do
  let given ← namedArguments ⟨"sum", ["", "start"], 1, 2, 1⟩ args named
  sumFrom call (given[0]?.join.getD .null) (given[1]?.join.getD (.int 0))

end Covenant.Act
