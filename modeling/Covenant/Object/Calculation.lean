import Covenant.Class
import Covenant.Number.Binary64

/-!
Arithmetic on numbers.

Integers are unbounded and division rounds down; a floating-point number makes the whole operation
one of floating-point numbers.
-/

namespace Covenant

/-- The six arithmetic operations. -/
inductive Arithmetic where
  | add
  | sub
  | mul
  | div
  | floorDiv
  | mod
  deriving Repr, DecidableEq

/-- The sign of an operation. -/
def Arithmetic.sign : Arithmetic → String
  | .add => "+"
  | .sub => "-"
  | .mul => "*"
  | .div => "/"
  | .floorDiv => "//"
  | .mod => "%"

/-- The name of the special method for an operation. -/
def Arithmetic.name : Arithmetic → String
  | .add => "add"
  | .sub => "sub"
  | .mul => "mul"
  | .div => "truediv"
  | .floorDiv => "floordiv"
  | .mod => "mod"

/-- The name of the special method for an operation with the operands exchanged. -/
def Arithmetic.reflectedName (o : Arithmetic) : String :=
  "r" ++ o.name

/-- The name of the special method for an operation that changes the first operand. -/
def Arithmetic.inPlaceName (o : Arithmetic) : String :=
  "i" ++ o.name

namespace Number

/-- A zero with the sign of a number. -/
def zeroLike (x : Float) : Float :=
  if isNegative x then -0.0 else 0.0

/-- The remainder of two floating-point numbers with the sign of the first; the second is not
zero. -/
def floatRemainder (x y : Float) : Float :=
  match decode x, decode y with
  | some a, some b => remainder a b
  | some _, none => if y.isNaN then y else x
  | none, _ => notANumber

/-- The quotient rounded down and the remainder with the sign of the divisor, of floating-point
numbers; the divisor is not zero. -/
def floatDivMod (x y : Float) : Float × Float :=
  let r := floatRemainder x y
  let q := (x - r) / y
  let (q, r) :=
    if r == 0 then (q, zeroLike y)
    else if (y < 0) != (r < 0) then (q - 1, r + y)
    else (q, r)
  let whole :=
    if q == 0 then zeroLike (x / y)
    else
      let f := q.floor
      if q - f > 0.5 then f + 1 else f
  (whole, r)

end Number

namespace Act

/-- An arithmetic operation on integers. -/
def integerArithmetic (o : Arithmetic) (a b : Int) : Act Value := do
  match o with
  | .add => return .int (a + b)
  | .sub => return .int (a - b)
  | .mul => return .int (a * b)
  | .floorDiv =>
    if b = 0 then fail .zeroDivisionError "integer division or modulo by zero"
    else return .int (Int.fdiv a b)
  | .mod =>
    if b = 0 then fail .zeroDivisionError "integer modulo by zero"
    else return .int (Int.fmod a b)
  | .div =>
    if b = 0 then fail .zeroDivisionError "division by zero"
    else
      match Number.nearest ((a < 0) != (b < 0)) ⟨a.natAbs, b.natAbs⟩ with
      | some x => newFloat x
      | none => fail .overflowError "integer division result too large for a float"

/-- An arithmetic operation on floating-point numbers. -/
def floatArithmetic (o : Arithmetic) (x y : Float) : Act Value := do
  match o with
  | .add => newFloat (x + y)
  | .sub => newFloat (x - y)
  | .mul => newFloat (x * y)
  | .div =>
    if y == 0 then fail .zeroDivisionError "float division by zero" else newFloat (x / y)
  | .floorDiv =>
    if y == 0 then fail .zeroDivisionError "float floor division by zero"
    else newFloat (Number.floatDivMod x y).1
  | .mod =>
    if y == 0 then fail .zeroDivisionError "float modulo"
    else newFloat (Number.floatDivMod x y).2

/-- An integer as a floating-point number. -/
def asFloat (n : Int) : Act Float := do
  match Number.ofInt? n with
  | some x => return x
  | none => fail .overflowError "int too large to convert to float"

/-- An operation on two numbers; `none` if one of the values is no number. -/
def numberArithmetic? (o : Arithmetic) (a b : Value) : Act (Option Value) := do
  match a, b with
  | .float x _, .float y _ => return some (← floatArithmetic o x y)
  | .float x _, b =>
    match b.int? with
    | some n => return some (← floatArithmetic o x (← asFloat n))
    | none => return none
  | a, .float y _ =>
    match a.int? with
    | some n => return some (← floatArithmetic o (← asFloat n) y)
    | none => return none
  | a, b =>
    match a.int?, b.int? with
    | some n, some k => return some (← integerArithmetic o n k)
    | _, _ => return none

end Act

end Covenant
