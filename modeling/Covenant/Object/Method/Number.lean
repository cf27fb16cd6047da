import Covenant.Number.Hexadecimal
import Covenant.Object.Method.Slice

/-!
The methods of integers and floating-point numbers.
-/

namespace Covenant.Act.NumberMethod

open Covenant.Number

/-- Two values as a pair. -/
def pair (a b : Value) : Act Value :=
  allocValue (.tuple [a, b])

/-! ## Integers -/

/-- Whether an order of bytes starts with the greatest. -/
def greatestFirst (order : String) : Act Bool := do
  if order == "big" then return true
  else if order == "little" then return false
  else fail .valueError "byteorder must be either 'little' or 'big'"

/-- The lowest `count` bytes of a number, greatest first. -/
def lowestBytes : (count : Nat) → Nat → List UInt8
  | 0, _ => []
  | count + 1, n => lowestBytes count (n / 256) ++ [(n % 256).toUInt8]

/-- An integer as a byte string of a length. -/
def toBytes (call : Caller) (n : Int) (args : List Value) (named : Fields) : Act Value := do
  let given ← namedArguments ⟨"to_bytes", ["length", "byteorder", "signed"], 0, 2, 0⟩ args named
  let length ← match given[0]?.join with
    | none => pure 1
    | some v => sizeArgument call v
  let order ← textOption? "to_bytes() argument 'byteorder'" given[1]?.join
  let signed ← match given[2]?.join with
    | none => pure false
    | some v => truth call v
  let big ← greatestFirst (order.getD "big")
  if length < 0 then fail .valueError "length argument must be non-negative"
  else if n < 0 && !signed then fail .overflowError "can't convert negative int to unsigned"
  else
    let count := length.toNat
    let bits := 8 * count
    let bytes := if n < 0 then lowestBytes count (n + (twoTo bits : Int)).toNat
      else lowestBytes count n.toNat
    let fits : Bool :=
      if signed then
        if count = 0 then n == 0
        else -(twoTo (bits - 1) : Int) ≤ n && n < (twoTo (bits - 1) : Int)
      else n < (twoTo bits : Int)
    if fits then return .bytes (if big then bytes else bytes.reverse)
    else fail .overflowError "int too big to convert"

/-- The integer that a byte string stands for. -/
def fromBytes (call : Caller) (cls : Value) (args : List Value) (named : Fields) :
    Act Value := do
  let given ← namedArguments ⟨"from_bytes", ["bytes", "byteorder", "signed"], 0, 2, 1⟩ args named
  let order ← textOption? "from_bytes() argument 'byteorder'" given[1]?.join
  let signed ← match given[2]?.join with
    | none => pure false
    | some v => truth call v
  let big ← greatestFirst (order.getD "big")
  let source := given[0]?.join.getD .null
  let bytes ← match source with
    | .bytes b => pure b
    | v => do
      if v.text?.isSome then
        fail .typeError ("cannot convert '" ++ (← typeName v) ++ "' object to bytes")
      match ← bytesOfItems call v with
      | .bytes b => pure b
      | _ => pure []
  let bytes := if big then bytes else bytes.reverse
  let n := bytes.foldl (fun n b => 256 * n + b.toNat) 0
  let half := twoTo (8 * bytes.length - 1)
  let value : Int := if signed && 0 < bytes.length && half ≤ n then n - 2 * half else n
  match cls with
  | .cls (.known .bool) => return .bool (value != 0)
  | _ => return .int value

/-- An integer rounded to a multiple of a power of ten, a half going to the even neighbour. -/
def roundedInteger (n : Int) (places : Nat) : Int :=
  let unit := tenTo places
  let q := roundHalfEven n.natAbs unit * unit
  if n < 0 then -(q : Int) else q

/-- An integer rounded to some decimal places. -/
def roundInteger (how : Invocation) (call : Caller) (n : Int) (args : List Value) (named : Fields)
    : Act Value := do
  match ← placedArguments (how.title "__round__") "__round__" 0 1 args named with
  | [] => return .int n
  | v :: _ =>
    let places ← indexOf call v
    if 0 ≤ places then return .int n
    else if (toString n.natAbs).length < places.natAbs then return .int 0
    else return .int (roundedInteger n places.natAbs)

/-- The number of binary digits. -/
def binaryLength (n : Nat) : Nat :=
  if n = 0 then 0 else n.log2 + 1

/-- How many binary digits are ones. -/
def onesIn : (steps : Nat) → Nat → Nat
  | 0, _ => 0
  | steps + 1, n => n % 2 + onesIn steps (n / 2)

/-- What a method of an integer gives; nothing if integers have no method of that name. -/
def onInteger? (how : Invocation) (call : Caller) (name : String) (v : Value) (n : Int)
    (args : List Value) (named : Fields) : Option (Act Value) :=
  let plain (result : Act Value) : Option (Act Value) := some do
    noArguments (how.title name) args named
    result
  match name with
  | "as_integer_ratio" => plain (pair (.int n) (.int 1))
  | "bit_count" => plain (pure (.int (onesIn (binaryLength n.natAbs) n.natAbs)))
  | "bit_length" => plain (pure (.int (binaryLength n.natAbs)))
  | "conjugate" | "__ceil__" | "__floor__" | "__trunc__" => plain (pure (.int n))
  | "__getnewargs__" => plain (allocValue (.tuple [.int n]))
  | "__round__" => some (roundInteger how call n args named)
  | "to_bytes" => some (toBytes call n args named)
  | "__format__" => some do
    let spec ← textArgument "__format__() argument" (← onlyArgument (how.title name) args named)
    return .text (← laidOut call v spec)
  | _ => none

/-! ## Floating-point numbers -/

/-- A floating-point number as a fraction in lowest terms. -/
def ratioOf (x : Float) : Act Value := do
  match Number.decode x with
  | none =>
    if x.isNaN then fail .valueError "cannot convert NaN to integer ratio"
    else fail .overflowError "cannot convert Infinity to integer ratio"
  | some d =>
    let v := d.magnitude
    let common := Nat.gcd v.num v.den
    let num : Int := v.num / common
    pair (.int (if d.negative then -num else num)) (.int (v.den / common : Nat))

/-- A floating-point number rounded to a whole number in some way. -/
def whole (x : Float) (round : Binary → Int) : Act Value := do
  match Number.decode x with
  | some d => return .int (round d)
  | none => return .int (← integerOfFloat x)

/-- The absolute value rounded to a whole number in some way, with the sign put back. -/
def signed (round : Ratio → Nat) (d : Binary) : Int :=
  let n : Int := round d.magnitude
  if d.negative then -n else n

/-- The greatest whole number that is not greater. -/
def floor (d : Binary) : Int :=
  let v := d.magnitude
  if d.negative then -((v.num + v.den - 1) / v.den : Nat) else (v.num / v.den : Nat)

/-- The least whole number that is not less. -/
def ceiling (d : Binary) : Int :=
  -(floor { d with negative := !d.negative })

/-- The places after which rounding changes nothing. -/
def finestPlace : Int := 323

/-- The places before which rounding leaves nothing. -/
def coarsestPlace : Int := -308

/-- A finite number rounded to some decimal places. -/
def roundedFloat (d : Binary) (places : Int) : Option Float :=
  let v := d.magnitude
  let unit := tenTo places.natAbs
  if 0 ≤ places then nearest d.negative ⟨roundHalfEven (v.num * unit) v.den, unit⟩
  else nearest d.negative ⟨roundHalfEven v.num (v.den * unit) * unit, 1⟩

/-- A floating-point number rounded: to an integer, or to some decimal places. -/
def roundFloat (call : Caller) (v : Value) (x : Float) (args : List Value) (named : Fields) :
    Act Value := do
  let args ← placedArguments "float.__round__" "__round__" 0 1 args named
  match args.headD .null with
  | .null => whole x (signed fun r => roundHalfEven r.num r.den)
  | p =>
    let places ← indexOf call p
    match Number.decode x with
    | none => return v
    | some d =>
      if d.mantissa = 0 || finestPlace < places then return v
      else if places < coarsestPlace then newFloat (0 * x)
      else
        match roundedFloat d places with
        | some y => newFloat y
        | none => fail .overflowError "rounded value too large to represent"

/-- The number that hexadecimal digits denote. -/
def fromHexadecimal (args : List Value) (named : Fields) : Act Value := do
  let v ← onlyArgument "float.fromhex" args named
  match v.text? with
  | none => fail .typeError "bad argument type for built-in operation"
  | some s =>
    match readHexadecimal s with
    | .value x => newFloat x
    | .tooLarge =>
      fail .overflowError "hexadecimal value too large to represent as a float"
    | .malformed => fail .valueError "invalid hexadecimal floating-point string"

/-- What a method of a floating-point number gives; nothing if such numbers have no method of that
name. -/
def onFloat? (call : Caller) (name : String) (v : Value) (x : Float) (args : List Value)
    (named : Fields) : Option (Act Value) :=
  let plain (result : Act Value) : Option (Act Value) := some do
    noArguments ("float." ++ name) args named
    result
  match name with
  | "as_integer_ratio" => plain (ratioOf x)
  | "conjugate" => plain (pure v)
  | "hex" => plain (pure (.text (hexadecimalText x)))
  | "is_integer" =>
    plain (pure (.bool (((Number.decode x).map fun d => d.magnitude.num % d.magnitude.den == 0).getD
      false)))
  | "__floor__" => plain (whole x floor)
  | "__ceil__" => plain (whole x ceiling)
  | "__trunc__" => plain (whole x (signed fun r => r.num / r.den))
  | "__getnewargs__" => plain (allocValue (.tuple [v]))
  | "__round__" => some (roundFloat call v x args named)
  | "__format__" => some do
    let spec ← textArgument "__format__() argument" (← onlyArgument "float.__format__" args named)
    return .text (← laidOut call v spec)
  | _ => none

end Covenant.Act.NumberMethod
