import Covenant.Number.Power

/-!
Binary floating-point numbers as exact fractions.

`decode` reads a number as sign, mantissa and power of two; `nearest` is the other direction,
the number closest to a fraction, with a tie going to the even mantissa. All exact work on
floating-point numbers (their shortest text, their digits at a given place, comparison with
integers, reading a numeral) goes through these two.
-/

namespace Covenant.Number

/-- The finite number `(-1)^negative * mantissa * 2^exponent`. -/
structure Binary where
  negative : Bool
  mantissa : Nat
  exponent : Int
  deriving Repr, DecidableEq

/-- A nonnegative fraction, not necessarily in lowest terms. -/
structure Ratio where
  num : Nat
  den : Nat
  deriving Repr, DecidableEq

/-- Whether the sign bit is set, as it is for negative zero. -/
def isNegative (x : Float) : Bool :=
  x.toBits >>> 63 == 1

/-- The parts of a finite number; `none` for the infinities and for what is not a number. -/
def decode (x : Float) : Option Binary :=
  let bits := x.toBits.toNat
  let negative := isNegative x
  let biased : Nat := bits / twoTo 52 % twoTo 11
  let fraction : Nat := bits % twoTo 52
  if biased = 2047 then none
  else if biased = 0 then some ⟨negative, fraction, -1074⟩
  else some ⟨negative, fraction + twoTo 52, (biased : Int) - 1075⟩

/-- The absolute value as a fraction. -/
def Binary.magnitude (d : Binary) : Ratio :=
  if d.exponent < 0 then ⟨d.mantissa, twoTo d.exponent.natAbs⟩
  else ⟨d.mantissa * twoTo d.exponent.natAbs, 1⟩

/-- The quotient rounded to a whole number, a half going to the even neighbour. -/
def roundHalfEven (num den : Nat) : Nat :=
  let q := num / den
  let twice := 2 * (num % den)
  if twice < den then q
  else if den < twice then q + 1
  else if q % 2 = 0 then q else q + 1

/-- `r * 2^(-e)`. -/
def Ratio.scale (r : Ratio) (e : Int) : Ratio :=
  if e < 0 then ⟨r.num * twoTo e.natAbs, r.den⟩ else ⟨r.num, r.den * twoTo e.natAbs⟩

/-- The power of two by which a positive fraction is divided so that its whole part has exactly
53 binary digits, but never below the least power that a number can have. -/
def Ratio.unitExponent (r : Ratio) : Int :=
  let guess : Int := (r.num.log2 : Int) - (r.den.log2 : Int) - 52
  let s := r.scale guess
  let exact :=
    if s.num < s.den * twoTo 52 then guess - 1
    else if s.den * twoTo 53 ≤ s.num then guess + 1
    else guess
  max exact (-1074)

/-- The number nearest to a nonnegative fraction, with the given sign; `none` where that would be
beyond the largest number. -/
def nearest (negative : Bool) (r : Ratio) : Option Float :=
  let sign := if negative then twoTo 63 else 0
  if r.num = 0 then some (Float.ofBits (UInt64.ofNat sign))
  else
    let e := r.unitExponent
    let s := r.scale e
    let m := roundHalfEven s.num s.den
    let bits := if m < twoTo 52 then m else (e + 1075).toNat * twoTo 52 + (m - twoTo 52)
    if 2047 * twoTo 52 ≤ bits then none
    else some (Float.ofBits (UInt64.ofNat (sign + bits)))

/-- The number nearest to an integer; `none` where there is none. -/
def ofInt? (n : Int) : Option Float :=
  nearest (n < 0) ⟨n.natAbs, 1⟩

/-- The infinity of the given sign. -/
def infinity (negative : Bool) : Float :=
  Float.ofBits (if negative then 0xfff0000000000000 else 0x7ff0000000000000)

/-- The value that is not a number. -/
def notANumber : Float :=
  Float.ofBits 0x7ff8000000000000

/-- The finite number rounded toward zero; `none` for the infinities and for what is not a
number. -/
def truncate? (x : Float) : Option Int :=
  (decode x).map fun d =>
    let whole := d.magnitude.num / d.magnitude.den
    if d.negative then -(whole : Int) else whole

/-- Whether a finite number is the integer `n`, exactly. -/
def equalsInt (x : Float) (n : Int) : Bool :=
  match decode x with
  | none => false
  | some d =>
    let v := d.magnitude
    v.num == n.natAbs * v.den && (d.mantissa == 0 || d.negative == decide (n < 0))

/-- How a number compares with an integer, exactly; `none` for what is not a number. -/
def compareInt (x : Float) (n : Int) : Option Ordering :=
  match decode x with
  | some d =>
    let v := d.magnitude
    let left : Int := if d.negative then -(v.num : Int) else v.num
    some (compare left (n * v.den))
  | none => if x.isNaN then none else some (if isNegative x then .lt else .gt)

/-- The remainder of two finite numbers with the sign of the first, exactly; the second is not
zero. -/
def remainder (x y : Binary) : Float :=
  let e := min x.exponent y.exponent
  let a := x.mantissa * twoTo (x.exponent - e).toNat
  let b := y.mantissa * twoTo (y.exponent - e).toNat
  let r := a % b
  let exact : Ratio := if e < 0 then ⟨r, twoTo e.natAbs⟩ else ⟨r * twoTo e.natAbs, 1⟩
  (nearest x.negative exact).getD 0

end Covenant.Number
