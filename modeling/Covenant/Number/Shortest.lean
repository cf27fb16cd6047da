import Covenant.Number.Binary64

/-!
Decimal digits of floating-point numbers: the fewest that read back, and those at a given place.
-/

namespace Covenant.Number

/-- The decimal `digits * 10^exponent`. -/
structure Decimal where
  digits : Nat
  exponent : Int
  deriving Repr, DecidableEq

/-- The decimal as a fraction. -/
def Decimal.toRatio (d : Decimal) : Ratio :=
  if d.exponent < 0 then ⟨d.digits, tenTo d.exponent.natAbs⟩
  else ⟨d.digits * tenTo d.exponent.natAbs, 1⟩

/-- The decimal digits of a natural number, most significant first. -/
def decimalDigits (n : Nat) : List Char :=
  (toString n).toList

/-- How many decimal digits the number has; zero has one. -/
def digitCount (n : Nat) : Nat :=
  (decimalDigits n).length

/-- The fraction divided by `10^k`. -/
def Ratio.shift (r : Ratio) (k : Int) : Ratio :=
  if k < 0 then ⟨r.num * tenTo k.natAbs, r.den⟩ else ⟨r.num, r.den * tenTo k.natAbs⟩

/-- The exponent `k` with `10^k ≤ r < 10^(k+1)`, for a positive fraction. -/
def Ratio.magnitudeExponent (r : Ratio) : Int :=
  let guess : Int := (digitCount r.num : Int) - (digitCount r.den : Int)
  let s := r.shift guess
  if s.num < s.den then guess - 1 else guess

/-- Of the two decimals next to a positive fraction on the grid of `count` significant digits, the
nearer one that satisfies `reads`, an exact tie going to the even digit. -/
def neighbour? (r : Ratio) (count : Nat) (reads : Decimal → Bool) : Option Decimal :=
  let exponent := r.magnitudeExponent - ((count : Int) - 1)
  let s := r.shift exponent
  let low := s.num / s.den
  let near := roundHalfEven s.num s.den
  let far := if near = low then low + 1 else low
  if reads ⟨near, exponent⟩ then some ⟨near, exponent⟩
  else if reads ⟨far, exponent⟩ then some ⟨far, exponent⟩
  else none

/-- The first hit on the grids of `count`, `count + 1`, … digits, `steps` of them. -/
def firstHit (r : Ratio) (reads : Decimal → Bool) : (steps count : Nat) → Option Decimal
  | 0, _ => none
  | steps + 1, count => (neighbour? r count reads).or (firstHit r reads steps (count + 1))

/-- The decimal with trailing zeros moved into the exponent. -/
def Decimal.normalize (d : Decimal) : Decimal :=
  let zeros := ((decimalDigits d.digits).reverse.takeWhile (· == '0')).length
  if d.digits = 0 then ⟨0, 0⟩ else ⟨d.digits / tenTo zeros, d.exponent + zeros⟩

/-- The decimal with the fewest digits that reads back as the same number, of several the
nearest. Seventeen digits always suffice. -/
def shortest (d : Binary) : Decimal :=
  if d.mantissa = 0 then ⟨0, 0⟩
  else
    let v := d.magnitude
    let bits := (nearest false v).map Float.toBits
    let reads (c : Decimal) : Bool := (nearest false c.toRatio).map Float.toBits == bits
    ((firstHit v reads 17 1).getD ⟨0, 0⟩).normalize

/-- The digits of a number rounded to `places` decimal places, exactly: the whole number nearest
to the value times `10^places`, a tie going to the even one. -/
def atPlaces (d : Binary) (places : Nat) : Nat :=
  let v := d.magnitude
  roundHalfEven (v.num * tenTo places) v.den

/-- The number rounded to `count` significant digits: the digits, exactly `count` of them, and the
decimal exponent of the first. Zero has the exponent zero. -/
def significant (d : Binary) (count : Nat) : Nat × Int :=
  if d.mantissa = 0 then (0, 0)
  else
    let v := d.magnitude
    let k := v.magnitudeExponent
    let s := v.shift (k - ((count : Int) - 1))
    let digits := roundHalfEven s.num s.den
    if tenTo count ≤ digits then (digits / 10, k + 1) else (digits, k)

end Covenant.Number
