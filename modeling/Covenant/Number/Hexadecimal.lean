import Covenant.Number.Reading
import Covenant.Text.Quoted

/-!
Floating-point numbers in hexadecimal digits: a leading digit, the thirteen digits of the fraction,
and a power of two. Every number is written exactly, and read back by rounding to the nearest one.
-/

namespace Covenant.Number

/-- A finite number in hexadecimal digits, without its sign. -/
def hexadecimalDigits (d : Binary) : List Char :=
  if d.mantissa = 0 then "0x0.0p+0".toList
  else
    let e := d.exponent + 52
    "0x".toList ++ [Text.hexDigit (d.mantissa / twoTo 52), '.'] ++
      Text.hexDigits 13 (d.mantissa % twoTo 52) ++ ['p', if e < 0 then '-' else '+'] ++
      (toString e.natAbs).toList

/-- A number in hexadecimal digits. -/
def hexadecimalText (x : Float) : String :=
  let sign := if isNegative x && !x.isNaN then ['-'] else []
  String.ofList (sign ++ match decode x with
    | some d => hexadecimalDigits d
    | none => (if x.isNaN then "nan" else "inf").toList)

/-- What reading hexadecimal digits gives. -/
inductive HexadecimalReading where
  | value (x : Float)
  | tooLarge
  | malformed

/-- The power of two after the digits. -/
def readPower? : List Char → Option Int
  | [] => some 0
  | p :: rest =>
    if p == 'p' || p == 'P' then
      let (negative, digits) := splitSign rest
      match takeDigits 0 0 digits with
      | (n, count, []) => if count = 0 then none else some (if negative then -(n : Int) else n)
      | _ => none
    else none

/-- Powers of two beyond this one, in either direction, are those of no number. -/
def powerLimit : Int := 20000

/-- The number `mantissa * 2^exponent`. -/
def ofHexadecimal (negative : Bool) (mantissa : Nat) (exponent : Int) : HexadecimalReading :=
  if mantissa = 0 then .value (if negative then -0.0 else 0.0)
  else
    let top := exponent + mantissa.log2
    if powerLimit < top then .tooLarge
    else if top < -powerLimit then .value (if negative then -0.0 else 0.0)
    else
      let exact : Ratio := if exponent < 0 then ⟨mantissa, twoTo exponent.natAbs⟩
        else ⟨mantissa * twoTo exponent.natAbs, 1⟩
      match nearest negative exact with
      | some x => .value x
      | none => .tooLarge

/-- Whether a character is a hexadecimal digit. -/
def isHexadecimal (c : Char) : Bool :=
  ((digitValue? c).map fun v => decide (v < 16)).getD false

/-- The number that hexadecimal digits denote. -/
def hexadecimalValue (digits : List Char) : Nat :=
  digits.foldl (fun n c => 16 * n + (digitValue? c).getD 0) 0

/-- Reads a number in hexadecimal digits; the mark before them and the power can be left out. -/
def readHexadecimal (s : String) : HexadecimalReading :=
  let (negative, body) := splitSign (numeralChars s)
  let word := Text.lower (String.ofList body)
  if word == "inf" || word == "infinity" then .value (infinity negative)
  else if word == "nan" then .value notANumber
  else
    let body := match body with
      | '0' :: 'x' :: rest | '0' :: 'X' :: rest => rest
      | rest => rest
    let whole := body.takeWhile isHexadecimal
    let rest := body.drop whole.length
    let (fraction, rest) := match rest with
      | '.' :: rest =>
        let fraction := rest.takeWhile isHexadecimal
        (fraction, rest.drop fraction.length)
      | rest => ([], rest)
    match readPower? rest with
    | none => .malformed
    | some power =>
      if whole.isEmpty && fraction.isEmpty then .malformed
      else
        ofHexadecimal negative (hexadecimalValue (whole ++ fraction))
          (power - 4 * fraction.length)

end Covenant.Number
