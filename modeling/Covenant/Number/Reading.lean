import Covenant.Number.Shortest
import Covenant.Text.Blank
import Covenant.Text.Digit

/-!
Reading numerals from text: integers and decimal fractions in the digits of any script, with blanks
allowed around them and single underscores between digits.
-/

namespace Covenant.Number

/-- The value of a digit, letters counting from ten. -/
def digitValue? (c : Char) : Option Nat :=
  if '0' ≤ c && c ≤ '9' then some (c.toNat - 48)
  else if 'a' ≤ c && c ≤ 'z' then some (c.toNat - 87)
  else if 'A' ≤ c && c ≤ 'Z' then some (c.toNat - 55)
  else none

/-- A run of digits in which single underscores may stand between digits: the number it denotes, how
many digits it has, and what follows it. Nothing if an underscore is misplaced; `fresh` says that
the last character was no digit. -/
def digitRun (base : Nat) : (fresh : Bool) → (acc count : Nat) → List Char →
    Option (Nat × Nat × List Char)
  | fresh, acc, count, [] => if fresh && 0 < count then none else some (acc, count, [])
  | fresh, acc, count, c :: rest =>
    if c == '_' then if fresh then none else digitRun base true acc count rest
    else
      match digitValue? c with
      | some v =>
        if v < base then digitRun base false (acc * base + v) (count + 1) rest
        else if fresh && 0 < count then none
        else some (acc, count, c :: rest)
      | none => if fresh && 0 < count then none else some (acc, count, c :: rest)

/-- A leading sign, and the rest. -/
def splitSign : List Char → Bool × List Char
  | '-' :: rest => (true, rest)
  | '+' :: rest => (false, rest)
  | rest => (false, rest)

/-- A numeral without what may stand around it, its digits in ASCII. -/
def numeralChars (s : String) : List Char :=
  (Text.stripChars Text.isMargin s.toList).map Text.asciiDigit

/-- What reading an integer comes to. -/
inductive IntegerReading where
  | value (n : Int)
  | malformed
  /-- More digits than are read in a base that is no power of two. -/
  | tooLong (digits : Nat)
  deriving Repr, DecidableEq

/-- The base that a mark of two characters stands for. -/
def markedBase? : List Char → Option Nat
  | '0' :: c :: _ =>
    if c == 'x' || c == 'X' then some 16
    else if c == 'o' || c == 'O' then some 8
    else if c == 'b' || c == 'B' then some 2
    else none
  | _ => none

/-- The base in which digits are to be read, whether only zero may be written so, and the digits
without the mark of the base. Base zero leaves the base to the mark. -/
def settleBase (base : Nat) (digits : List Char) : Nat × Bool × List Char :=
  let unmarked := match digits.drop 2 with
    | '_' :: rest => rest
    | rest => rest
  match markedBase? digits with
  | some marked =>
    if base = 0 || base = marked then (marked, false, unmarked) else (base, false, digits)
  | none => if base = 0 then (10, digits.head? == some '0', digits) else (base, false, digits)

/-- Reads an integer in a base from 2 to 36, or in base 0 by its mark. -/
def readInteger (base : Nat) (s : String) : IntegerReading :=
  let (negative, digits) := splitSign (numeralChars s)
  let (base, onlyZero, digits) := settleBase base digits
  match digitRun base true 0 0 digits with
  | none => .malformed
  | some (n, count, rest) =>
    if digitLimit < count && !([2, 4, 8, 16, 32].contains base) then .tooLong count
    else if count = 0 || !rest.isEmpty || (onlyZero && n != 0) then .malformed
    else .value (if negative then -(n : Int) else n)

/-- A run of decimal digits with single underscores inside, as its value and its number of digits,
and the rest. A run may be empty; an underscore that no digit follows ends it. -/
def takeDigits : (acc count : Nat) → List Char → Nat × Nat × List Char
  | acc, count, '_' :: c :: rest =>
    if 0 < count && c.isDigit then takeDigits (acc * 10 + (c.toNat - 48)) (count + 1) rest
    else (acc, count, '_' :: c :: rest)
  | acc, count, c :: rest =>
    if c.isDigit then takeDigits (acc * 10 + (c.toNat - 48)) (count + 1) rest
    else (acc, count, c :: rest)
  | acc, count, [] => (acc, count, [])

/-- An exponent part at the end of a numeral: nothing, or a mark, a sign and digits. -/
def readExponent? : List Char → Option Int
  | [] => some 0
  | c :: rest =>
    if c == 'e' || c == 'E' then
      let (negative, digits) := splitSign rest
      match takeDigits 0 0 digits with
      | (_, 0, _) => none
      | (n, _, []) => some (if negative then -(n : Int) else n)
      | _ => none
    else none

/-- The largest power of ten that is worked out; a numeral beyond it is zero or infinite. -/
def exponentLimit : Int := 5000

/-- The number nearest to `digits * 10^exponent`, infinite beyond the largest number. -/
def ofDecimal (negative : Bool) (digits : Nat) (exponent : Int) : Float :=
  let top := exponent + digitCount digits
  if digits = 0 then if negative then -0.0 else 0.0
  else if top < -exponentLimit then if negative then -0.0 else 0.0
  else if exponentLimit < top then infinity negative
  else (nearest negative (Decimal.toRatio ⟨digits, exponent⟩)).getD (infinity negative)

/-- The number that a decimal numeral denotes: digits with at most one point, an exponent, or one
of the words for the infinities and for what is not a number. -/
def readFloat? (s : String) : Option Float :=
  let (negative, rest) := splitSign (numeralChars s)
  let word := Text.lowerAscii (String.ofList rest)
  if word == "inf" || word == "infinity" then some (infinity negative)
  else if word == "nan" then some notANumber
  else
    let (whole, wholeCount, rest) := takeDigits 0 0 rest
    let (fraction, fractionCount, rest) :=
      match rest with
      | '.' :: rest => takeDigits 0 0 rest
      | rest => (0, 0, rest)
    if wholeCount + fractionCount = 0 then none
    else
      (readExponent? rest).map fun e =>
        ofDecimal negative (whole * tenTo fractionCount + fraction) (e - fractionCount)

end Covenant.Number
