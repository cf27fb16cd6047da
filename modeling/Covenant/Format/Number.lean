import Covenant.Format.Spec
import Covenant.Number.Shortest

/-!
Numbers as text: the plain text of a floating-point number, and integers and floating-point
numbers laid out by a specification.
-/

namespace Covenant.Format

open Covenant.Number

/-- `count` copies of a character. -/
def copies (count : Nat) (c : Char) : List Char :=
  List.replicate count c

/-- The text filled up on the left to at least `width` characters. -/
def padLeft (width : Nat) (c : Char) (s : List Char) : List Char :=
  copies (width - s.length) c ++ s

/-! ## Floating-point digits -/

/-- How digits are written out around the decimal point. -/
structure Style where
  /-- At least one digit follows the point where no exponent is written. -/
  pointZero : Bool
  /-- The point stands even if no digit follows it. -/
  keepPoint : Bool
  deriving Repr, DecidableEq

/-- The whole and the fractional part joined by the point, if the style wants one. -/
def Style.join (style : Style) (whole fraction : List Char) : List Char :=
  if fraction.isEmpty && !style.keepPoint then whole else whole ++ '.' :: fraction

/-- An exponent of ten: the mark, a sign and at least two digits. -/
def exponentText (e : Int) : List Char :=
  'e' :: (if e < 0 then '-' else '+') :: padLeft 2 '0' (decimalDigits e.natAbs)

/-- `0.d₁d₂… * 10^point` written without an exponent. -/
def positional (style : Style) (digits : List Char) (point : Int) : List Char :=
  let whole := if point ≤ 0 then ['0'] else
    (digits ++ copies (point.toNat - digits.length) '0').take point.toNat
  let fraction := if point ≤ 0 then copies point.natAbs '0' ++ digits else digits.drop point.toNat
  let fraction := if fraction.isEmpty && style.pointZero then ['0'] else fraction
  style.join whole fraction

/-- `d₁.d₂… * 10^e` written with an exponent. -/
def scientific (style : Style) (digits : List Char) (e : Int) : List Char :=
  style.join (digits.take 1) (digits.drop 1) ++ exponentText e

/-- The digits without trailing zeros, but at least one. -/
def trimZeros (digits : List Char) : List Char :=
  let kept := (digits.reverse.dropWhile (· == '0')).reverse
  if kept.isEmpty then ['0'] else kept

/-- The shortest digits of the absolute value, written without an exponent from `10^-4` up to
`10^16`. -/
def shortestText (d : Binary) (keepPoint : Bool) : List Char :=
  let s := shortest d
  let digits := decimalDigits s.digits
  let point : Int := if s.digits = 0 then 1 else s.exponent + digits.length
  let style : Style := ⟨true, keepPoint⟩
  if -4 < point && point ≤ 16 then positional style digits point
  else scientific style digits (point - 1)

/-- The absolute value with a fixed number of places. -/
def fixedText (d : Binary) (places : Nat) (keepPoint : Bool) : List Char :=
  let digits := padLeft (places + 1) '0' (decimalDigits (atPlaces d places))
  let cut := digits.length - places
  (Style.mk false keepPoint).join (digits.take cut) (digits.drop cut)

/-- The absolute value with an exponent and a fixed number of places. -/
def scientificText (d : Binary) (places : Nat) (keepPoint : Bool) : List Char :=
  let (digits, e) := significant d (places + 1)
  scientific ⟨false, keepPoint⟩ (padLeft (places + 1) '0' (decimalDigits digits)) e

/-- The absolute value with `precision` significant digits, with an exponent where it is below
`10^-4` or has more digits before the point than are shown. -/
def generalText (d : Binary) (precision : Nat) (pointZero keepPoint : Bool) : List Char :=
  let precision := max precision 1
  let (value, e) := significant d precision
  let all := padLeft precision '0' (decimalDigits value)
  let digits := if keepPoint then all else trimZeros all
  let limit : Int := if pointZero then (precision : Int) - 1 else precision
  if -4 < e + 1 && e + 1 ≤ limit then positional ⟨pointZero, keepPoint⟩ digits (e + 1)
  else scientific ⟨false, keepPoint⟩ digits e

/-- The text of what is not a finite number, without its sign. -/
def specialText (x : Float) : List Char :=
  if x.isNaN then "nan".toList else "inf".toList

/-- The plain text of a floating-point number: the fewest digits that read back. -/
def floatText (x : Float) : String :=
  let body := match decode x with
    | some d => shortestText d false
    | none => specialText x
  String.ofList (if isNegative x && !x.isNaN then '-' :: body else body)

/-! ## Fields -/

/-- The digits, last first, with `mark` after every `size` of them; `room` says how many still fit
into the current group. -/
def groupReversed (mark : Char) (size : Nat) : (room : Nat) → List Char → List Char
  | _, [] => []
  | 0, d :: rest => mark :: d :: groupReversed mark size (size - 1) rest
  | room + 1, d :: rest => d :: groupReversed mark size room rest

/-- The digits in groups of `size` from the right, filled up with zeros to the least length of at
least `width` characters that does not start with a mark. -/
def groupDigits (mark : Char) (size width : Nat) (digits : List Char) : List Char :=
  let filled := padLeft (width - (width - 1) / (size + 1)) '0' digits
  (groupReversed mark size size filled.reverse).reverse

/-- A number in parts: sign, base mark, the digits that may be grouped, and what follows them. -/
structure NumberParts where
  negative : Bool
  base : List Char
  digits : List Char
  rest : List Char

/-- The sign that is written. -/
def signText (style : Option SignStyle) (negative : Bool) : List Char :=
  if negative then ['-']
  else match style with
    | some .plus => ['+']
    | some .space => [' ']
    | _ => []

/-- The text between fill characters. -/
def fillField (fill : Char) (align : Alignment) (width : Option Nat) (lead body : List Char) :
    List Char :=
  let missing := width.getD 0 - (lead.length + body.length)
  match align with
  | .left => lead ++ body ++ copies missing fill
  | .right => copies missing fill ++ lead ++ body
  | .center => copies (missing / 2) fill ++ lead ++ body ++ copies (missing - missing / 2) fill
  | .afterSign => lead ++ copies missing fill ++ body

/-- A number laid out in its field. Zeros that fill up between sign and digits are grouped with
the digits. -/
def layoutNumber (spec : Spec) (parts : NumberParts) : String :=
  let lead := signText spec.sign parts.negative ++ parts.base
  let least :=
    if spec.fill == '0' && spec.align == .afterSign then
      spec.width.getD 0 - (lead.length + parts.rest.length)
    else 0
  let size := match spec.kind with
    | some k => if "boxX".toList.contains k then 4 else 3
    | none => 3
  let digits :=
    if parts.digits.isEmpty then []
    else match spec.grouping with
      | some .comma => groupDigits ',' size least parts.digits
      | some .underscore => groupDigits '_' size least parts.digits
      | none => padLeft least '0' parts.digits
  String.ofList (fillField spec.fill spec.align spec.width lead (digits ++ parts.rest))

/-- The capital form of a letter of a number. -/
def capital (s : List Char) : List Char :=
  s.map Char.toUpper

/-- A floating-point number laid out by a specification that names a floating-point presentation
or none. -/
def layoutFloat (spec : Spec) (x : Float) : String :=
  let percent := spec.kind == some '%'
  let x := if percent then x * 100 else x
  let places := spec.precision.getD 6
  let body : List Char := match decode x with
    | none => specialText x
    | some d =>
      match spec.kind with
      | none =>
        match spec.precision with
        | none => shortestText d spec.alternate
        | some p => generalText d p true spec.alternate
      | some k =>
        if k == 'e' || k == 'E' then scientificText d places spec.alternate
        else if k == 'f' || k == 'F' || k == '%' then fixedText d places spec.alternate
        else generalText d places false spec.alternate
  let negative := isNegative x && !x.isNaN
  let zero := body.all fun c => !c.isDigit || c == '0'
  let negative := if spec.plainZero && zero && (decode x).isSome then false else negative
  let body := if spec.kind == some 'E' || spec.kind == some 'F' || spec.kind == some 'G'
    then capital body else body
  let body := if percent then body ++ ['%'] else body
  layoutNumber spec ⟨negative, [], body.takeWhile Char.isDigit, body.dropWhile Char.isDigit⟩

/-- The widest field that is filled up. -/
def widestField : Nat := twoTo 33

/-- The largest number of places. -/
def mostPlaces : Nat := twoTo 31 - 1

/-- Refuses a field that is too wide to be filled up. -/
def Spec.checkWidth (spec : Spec) : Except LayoutError Unit :=
  if widestField < spec.width.getD 0 then throw .tooWide else pure ()

/-- A floating-point number laid out by a specification whose numbers are not too large. -/
def layoutFloatChecked (spec : Spec) (x : Float) : Except LayoutError String := do
  if mostPlaces < spec.precision.getD 0 then throw .precisionTooBig
  spec.checkWidth
  return layoutFloat spec x

/-- The presentations of a floating-point number. -/
def floatKinds : List Char := ['e', 'E', 'f', 'F', 'g', 'G', 'n', '%']

/-- The layout of a floating-point number by a written specification. -/
def formatFloat (text : String) (x : Float) : Except LayoutError String := do
  if text.isEmpty then return floatText x
  let spec ← Spec.read text none .right "float"
  match spec.kind with
  | none => layoutFloatChecked spec x
  | some k =>
    if floatKinds.contains k then layoutFloatChecked spec x
    else throw (.unknownKind k "float")

/-- An integer laid out as the character of that number. -/
def layoutCharacter (spec : Spec) (n : Int) : Except LayoutError String := do
  if spec.sign.isSome then throw .signOnCharacter
  if spec.alternate then throw .alternateOnCharacter
  if n < -(wordLimit : Int) || (wordLimit : Int) ≤ n then throw .characterSize
  if n < 0 || 0x10ffff < n then throw .characterRange
  spec.checkWidth
  return layoutNumber spec ⟨false, [], [], [Char.ofNat n.toNat]⟩

/-- An integer laid out in base two, eight, ten or sixteen. -/
def layoutInteger (spec : Spec) (n : Int) : String :=
  let kind := spec.kind.getD 'd'
  let base := if kind == 'b' then 2 else if kind == 'o' then 8
    else if kind == 'x' || kind == 'X' then 16 else 10
  let digits := Nat.toDigits base n.natAbs
  let mark := if spec.alternate && base != 10 then ['0', kind] else []
  layoutNumber spec ⟨n < 0, mark, if kind == 'X' then capital digits else digits, []⟩

/-- An integer in decimal digits with its sign. Integers with too many digits are not written. -/
def integerText (n : Int) : Except LayoutError String :=
  if n.natAbs < writableLimit then .ok (toString n) else .error .tooLong

/-- The layout of an integer by a written specification; a truth value is one under its own type
name. -/
def formatInteger (text typeName : String) (n : Int) : Except LayoutError String := do
  let spec ← Spec.read text (some 'd') .right typeName
  let kind := spec.kind.getD 'd'
  if "bcdoxXn".toList.contains kind then
    if spec.precision.isSome then throw .precisionOnInteger
    if spec.plainZero then throw .plainZeroOnInteger
    if kind == 'c' then layoutCharacter spec n
    else if "boxX".toList.contains kind || n.natAbs < writableLimit then
      spec.checkWidth
      return layoutInteger spec n
    else throw .tooLong
  else if floatKinds.contains kind then
    match ofInt? n with
    | some x => layoutFloatChecked spec x
    | none => throw .floatRange
  else throw (.unknownKind kind typeName)

/-- The layout of a text by a written specification. The precision cuts it. -/
def formatText (text typeName : String) (s : String) : Except LayoutError String := do
  if text.isEmpty then return s
  let spec ← Spec.read text (some 's') .left typeName
  if spec.kind != some 's' then throw (.unknownKind (spec.kind.getD 's') typeName)
  match spec.sign with
  | some .space => throw .spaceOnText
  | some _ => throw .signOnText
  | none => pure ()
  if spec.plainZero then throw .plainZeroOnText
  if spec.alternate then throw .alternateOnText
  if spec.align == .afterSign then throw .afterSignOnText
  let body := match spec.precision with
    | some p => s.toList.take p
    | none => s.toList
  spec.checkWidth
  return String.ofList (fillField spec.fill spec.align spec.width [] body)

end Covenant.Format
