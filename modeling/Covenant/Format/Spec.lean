import Covenant.Number.Power
import Covenant.Text.Digit

/-!
Layout specifications: the short notation that says how a value is laid out in a field, as in
`*^+12,.3f` for fill, alignment, sign, width, grouping, precision and presentation.
-/

namespace Covenant.Format

/-- Where the text stands in its field. `afterSign` puts the fill between sign and digits. -/
inductive Alignment where
  | left
  | right
  | center
  | afterSign
  deriving Repr, DecidableEq

/-- How a nonnegative number shows its sign. -/
inductive SignStyle where
  | plus
  | minus
  | space
  deriving Repr, DecidableEq

/-- The mark between groups of digits. -/
inductive Grouping where
  | comma
  | underscore
  deriving Repr, DecidableEq

/-- A layout specification. -/
structure Spec where
  fill : Char
  align : Alignment
  sign : Option SignStyle
  /-- A result that rounds to zero loses its sign. -/
  plainZero : Bool
  alternate : Bool
  width : Option Nat
  grouping : Option Grouping
  precision : Option Nat
  kind : Option Char
  deriving Repr, DecidableEq

/-- Why a value cannot be laid out. -/
inductive LayoutError where
  | tooManyDigits
  | missingPrecision
  | invalid (spec typeName : String)
  | commaAndUnderscore
  | groupingWith (mark kind : Char)
  | unknownKind (kind : Char) (typeName : String)
  | spaceOnText
  | signOnText
  | plainZeroOnText
  | alternateOnText
  | afterSignOnText
  | precisionOnInteger
  | plainZeroOnInteger
  | signOnCharacter
  | alternateOnCharacter
  | characterRange
  | characterSize
  | floatRange
  | tooLong
  | precisionTooBig
  | tooWide
  deriving Repr, DecidableEq

/-- A kind letter as messages show it: itself if it is a visible ASCII character, else its
number. -/
def shownKind (kind : Char) : String :=
  if 32 < kind.toNat && kind.toNat < 128 then kind.toString
  else "\\x" ++ String.ofList (Nat.toDigits 16 kind.toNat)

/-- The wording of the error. -/
def LayoutError.message : LayoutError → String
  | .tooManyDigits => "Too many decimal digits in format string"
  | .missingPrecision => "Format specifier missing precision"
  | .invalid spec typeName =>
    "Invalid format specifier '" ++ spec ++ "' for object of type '" ++ typeName ++ "'"
  | .commaAndUnderscore => "Cannot specify both ',' and '_'."
  | .groupingWith mark kind =>
    "Cannot specify '" ++ mark.toString ++ "' with '" ++ shownKind kind ++ "'."
  | .unknownKind kind typeName =>
    "Unknown format code '" ++ shownKind kind ++ "' for object of type '" ++ typeName ++ "'"
  | .spaceOnText => "Space not allowed in string format specifier"
  | .signOnText => "Sign not allowed in string format specifier"
  | .plainZeroOnText => "Negative zero coercion (z) not allowed in string format specifier"
  | .alternateOnText => "Alternate form (#) not allowed in string format specifier"
  | .afterSignOnText => "'=' alignment not allowed in string format specifier"
  | .precisionOnInteger => "Precision not allowed in integer format specifier"
  | .plainZeroOnInteger => "Negative zero coercion (z) not allowed in integer format specifier"
  | .signOnCharacter => "Sign not allowed with integer format specifier 'c'"
  | .alternateOnCharacter => "Alternate form (#) not allowed with integer format specifier 'c'"
  | .characterRange => "%c arg not in range(0x110000)"
  | .characterSize => "Python int too large to convert to C long"
  | .floatRange => "int too large to convert to float"
  | .tooLong =>
    "Exceeds the limit (4300 digits) for integer string conversion; use " ++
      "sys.set_int_max_str_digits() to increase the limit"
  | .precisionTooBig => "precision too big"
  | .tooWide => ""

/-- Whether the value was outside a range, rather than the specification wrong. -/
def LayoutError.isOverflow : LayoutError → Bool
  | .characterRange | .characterSize | .floatRange => true
  | _ => false

/-- Whether the text would have been too large to be held, which has no wording. -/
def LayoutError.isTooLarge : LayoutError → Bool
  | .tooWide => true
  | _ => false

/-- The alignment that a character stands for. -/
def Alignment.ofChar? : Char → Option Alignment
  | '<' => some .left
  | '>' => some .right
  | '^' => some .center
  | '=' => some .afterSign
  | _ => none

/-- The sign style that a character stands for. -/
def SignStyle.ofChar? : Char → Option SignStyle
  | '+' => some .plus
  | '-' => some .minus
  | ' ' => some .space
  | _ => none

/-- The largest width, precision or position that can be written. -/
def largestNumber : Nat := Number.wordLimit - 1

/-- The decimal number at the start of a text, if there is one, and the rest. -/
def takeNumber (s : List Char) : Except LayoutError (Option Nat × List Char) :=
  let digits := s.takeWhile Text.isDecimalDigit
  let n := Text.numberOfDigits digits
  if digits.isEmpty then .ok (none, s)
  else if largestNumber < n then .error .tooManyDigits
  else .ok (some n, s.drop digits.length)

/-- The fill and alignment at the start: a character followed by an alignment mark is the fill. -/
def takeAlignment : List Char → Option Char × Option Alignment × List Char
  | c :: d :: rest =>
    match Alignment.ofChar? d with
    | some a => (some c, some a, rest)
    | none =>
      match Alignment.ofChar? c with
      | some a => (none, some a, d :: rest)
      | none => (none, none, c :: d :: rest)
  | [c] =>
    match Alignment.ofChar? c with
    | some a => (none, some a, [])
    | none => (none, none, [c])
  | [] => (none, none, [])

/-- One optional sign style. -/
def takeSign : List Char → Option SignStyle × List Char
  | c :: rest =>
    match SignStyle.ofChar? c with
    | some s => (some s, rest)
    | none => (none, c :: rest)
  | [] => (none, [])

/-- One optional flag character. -/
def takeFlag (flag : Char) : List Char → Bool × List Char
  | c :: rest => if c == flag then (true, rest) else (false, c :: rest)
  | [] => (false, [])

/-- The grouping marks. Both together are an error, as is a second comma by its place before the
presentation. -/
def takeGrouping (s : List Char) : Except LayoutError (Option Grouping × List Char) :=
  let (comma, s) := takeFlag ',' s
  let (underscore, s) := takeFlag '_' s
  if comma && underscore then .error .commaAndUnderscore
  else if underscore && s.head? == some ',' then .error .commaAndUnderscore
  else .ok (if comma then some .comma else if underscore then some .underscore else none, s)

/-- The precision after a point. -/
def takePrecision : List Char → Except LayoutError (Option Nat × List Char)
  | '.' :: rest => do
    let (n, rest) ← takeNumber rest
    match n with
    | some n => return (some n, rest)
    | none => throw .missingPrecision
  | rest => return (none, rest)

/-- The presentations with which the grouping mark may stand; an underscore may also group the
digits of the bases two, eight and sixteen. -/
def groupingAllowed (g : Grouping) : Option Char → Bool
  | none => true
  | some k => "deEfFgG%".toList.contains k || (g == .underscore && "boxX".toList.contains k)

/-- Reads a layout specification. `kind` and `align` are those of the laid-out type where the
notation names none, and `typeName` is its name in the message for a malformed notation. -/
def Spec.read (text : String) (kind : Option Char) (align : Alignment) (typeName : String) :
    Except LayoutError Spec := do
  let (fill, chosen, s) := takeAlignment text.toList
  let (sign, s) := takeSign s
  let (plainZero, s) := takeFlag 'z' s
  let (alternate, s) := takeFlag '#' s
  let (zero, s) := if fill.isNone then takeFlag '0' s else (false, s)
  let (width, s) ← takeNumber s
  let (grouping, s) ← takeGrouping s
  let (precision, s) ← takePrecision s
  let written ←
    match s with
    | [] => pure none
    | [c] => pure (some c)
    | _ => throw (.invalid text typeName)
  let kind := written.or kind
  if let some g := grouping then
    unless groupingAllowed g kind do
      throw (.groupingWith (if g == .comma then ',' else '_') (kind.getD ' '))
  let defaultAlign := if zero && align == .right then .afterSign else align
  return {
    fill := fill.getD (if zero then '0' else ' ')
    align := chosen.getD defaultAlign
    sign, plainZero, alternate, width, grouping, precision, kind }

end Covenant.Format
