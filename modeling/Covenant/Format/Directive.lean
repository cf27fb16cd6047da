import Covenant.Format.Number

/-!
Directives: the notation with a percent sign that says where a value goes in a text and how it is
laid out, as in `%(name)-8.3f` for a key, flags, width, precision and kind.

A directive is read from left to right up to the first mistake in it, so that what comes before the
mistake can still take effect. Byte strings are written by the same rules, a byte counting as the
character of its number.
-/

namespace Covenant.Format

open Covenant.Number

/-- A width or a precision. -/
inductive Amount where
  | absent
  | given (n : Nat)
  /-- The next value says it. -/
  | asked
  deriving Repr, DecidableEq

/-- What can be wrong with the notation of a directive. -/
inductive DirectiveError where
  | incompleteKey
  | incomplete
  | widthTooBig
  | precisionTooBig
  deriving Repr, DecidableEq

/-- The wording of the error; byte strings have a shorter word in one of them. -/
def DirectiveError.message (bytes : Bool) : DirectiveError → String
  | .incompleteKey => "incomplete format key"
  | .incomplete => "incomplete format"
  | .widthTooBig => "width too big"
  | .precisionTooBig => if bytes then "prec too big" else "precision too big"

/-- A directive as far as it could be read. -/
structure Directive where
  key : Option (List Char)
  left : Bool
  plus : Bool
  blank : Bool
  alternate : Bool
  zero : Bool
  width : Amount
  precision : Amount
  /-- The letter that says what the value is written as. -/
  kind : Char
  mistake : Option DirectiveError
  deriving Repr, DecidableEq

/-- A directive of which nothing has been read. -/
def Directive.bare : Directive :=
  ⟨none, false, false, false, false, false, .absent, .absent, 's', none⟩

/-- Reads a key up to the parenthesis that closes it; `open_` counts the parentheses that are
open. -/
def readKey : (open_ : Nat) → List Char → Option (List Char × List Char)
  | _, [] => none
  | open_, c :: rest =>
    if c == ')' then
      if open_ = 0 then some ([], rest)
      else (readKey (open_ - 1) rest).map fun (key, rest) => (c :: key, rest)
    else
      (readKey (if c == '(' then open_ + 1 else open_) rest).map fun (key, rest) =>
        (c :: key, rest)

/-- Reads flags. -/
def readFlags (bytes : Bool) (d : Directive) : List Char → Directive × List Char
  | [] => (d, [])
  | c :: rest =>
    if c == '-' then readFlags bytes { d with left := true } rest
    else if c == '+' then readFlags bytes { d with plus := true } rest
    else if c == ' ' then readFlags bytes { d with blank := true } rest
    else if c == '#' then readFlags bytes { d with alternate := true } rest
    else if c == '0' then readFlags bytes { d with zero := true } rest
    else if c == 'z' && bytes then readFlags bytes d rest
    else (d, c :: rest)

/-- Reads digits below a limit; nothing if the number reaches it. -/
def readBelow (limit : Nat) : (acc : Nat) → List Char → Option (Nat × List Char)
  | acc, [] => some (acc, [])
  | acc, c :: rest =>
    if c.isDigit then
      if acc * 10 + (c.toNat - 48) < limit then readBelow limit (acc * 10 + (c.toNat - 48)) rest
      else none
    else some (acc, c :: rest)

/-- Reads an amount below a limit; nothing if it reaches it. -/
def readAmount (limit : Nat) : List Char → Option (Amount × List Char)
  | [] => some (.absent, [])
  | c :: rest =>
    if c == '*' then some (.asked, rest)
    else if c.isDigit then (readBelow limit 0 (c :: rest)).map fun (n, rest) => (.given n, rest)
    else some (.absent, c :: rest)

/-- Reads the letter of the kind, with the mark of size that may stand before it. -/
def readKind (d : Directive) (s : List Char) : Directive × List Char :=
  let s := match s with
    | c :: rest => if c == 'h' || c == 'l' || c == 'L' then rest else c :: rest
    | [] => []
  match s with
  | c :: rest => ({ d with kind := c }, rest)
  | [] => ({ d with mistake := some .incomplete }, [])

/-- Reads what follows the width. -/
def readPrecision (d : Directive) (s : List Char) : Directive × List Char :=
  match s with
  | '.' :: rest =>
    match readAmount (twoTo 31) rest with
    | some (.absent, rest) => readKind { d with precision := .given 0 } rest
    | some (amount, rest) => readKind { d with precision := amount } rest
    | none => ({ d with mistake := some .precisionTooBig }, rest)
  | s => readKind d s

/-- Reads what follows the key. -/
def readAfterKey (bytes : Bool) (d : Directive) (s : List Char) : Directive × List Char :=
  let (d, s) := readFlags bytes d s
  match readAmount wordLimit s with
  | some (amount, rest) => readPrecision { d with width := amount } rest
  | none => ({ d with mistake := some .widthTooBig }, s)

/-- Reads a directive; the percent sign has been read. -/
def readDirective (bytes : Bool) (s : List Char) : Directive × List Char :=
  match s with
  | '(' :: rest =>
    match readKey 0 rest with
    | some (key, rest) => readAfterKey bytes { Directive.bare with key := some key } rest
    | none => ({ Directive.bare with key := some [], mistake := some .incompleteKey }, [])
  | s => readAfterKey bytes .bare s

namespace Directive

/-- The sign in front of the digits of a number, and the rest. -/
def splitSign (d : Directive) : List Char → List Char × List Char
  | '-' :: rest => (['-'], rest)
  | '+' :: rest => (['+'], rest)
  | rest => (if d.plus then ['+'] else if d.blank then [' '] else [], rest)

/-- A number in a field of a width; zeros fill up between the sign and the digits. -/
def placeNumber (d : Directive) (width : Nat) (text : List Char) : List Char :=
  let (sign, body) := d.splitSign text
  let marked := d.alternate && (d.kind == 'x' || d.kind == 'X' || d.kind == 'o')
  let (mark, body) := if marked then body.splitAt 2 else ([], body)
  let missing := width - (sign.length + mark.length + body.length)
  if d.left then sign ++ mark ++ body ++ copies missing ' '
  else if d.zero then sign ++ mark ++ copies missing '0' ++ body
  else copies missing ' ' ++ sign ++ mark ++ body

/-- A text in a field of a width. -/
def placeText (d : Directive) (width : Nat) (text : List Char) : List Char :=
  let fill := copies (width - text.length) ' '
  if d.left then text ++ fill else fill ++ text

/-- The digits of an integer with its sign, at least as many as a precision says; in octal and
hexadecimal with the mark of the base if it is asked for. -/
def integerDigits (d : Directive) (precision : Nat) (n : Int) : List Char :=
  let base := if d.kind == 'o' then 8 else if d.kind == 'x' || d.kind == 'X' then 16 else 10
  let digits := padLeft precision '0' (Nat.toDigits base n.natAbs)
  let mark := if d.alternate && base != 10 then ['0', d.kind] else []
  (if n < 0 then ['-'] else []) ++ mark ++ if d.kind == 'X' then capital digits else digits

/-- A floating-point number with a precision and its sign. -/
def floatDigits (d : Directive) (precision : Nat) (x : Float) : List Char :=
  let spec : Spec :=
    ⟨' ', .right, none, false, d.alternate, none, none, some precision, some d.kind⟩
  (layoutFloat spec x).toList

end Directive

end Covenant.Format
