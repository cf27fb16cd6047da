import Covenant.Format.Number

/-!
Documents and their JSON text.

A document is a tree of numbers, texts, lists and named parts. Its text is written without blanks,
or with every part on a line of its own.
-/

namespace Covenant

/-- A tree of plain data. -/
inductive Document where
  | null
  | bool (b : Bool)
  | int (n : Int)
  | float (x : Float)
  | text (s : String)
  | list (items : List Document)
  | object (parts : List (String × Document))

namespace Document

/-- A character within a quoted text. -/
def escaped (c : Char) : List Char :=
  let code (n : Nat) : List Char := Format.padLeft 2 '0' (Nat.toDigits 16 n)
  if c == '"' then ['\\', '"']
  else if c == '\\' then ['\\', '\\']
  else if c == '\n' then ['\\', 'n']
  else if c == '\r' then ['\\', 'r']
  else if c == '\t' then ['\\', 't']
  else if c.toNat = 8 then ['\\', 'b']
  else if c.toNat = 12 then ['\\', 'f']
  else if c.toNat < 32 then "\\u00".toList ++ code c.toNat
  else [c]

/-- A text between quotation marks. -/
def quoted (s : String) : List Char :=
  '"' :: s.toList.flatMap escaped ++ ['"']

/-- A floating-point number: without an exponent from `10^-5` up to `10^16`, and nothing for what is
not finite. -/
def number (x : Float) : List Char :=
  match Number.decode x with
  | none => "null".toList
  | some d =>
    let s := Number.shortest d
    let digits := Number.decimalDigits s.digits
    let point : Int := if s.digits = 0 then 1 else s.exponent + digits.length
    let body :=
      if -5 < point && point ≤ 16 then Format.positional ⟨true, false⟩ digits point
      else
        let e := point - 1
        (Format.Style.mk false false).join (digits.take 1) (digits.drop 1) ++ 'e' ::
          (toString e).toList
    if Number.isNegative x then '-' :: body else body

/-- A line break and the blanks before what follows it; nothing if everything stands on one
line. -/
def lineBreak (indent : Option Nat) (depth : Nat) : List Char :=
  match indent with
  | none => []
  | some width => '\n' :: List.replicate (width * depth) ' '

/-- Parts between two marks, with commas between them. -/
def enclosed (indent : Option Nat) (depth : Nat) (first last : Char) (parts : List (List Char)) :
    List Char :=
  match parts with
  | [] => [first, last]
  | parts =>
    let inner := lineBreak indent (depth + 1)
    first :: (List.intercalate [','] (parts.map (inner ++ ·))) ++ lineBreak indent depth ++ [last]

mutual

/-- The text of a document that stands `depth` levels deep. -/
def render (indent : Option Nat) (depth : Nat) : Document → List Char
  | null => "null".toList
  | bool b => (if b then "true" else "false").toList
  | int n => (toString n).toList
  | float x => number x
  | text s => quoted s
  | list items => enclosed indent depth '[' ']' (renderItems indent depth items)
  | object parts => enclosed indent depth '\x7b' '\x7d' (renderParts indent depth parts)

/-- The texts of the items of a list. -/
def renderItems (indent : Option Nat) (depth : Nat) : List Document → List (List Char)
  | [] => []
  | x :: rest => render indent (depth + 1) x :: renderItems indent depth rest

/-- The texts of named parts. -/
def renderParts (indent : Option Nat) (depth : Nat) : List (String × Document) → List (List Char)
  | [] => []
  | (name, x) :: rest =>
    (quoted name ++ (if indent.isSome then [':', ' '] else [':']) ++
      render indent (depth + 1) x) :: renderParts indent depth rest

end

/-- The text of a document. -/
def toText (indent : Option Nat) (x : Document) : String :=
  String.ofList (render indent 0 x)

end Document

end Covenant
