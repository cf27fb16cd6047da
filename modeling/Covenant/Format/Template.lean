import Covenant.Format.Spec

/-!
Message templates: text with replacement fields in braces.

A field names an argument by position or by name, walks into it by attributes and items, and may
give a conversion and a layout specification, which may hold fields of its own. Reading a
template yields its pieces up to the first mistake, together with that mistake: the pieces before
it are rendered first.
-/

namespace Covenant.Format

/-- A mistake in a template. -/
inductive TemplateError where
  | singleClose
  | singleOpen
  | braceInName
  | noConversion
  | afterConversion
  | unmatchedOpen
  | unclosed
  | manualAfterAutomatic
  | automaticAfterManual
  | tooManyDigits
  | missingBracket
  | emptyName
  | afterBracket
  | unknownConversion (c : Char)
  | tooDeep
  deriving Repr, DecidableEq

/-- The wording of the mistake. -/
def TemplateError.message : TemplateError → String
  | .singleClose => "Single '\x7d' encountered in format string"
  | .singleOpen => "Single '\x7b' encountered in format string"
  | .braceInName => "unexpected '\x7b' in field name"
  | .noConversion => "end of string while looking for conversion specifier"
  | .afterConversion => "expected ':' after conversion specifier"
  | .unmatchedOpen => "unmatched '\x7b' in format spec"
  | .unclosed => "expected '\x7d' before end of string"
  | .manualAfterAutomatic =>
    "cannot switch from automatic field numbering to manual field specification"
  | .automaticAfterManual =>
    "cannot switch from manual field specification to automatic field numbering"
  | .tooManyDigits => "Too many decimal digits in format string"
  | .missingBracket => "Missing ']' in format string"
  | .emptyName => "Empty attribute in format string"
  | .afterBracket => "Only '.' or '[' may follow ']' in format field specifier"
  | .unknownConversion c =>
    if 32 < c.toNat && c.toNat < 127 then "Unknown conversion specifier " ++ c.toString
    else "Unknown conversion specifier \\x" ++ String.ofList (Nat.toDigits 16 c.toNat)
  | .tooDeep => "Max string recursion exceeded"

/-- A replacement field as written: the path to its value, the conversion, and the specification,
which is nested if it holds braces. -/
structure Field where
  path : List Char
  conversion : Option Char
  spec : List Char
  nested : Bool
  deriving Repr, DecidableEq

/-- A run of plain text and the field after it, if one follows. -/
structure Piece where
  plain : List Char
  field : Option Field
  deriving Repr, DecidableEq

/-- The pieces of a template up to the first mistake. -/
structure Template where
  pieces : List Piece
  mistake : Option TemplateError
  deriving Repr, DecidableEq

/-- The path of a field up to the character that ends it, that character, and the rest. Text
between square brackets is passed over. -/
def takePath : (inBrackets : Bool) → (acc : List Char) → List Char →
    Except TemplateError (List Char × Char × List Char)
  | _, _, [] => .error .unclosed
  | true, acc, c :: rest => takePath (c != ']') (c :: acc) rest
  | false, acc, c :: rest =>
    if c == '{' then .error .braceInName
    else if c == '[' then takePath true (c :: acc) rest
    else if c == '}' || c == ':' || c == '!' then .ok (acc.reverse, c, rest)
    else takePath false (c :: acc) rest

/-- A specification up to the brace that closes its field, whether it holds braces of its own, and
the rest. `depth` counts the braces that are open inside. -/
def takeSpec : (depth : Nat) → (nested : Bool) → (acc : List Char) → List Char →
    Except TemplateError (List Char × Bool × List Char)
  | _, _, _, [] => .error .unmatchedOpen
  | depth, nested, acc, c :: rest =>
    if c == '{' then takeSpec (depth + 1) true (c :: acc) rest
    else if c == '}' then
      match depth with
      | 0 => .ok (acc.reverse, nested, rest)
      | depth + 1 => takeSpec depth nested (c :: acc) rest
    else takeSpec depth nested (c :: acc) rest

/-- The field after an opening brace, and the rest. -/
def takeField (s : List Char) : Except TemplateError (Field × List Char) := do
  let (path, stop, rest) ← takePath false [] s
  if stop == '}' then return (⟨path, none, [], false⟩, rest)
  else if stop == ':' then
    let (spec, nested, rest) ← takeSpec 0 false [] rest
    return (⟨path, none, spec, nested⟩, rest)
  else
    match rest with
    | [] => throw .noConversion
    | [_] => throw .unmatchedOpen
    | c :: d :: rest =>
      if d == '}' then return (⟨path, some c, [], false⟩, rest)
      else if d == ':' then
        let (spec, nested, rest) ← takeSpec 0 false [] rest
        return (⟨path, some c, spec, nested⟩, rest)
      else throw .afterConversion

/-- Reads the pieces of a template. A doubled brace is a plain brace and ends its piece. Each piece
takes at least one character, so as many steps as there are characters suffice. -/
def readPieces : (steps : Nat) → List Char → Template
  | 0, _ => ⟨[], none⟩
  | _ + 1, [] => ⟨[], none⟩
  | steps + 1, s =>
    let plain := s.takeWhile fun c => c != '{' && c != '}'
    match s.drop plain.length with
    | [] => ⟨[⟨plain, none⟩], none⟩
    | ['{'] => ⟨[], some .singleOpen⟩
    | c :: d :: rest =>
      if c == d then
        let t := readPieces steps rest
        { t with pieces := ⟨plain ++ [c], none⟩ :: t.pieces }
      else if c == '}' then ⟨[], some .singleClose⟩
      else
        match takeField (d :: rest) with
        | .error e => ⟨[], some e⟩
        | .ok (field, rest) =>
          let t := readPieces steps rest
          { t with pieces := ⟨plain, some field⟩ :: t.pieces }
    | _ => ⟨[], some .singleClose⟩

/-- The pieces of a template. -/
def Template.ofChars (s : List Char) : Template :=
  readPieces (s.length + 1) s

/-- The pieces of a template. -/
def Template.read (s : String) : Template :=
  .ofChars s.toList

/-- One step from a value into a part of it. -/
inductive Step where
  | attribute (name : String)
  | item (key : String)
  | position (index : Nat)
  deriving Repr, DecidableEq

/-- A numeral as a number; `none` for any other text. Too many digits at the start are a mistake
whatever follows them. -/
def position? (s : List Char) : Except TemplateError (Option Nat) :=
  match takeNumber s with
  | .ok (n, rest) => .ok (if rest.isEmpty then n else none)
  | .error _ => .error .tooManyDigits

/-- What a field starts from. -/
inductive Source where
  | next
  | position (index : Nat)
  | name (name : String)
  deriving Repr, DecidableEq

/-- The start of a path and what follows it. -/
def readSource (path : List Char) : Except TemplateError (Source × List Char) := do
  let first := path.takeWhile fun c => c != '.' && c != '['
  let rest := path.drop first.length
  match ← position? first with
  | some n => return (.position n, rest)
  | none => return (if first.isEmpty then .next else .name (String.ofList first), rest)

/-- The next step of a path, and the rest. -/
def readStep (c : Char) (rest : List Char) : Except TemplateError (Step × List Char) := do
  if c == '.' then
    let name := rest.takeWhile fun c => c != '.' && c != '['
    if name.isEmpty then throw .emptyName
    return (.attribute (String.ofList name), rest.drop name.length)
  else if c == '[' then
    let key := rest.takeWhile (· != ']')
    if key.length = rest.length then throw .missingBracket
    if key.isEmpty then throw .emptyName
    match ← position? key with
    | some n => return (.position n, rest.drop (key.length + 1))
    | none => return (.item (String.ofList key), rest.drop (key.length + 1))
  else throw .afterBracket

/-- The steps of a path up to the first mistake. Each step takes at least one character, so as many
as there are characters suffice. -/
def readSteps : (count : Nat) → List Char → List Step × Option TemplateError
  | 0, _ => ([], none)
  | _ + 1, [] => ([], none)
  | count + 1, c :: rest =>
    match readStep c rest with
    | .error e => ([], some e)
    | .ok (step, rest) =>
      let (steps, mistake) := readSteps count rest
      (step :: steps, mistake)

/-- How the fields of a template have been numbered so far. -/
inductive Numbering where
  | open
  | automatic (next : Nat)
  | manual
  deriving Repr, DecidableEq

/-- The position that a field without a name takes, and the numbering after it. -/
def Numbering.step : Numbering → Option Nat → Except TemplateError (Nat × Numbering)
  | .open, none => .ok (0, .automatic 1)
  | .open, some n => .ok (n, .manual)
  | .automatic k, none => .ok (k, .automatic (k + 1))
  | .automatic _, some _ => .error .manualAfterAutomatic
  | .manual, none => .error .automaticAfterManual
  | .manual, some n => .ok (n, .manual)

end Covenant.Format
