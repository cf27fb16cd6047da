import Covenant.Text.Blank

/-!
The settings file: one binding to a line.

A binding is a name, optionally after the word that marks it for export, and optionally a value
after an equals sign. A value may stand in single or double quotes, where it may run over several
lines and hold escapes; a bare value ends at a blank followed by a number sign. A line that is no
binding is passed over, and so is a mark of the byte order at the start of the file. Afterwards a
value may take in earlier names or variables of the environment.
-/

namespace Covenant.Config.EnvFile

open Covenant.Text

/-- Whether a character ends a line. -/
def isLineEnd (c : Char) : Bool :=
  c == '\n' || c == '\r'

/-- Whether a character is a blank inside a line. -/
def isInlineBlank (c : Char) : Bool :=
  isBlank c && !isLineEnd c

/-- The text after a mark of the byte order at its start. -/
def dropMark : List Char → List Char
  | '\ufeff' :: rest => rest
  | s => s

/-- The text with every line ended by a single newline. -/
def normalizeLines : List Char → List Char
  | [] => []
  | '\r' :: '\n' :: rest => '\n' :: normalizeLines rest
  | c :: rest => (if c == '\r' then '\n' else c) :: normalizeLines rest

/-- The text after blanks inside a line. -/
def skipInline (s : List Char) : List Char :=
  s.dropWhile isInlineBlank

/-- The text after the rest of a line and its end. -/
def skipLine (s : List Char) : List Char :=
  (s.dropWhile fun c => !isLineEnd c).drop 1

/-- The text after the word that marks a binding for export. -/
def skipExport (s : List Char) : List Char :=
  let word := "export".toList
  if word.isPrefixOf s then
    let rest := s.drop word.length
    if (rest.head?.map isInlineBlank).getD false then skipInline rest else s
  else s

/-- What a step of reading gives: a result and the rest, or, where the text does not fit, the place
at which reading goes on. -/
inductive Reading (α : Type) where
  | ok (a : α) (rest : List Char)
  | broken (rest : List Char)

/-- A name: nothing at a comment, the text between single quotes, or the characters up to a blank,
an equals sign or a number sign. -/
def readName (s : List Char) : Reading (Option String) :=
  match s with
  | '#' :: _ => .ok none s
  | '\'' :: rest =>
    let name := rest.takeWhile (· != '\'')
    if name.isEmpty || name.length = rest.length then .broken s
    else .ok (some (String.ofList name)) (rest.drop (name.length + 1))
  | _ =>
    let name := s.takeWhile fun c => c != '=' && c != '#' && !isBlank c
    if name.isEmpty then .broken s else .ok (some (String.ofList name)) (s.drop name.length)

/-- A quoted value up to its closing quote, which a backslash before it hides. -/
def takeQuoted (quote : Char) : (acc : List Char) → List Char → Option (List Char × List Char)
  | _, [] => none
  | acc, '\\' :: d :: rest =>
    if d == quote then
      match takeQuoted quote (d :: '\\' :: acc) rest with
      | some found => some found
      | none => some (('\\' :: acc).reverse, rest)
    else takeQuoted quote ('\\' :: acc) (d :: rest)
  | acc, c :: rest =>
    if c == quote then some (acc.reverse, rest) else takeQuoted quote (c :: acc) rest

/-- The character that an escape in double quotes stands for. -/
def escaped? : Char → Option Char
  | '\\' => some '\\'
  | '\'' => some '\''
  | '"' => some '"'
  | 'a' => some '\x07'
  | 'b' => some '\x08'
  | 'f' => some '\x0c'
  | 'n' => some '\n'
  | 'r' => some '\r'
  | 't' => some '\t'
  | 'v' => some '\x0b'
  | _ => none

/-- A quoted value with its escapes replaced: all of them in double quotes, those of the backslash
and the single quote in single quotes. -/
def unescape (double : Bool) : List Char → List Char
  | '\\' :: d :: rest =>
    match escaped? d with
    | some c =>
      if double || d == '\\' || d == '\'' then c :: unescape double rest
      else '\\' :: unescape double (d :: rest)
    | none => '\\' :: unescape double (d :: rest)
  | c :: rest => c :: unescape double rest
  | [] => []

/-- A bare value without a trailing comment, which starts with a blank and a number sign. -/
def dropComment : List Char → List Char
  | [] => []
  | c :: rest =>
    let blanks := (c :: rest).takeWhile isBlank
    if !blanks.isEmpty && ((c :: rest).drop blanks.length).head? == some '#' then []
    else c :: dropComment rest

/-- A value. -/
def readValue (s : List Char) : Reading String :=
  match s with
  | [] => .ok "" s
  | c :: rest =>
    if c == '\'' || c == '"' then
      match takeQuoted c [] rest with
      | some (value, rest) => .ok (String.ofList (unescape (c == '"') value)) rest
      | none => .broken s
    else if isLineEnd c then .ok "" s
    else
      let part := s.takeWhile fun c => !isLineEnd c
      let kept := ((dropComment part).reverse.dropWhile isBlank).reverse
      .ok (String.ofList kept) (s.drop part.length)

/-- A value after its equals sign and blanks. A number sign after blanks starts a comment, so the
value is empty. -/
def readAssigned (s : List Char) : Reading String :=
  let value := skipInline s
  if value.head? == some '#' && value.length < s.length then .ok "" value else readValue value

/-- The text after a comment and the end of the line; nothing if something else stands there. -/
def endLine? (s : List Char) : Option (List Char) :=
  let s := match skipInline s with
    | '#' :: rest => rest.dropWhile fun c => !isLineEnd c
    | _ => s
  match skipInline s with
  | [] => some []
  | c :: rest => if isLineEnd c then some rest else none

/-- A binding: a name, and a value unless the name stands alone. -/
abbrev Binding := String × Option String

/-- The binding that a line holds, if it holds one, and the rest of the text. -/
def readBinding (s : List Char) : Option Binding × List Char :=
  match readName (skipExport s) with
  | .broken rest => (none, skipLine rest)
  | .ok name rest =>
    let finish (value : Option String) (rest : List Char) : Option Binding × List Char :=
      match endLine? rest with
      | some after => (name.map fun n => (n, value), after)
      | none => (none, skipLine (skipInline rest))
    match skipInline rest with
    | '=' :: rest =>
      match readAssigned rest with
      | .ok value rest => finish (some value) rest
      | .broken rest => (none, skipLine rest)
    | rest => finish none rest

/-- The bindings of a text, in order. Each line takes at least one character, so as many steps as
there are characters suffice. -/
def bindingsOf : (steps : Nat) → List Char → List Binding
  | 0, _ => []
  | steps + 1, s =>
    match s.dropWhile isBlank with
    | [] => []
    | s =>
      let (found, rest) := readBinding s
      let later := bindingsOf steps rest
      match found with
      | some b => b :: later
      | none => later

/-- A part of a value: plain characters, or a name to be replaced with its value or else with a
default. -/
inductive Atom where
  | plain (s : List Char)
  | variable (name default : String)
  deriving Repr, DecidableEq

/-- A name to be replaced, after its opening mark, and the rest. -/
def readVariable? (s : List Char) : Option (Atom × List Char) :=
  let name := s.takeWhile fun c => c != '}' && c != ':'
  match s.drop name.length with
  | '}' :: rest => some (.variable (String.ofList name) "", rest)
  | ':' :: '-' :: rest =>
    let default := rest.takeWhile (· != '}')
    match rest.drop default.length with
    | '}' :: rest => some (.variable (String.ofList name) (String.ofList default), rest)
    | _ => none
  | _ => none

/-- The parts of a value. Each takes at least one character, so as many steps as there are
characters suffice. -/
def atomsOf : (steps : Nat) → List Char → List Atom
  | 0, _ => []
  | _ + 1, [] => []
  | steps + 1, '$' :: '{' :: rest =>
    match readVariable? rest with
    | some (atom, rest) => atom :: atomsOf steps rest
    | none => .plain ['$'] :: atomsOf steps ('{' :: rest)
  | steps + 1, c :: rest => .plain [c] :: atomsOf steps rest

/-- The binding of a name among others, if it has one. -/
def bindingOf? (bindings : List Binding) (name : String) : Option (Option String) :=
  (bindings.find? (·.1 == name)).map (·.2)

/-- What a part of a value gives: the file's own bindings come before the environment. -/
def Atom.resolve (bindings : List Binding) (environment : List (String × String)) :
    Atom → List Char
  | .plain s => s
  | .variable name default =>
    let found := (bindingOf? bindings name).or
      ((environment.find? (·.1 == name)).map fun p => some p.2)
    ((found.getD (some default)).getD "").toList

/-- Bindings with one more: in place if the name is there, else at the end. -/
def insertBinding (bindings : List Binding) (b : Binding) : List Binding :=
  if bindings.any (·.1 == b.1) then bindings.map fun p => if p.1 == b.1 then b else p
  else bindings ++ [b]

/-- The bindings of a settings file: of several of one name the last, at the place of the first,
with the names inside values replaced. -/
def read (environment : List (String × String)) (text : String) : List Binding :=
  let s := normalizeLines (dropMark text.toList)
  (bindingsOf (s.length + 1) s).foldl (fun bindings (name, value) =>
    let resolved := value.map fun v =>
      let atoms := atomsOf (v.length + 1) v.toList
      String.ofList (atoms.flatMap (Atom.resolve bindings environment))
    insertBinding bindings (name, resolved)) []

end Covenant.Config.EnvFile
