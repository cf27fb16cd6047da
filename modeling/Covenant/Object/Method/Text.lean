import Covenant.Object.Method.Slice
import Covenant.Object.Render
import Covenant.Text.Case
import Covenant.Text.Name
import Covenant.Text.Search

/-!
The methods of texts.
-/

namespace Covenant.Act.TextMethod

open Covenant.Text

/-- A text as a value. -/
def ofChars (s : List Char) : Value :=
  .text (String.ofList s)

/-- Texts as a new list. -/
def listOf (parts : List (List Char)) : Act Value :=
  allocValue (.list (parts.map ofChars))

/-- The characters of a value that has to be a text. -/
def charsOf (v : Value) : Act (List Char) := do
  match v.text? with
  | some s => return s.toList
  | none => fail .typeError ("must be str, not " ++ (← typeName v))

/-- What the methods without arguments give. -/
def plain? (name : String) (s : List Char) : Option Value :=
  match name with
  | "lower" => some (ofChars (small s))
  | "upper" => some (ofChars (Text.capitals s))
  | "casefold" => some (ofChars (folded s))
  | "capitalize" => some (ofChars (capitalized s))
  | "title" => some (ofChars (titled s))
  | "swapcase" => some (ofChars (swapped s))
  | "isalnum" => some (.bool (!s.isEmpty && s.all isLetterOrNumeral))
  | "isalpha" => some (.bool (!s.isEmpty && s.all isLetter))
  | "isascii" => some (.bool (s.all fun c => c.toNat < 128))
  | "isdecimal" => some (.bool (!s.isEmpty && s.all isDecimalDigit))
  | "isdigit" => some (.bool (!s.isEmpty && s.all isDigit))
  | "isidentifier" => some (.bool (isName s))
  | "islower" => some (.bool (isInSmall s))
  | "isnumeric" => some (.bool (!s.isEmpty && s.all isNumeral))
  | "isprintable" => some (.bool (s.all isPrintable))
  | "isspace" => some (.bool (!s.isEmpty && s.all isBlank))
  | "istitle" => some (.bool (isTitled s))
  | "isupper" => some (.bool (isInCapitals s))
  | _ => none

/-- The part of a text in which something is looked for, with its start. -/
def searched? (s : List Char) (start stop : Option Int) : Option (Nat × List Char) :=
  (partBounds? start stop s.length).map fun (first, last) => (first, (s.take last).drop first)

/-- Looking for a part, and counting it. -/
def search (how : Invocation) (call : Caller) (name : String) (s : List Char) (args : List Value)
    (named : Fields) :
    Act Value := do
  let args ← countedArguments how name 1 3 args named
  let start ← sliceBound? call args[1]?
  let stop ← sliceBound? call args[2]?
  let part ← charsOf (args.headD .null)
  let inside := searched? s start stop
  let position (find : List Char → Option Nat) : Option Int :=
    inside.bind fun (first, t) => (find t).map fun i => ((first + i : Nat) : Int)
  let first := position (findFirst? part 0)
  let last := position (findLast? part)
  let needed (found : Option Int) : Act Value := do
    match found with
    | some i => return .int i
    | none => fail .valueError "substring not found"
  match name with
  | "find" => return .int (first.getD (-1))
  | "rfind" => return .int (last.getD (-1))
  | "index" => needed first
  | "rindex" => needed last
  | _ => return .int ((inside.map fun (_, t) => countOf part t).getD 0)

/-- Whether a text starts or ends with one of some parts, asked in order. -/
def isAtEnd (name : String) (inside : List Char) : List Value → Act Bool
  | [] => return false
  | v :: rest => do
    match v.text? with
    | none =>
      fail .typeError ("tuple for " ++ name ++ " must only contain str, not " ++ (← typeName v))
    | some part =>
      let fits := if name == "startswith" then part.toList.isPrefixOf inside
        else part.toList.isSuffixOf inside
      if fits then return true else isAtEnd name inside rest

/-- Whether a text starts or ends with a part, or with one of several in a tuple. -/
def atEnd (how : Invocation) (call : Caller) (name : String) (s : List Char) (args : List Value)
    (named : Fields) :
    Act Value := do
  let args ← countedArguments how name 1 3 args named
  let start ← sliceBound? call args[1]?
  let stop ← sliceBound? call args[2]?
  let among (parts : List Value) : Act Value := do
    match searched? s start stop with
    | none =>
      let _ ← isAtEnd name [] parts
      return .bool false
    | some (_, inside) => return .bool (← isAtEnd name inside parts)
  let refuse (v : Value) : Act Value := do
    fail .typeError (name ++ " first arg must be str or a tuple of str, not " ++ (← typeName v))
  let v := args.headD .null
  match v with
  | .ref r =>
    match ← load r with
    | .tuple parts => among parts
    | _ => refuse v
  | v => if v.text?.isSome then among [v] else refuse v

/-- Taking a text apart at a separator or at blanks. -/
def split (call : Caller) (name : String) (s : List Char) (args : List Value) (named : Fields) :
    Act Value := do
  let given ← namedArguments ⟨name, ["sep", "maxsplit"], 0, 2, 0⟩ args named
  let limit ← limitArgument call (s.length + 1) given[1]?.join
  match given[0]?.join.getD .null with
  | .null =>
    if name == "split" then listOf (splitAtBlanks isBlank limit (s.length + 1) s)
    else listOf (splitAtLastBlanks isBlank limit s)
  | v =>
    match v.text? with
    | none => fail .typeError ("must be str or None, not " ++ (← typeName v))
    | some "" => fail .valueError "empty separator"
    | some separator =>
      if name == "split" then listOf (splitAtPart separator.toList limit s)
      else listOf (splitAtLastPart separator.toList limit s)

/-- Taking a text apart at the first or the last occurrence of a separator. -/
def partition (how : Invocation) (name : String) (s : List Char) (args : List Value)
    (named : Fields) :
    Act Value := do
  let separator ← charsOf (← onlyArgument (how.title name) args named)
  if separator.isEmpty then fail .valueError "empty separator"
  else
    let first := name == "partition"
    let found := if first then findFirst? separator 0 s else findLast? separator s
    let parts := match found with
      | some i => [s.take i, separator, s.drop (i + separator.length)]
      | none => if first then [s, [], []] else [[], [], s]
    allocValue (.tuple (parts.map ofChars))

/-- The texts of items, each of which has to be one. -/
def textsFrom : (position : Nat) → List Value → Act (List (List Char))
  | _, [] => return []
  | position, v :: rest => do
    match v.text? with
    | some s => return s.toList :: (← textsFrom (position + 1) rest)
    | none =>
      fail .typeError ("sequence item " ++ toString position ++ ": expected str instance, " ++
        (← typeName v) ++ " found")

/-- Texts with a text between them. -/
def joinAll (how : Invocation) (call : Caller) (s : List Char) (args : List Value) (named : Fields)
    : Act Value := do
  let parts ← joinedItems call (← onlyArgument (how.title "join") args named)
  return ofChars (List.intercalate s (← textsFrom 0 parts))

/-- A text with a part replaced. -/
def replace (how : Invocation) (call : Caller) (s : List Char) (args : List Value) (named : Fields)
    : Act Value := do
  let args ← placedArguments (how.title "replace") "replace" 2 3 args named
  let old ← textArgument "replace() argument 1" (args.headD .null)
  let new ← textArgument "replace() argument 2" ((args.drop 1).headD .null)
  let limit ← limitArgument call (s.length + 1) args[2]?
  return ofChars (replaceParts old.toList new.toList limit s)

/-- A text without the characters of a class at its ends. -/
def stripEnds (how : Invocation) (name : String) (s : List Char) (args : List Value)
    (named : Fields) :
    Act Value := do
  let args ← placedArguments (how.title name) name 0 1 args named
  let cut (p : Char → Bool) : Value :=
    if name == "strip" then ofChars (stripChars p s)
    else if name == "lstrip" then ofChars (s.dropWhile p)
    else ofChars (s.reverse.dropWhile p).reverse
  match args.headD .null with
  | .null => return cut isBlank
  | v =>
    match v.text? with
    | some chars => return cut chars.toList.contains
    | none => fail .typeError (name ++ " arg must be None or str")

/-- The character that a field is filled up with. -/
def fillCharacter (v : Option Value) : Act Char := do
  match v with
  | none => return ' '
  | some v =>
    match v.text? with
    | none =>
      fail .typeError ("The fill character must be a unicode character, not " ++ (← typeName v))
    | some s =>
      match s.toList with
      | [c] => return c
      | _ => fail .typeError "The fill character must be exactly one character long"

/-- A text in a field of a width. -/
def aligned (how : Invocation) (call : Caller) (name : String) (s : List Char) (args : List Value)
    (named : Fields) :
    Act Value := do
  let args ← placedArguments (how.title name) name 1 2 args named
  let width ← sizeArgument call (args.headD .null)
  let fill ← fillCharacter args[1]?
  checkWidth width
  let width := width.toNat
  match name with
  | "center" => return ofChars (centered width fill s)
  | "ljust" => return ofChars (leftAligned width fill s)
  | _ => return ofChars (rightAligned width fill s)

/-- A text without a part at its start or at its end. -/
def removeEnd (how : Invocation) (name : String) (s : List Char) (args : List Value)
    (named : Fields) :
    Act Value := do
  let v ← onlyArgument (how.title name) args named
  let part := (← textArgument (name ++ "() argument") v).toList
  if name == "removeprefix" then
    return ofChars (if part.isPrefixOf s then s.drop part.length else s)
  else
    return ofChars (if part.isSuffixOf s then s.take (s.length - part.length) else s)

/-- The lines of a text. -/
def lines (call : Caller) (s : List Char) (args : List Value) (named : Fields) : Act Value := do
  let given ← namedArguments ⟨"splitlines", ["keepends"], 0, 1, 0⟩ args named
  let keep ← match given[0]?.join with
    | none => pure false
    | some v => do pure ((← smallArgument call v) != 0)
  listOf (linesOf lineEnd keep (s.length + 1) [] s)

/-- A text with its tabs replaced by blanks. -/
def expanded (call : Caller) (s : List Char) (args : List Value) (named : Fields) :
    Act Value := do
  let given ← namedArguments ⟨"expandtabs", ["tabsize"], 0, 1, 0⟩ args named
  let size ← match given[0]?.join with
    | none => pure 8
    | some v => smallArgument call v
  return ofChars (expandTabs '\t' ' ' (fun c => c == '\n' || c == '\r') size.toNat 0 s)

/-- A text written by a codec. -/
def encoded (s : List Char) (args : List Value) (named : Fields) : Act Value := do
  let given ← namedArguments ⟨"encode", ["encoding", "errors"], 0, 2, 0⟩ args named
  let encoding ← textOption? "encode() argument 'encoding'" given[0]?.join
  let errors ← textOption? "encode() argument 'errors'" given[1]?.join
  let codec ← codecNamed (encoding.getD "utf-8")
  return .bytes (← encode codec (errors.getD "strict") (String.ofList s))

/-- What stands for a character in a text that is mapped by a table. -/
def translatedChar (call : Caller) (table : Value) (c : Char) : Act (List Char) := do
  match ← attempt (item call table (.int c.toNat)) with
  | .error e => if (← faultClassOf e).isA .lookupError then return [c] else rethrow e
  | .ok .null => return []
  | .ok v =>
    match v.text?, v.int? with
    | some s, _ => return s.toList
    | none, some n =>
      if 0 ≤ n && n < 0x110000 then return [Char.ofNat n.toNat]
      else fail .valueError "character mapping must be in range(0x110000)"
    | none, none => fail .typeError "character mapping must return integer, None or str"

/-- A text mapped by a table. -/
def translated (how : Invocation) (call : Caller) (s : List Char) (args : List Value)
    (named : Fields) :
    Act Value := do
  let table ← onlyArgument (how.title "translate") args named
  return ofChars (← s.mapM (translatedChar call table)).flatten

/-- The key of a table for a character given as a value. -/
def tableKey (v : Value) : Act Value := do
  match v.text?, v.int? with
  | some s, _ =>
    match s.toList with
    | [c] => return .int c.toNat
    | _ => fail .valueError "string keys in translate table must be of length 1"
  | none, some n => return .int n
  | none, none => fail .typeError "keys in translate table must be strings or integers"

/-- A table for mapping texts, from a dictionary. -/
def tableOfDict (call : Caller) (v : Value) : Act Value := do
  let refuse : Act Value :=
    fail .typeError "if you give only one argument to maketrans it must be a dict"
  match v with
  | .ref r =>
    match ← load r with
    | .dict entries =>
      newDict call (← entries.mapM fun (k, x) => do return (← tableKey k, x))
    | _ => refuse
  | _ => refuse

/-- A table for mapping texts. -/
def newTable (call : Caller) (args : List Value) (named : Fields) : Act Value := do
  let args ← placedArguments "str.maketrans" "maketrans" 1 3 args named
  let number (c : Char) : Value := .int c.toNat
  match args with
  | [v] => tableOfDict call v
  | old :: rest => do
    let new ← textArgument "maketrans() argument 2" (rest.headD .null)
    let dropped ← match rest[1]? with
      | some v => textArgument "maketrans() argument 3" v
      | none => pure ""
    match old.text? with
    | none =>
      fail .typeError
        "first maketrans argument must be a string if there is a second argument"
    | some old =>
      if old.length != new.length then
        fail .valueError "the first two maketrans arguments must have equal length"
      else
        newDict call (((old.toList.map number).zip (new.toList.map number)) ++
          dropped.toList.map fun c => (number c, .null))
  | [] => return .null

/-- What a method of a text gives; nothing if texts have no method of that name. -/
def run? (how : Invocation) (call : Caller) (name : String) (text : String) (args : List Value)
    (named : Fields) :
    Option (Act Value) :=
  let s := text.toList
  match plain? name s with
  | some v => some do
    noArguments (how.title name) args named
    return v
  | none =>
    match name with
    | "find" | "rfind" | "index" | "rindex" | "count" => some (search how call name s args named)
    | "startswith" | "endswith" => some (atEnd how call name s args named)
    | "split" | "rsplit" => some (split call name s args named)
    | "partition" | "rpartition" => some (partition how name s args named)
    | "join" => some (joinAll how call s args named)
    | "replace" => some (replace how call s args named)
    | "strip" | "lstrip" | "rstrip" => some (stripEnds how name s args named)
    | "center" | "ljust" | "rjust" => some (aligned how call name s args named)
    | "removeprefix" | "removesuffix" => some (removeEnd how name s args named)
    | "splitlines" => some (lines call s args named)
    | "expandtabs" => some (expanded call s args named)
    | "encode" => some (encoded s args named)
    | "translate" => some (translated how call s args named)
    | "zfill" => some do
      let width ← sizeArgument call (← onlyArgument (how.title "zfill") args named)
      checkWidth width
      return ofChars (zeroFilled width.toNat '0' (fun c => c == '+' || c == '-') s)
    | "__getnewargs__" => some do
      noArguments (how.title "__getnewargs__") args named
      allocValue (.tuple [.text text])
    | "format" => some do return .text (← render call text args named)
    | "format_map" => some do
      return .text (← renderMapped call text (← onlyArgument (how.title "format_map") args named))
    | "__format__" => some do
      let v ← onlyArgument (how.title "__format__") args named
      let spec ← textArgument "__format__() argument" v
      laidOutBy (Format.formatText spec "str" text) >>= fun t => return .text t
    | _ => none

end Covenant.Act.TextMethod
