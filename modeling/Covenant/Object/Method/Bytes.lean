import Covenant.Object.Collection
import Covenant.Object.Method.Slice
import Covenant.Text.Search

/-!
The methods of byte strings.

A byte is looked at as the ASCII character that it stands for; a byte that stands for none has
neither case nor class. Where a byte string is looked for in another, an integer does for a single
byte.
-/

namespace Covenant.Act.BytesMethod

open Covenant.Text

/-! ## Bytes as ASCII characters -/

/-- Whether a byte is a small letter. -/
def isSmall (b : UInt8) : Bool := 0x61 ≤ b && b ≤ 0x7a

/-- Whether a byte is a capital letter. -/
def isCapital (b : UInt8) : Bool := 0x41 ≤ b && b ≤ 0x5a

/-- Whether a byte is a letter. -/
def isLetter (b : UInt8) : Bool := isSmall b || isCapital b

/-- Whether a byte is a digit. -/
def isDigit (b : UInt8) : Bool := 0x30 ≤ b && b ≤ 0x39

/-- Whether a byte is blank. -/
def isBlank (b : UInt8) : Bool := b == 0x20 || (0x09 ≤ b && b ≤ 0x0d)

/-- A letter as a small one. -/
def toSmall (b : UInt8) : UInt8 := if isCapital b then b + 0x20 else b

/-- A letter as a capital one. -/
def toCapital (b : UInt8) : UInt8 := if isSmall b then b - 0x20 else b

/-- The first letter of every word as a capital, all others as small ones. -/
def titled : (inside : Bool) → List UInt8 → List UInt8
  | _, [] => []
  | inside, b :: rest => (if inside then toSmall b else toCapital b) :: titled (isLetter b) rest

/-- Whether the capitals are the first letters of words. -/
def wordsTitled : (inside : Bool) → List UInt8 → Bool
  | _, [] => true
  | inside, b :: rest =>
    if isCapital b then !inside && wordsTitled true rest
    else if isSmall b then inside && wordsTitled true rest
    else wordsTitled false rest

/-- What the methods without arguments give. -/
def plain? (name : String) (s : List UInt8) : Option Value :=
  match name with
  | "lower" => some (.bytes (s.map toSmall))
  | "upper" => some (.bytes (s.map toCapital))
  | "capitalize" =>
    some (.bytes (match s with
      | [] => []
      | b :: rest => toCapital b :: rest.map toSmall))
  | "title" => some (.bytes (titled false s))
  | "swapcase" => some (.bytes (s.map fun b => if isCapital b then toSmall b else toCapital b))
  | "isalnum" => some (.bool (!s.isEmpty && s.all fun b => isLetter b || isDigit b))
  | "isalpha" => some (.bool (!s.isEmpty && s.all isLetter))
  | "isascii" => some (.bool (s.all fun b => b < 0x80))
  | "isdigit" => some (.bool (!s.isEmpty && s.all isDigit))
  | "islower" => some (.bool (s.any isSmall && !s.any isCapital))
  | "isspace" => some (.bool (!s.isEmpty && s.all isBlank))
  | "istitle" => some (.bool (s.any isLetter && wordsTitled false s))
  | "isupper" => some (.bool (s.any isCapital && !s.any isSmall))
  | "__bytes__" => some (.bytes s)
  | _ => none

/-! ## Methods -/

/-- The bytes of a value that has to be a byte string. -/
def bytesOf (v : Value) : Act (List UInt8) := do
  match v with
  | .bytes b => return b
  | v => fail .typeError ("a bytes-like object is required, not '" ++ (← typeName v) ++ "'")

/-- Byte strings as a new list. -/
def listOf (parts : List (List UInt8)) : Act Value :=
  allocValue (.list (parts.map .bytes))

/-- What is looked for: a byte string or a single byte. -/
def partOf (call : Caller) (v : Value) : Act (List UInt8) := do
  match v with
  | .bytes b => return b
  | v =>
    match ← indexOf? call v with
    | none =>
      fail .typeError ("argument should be integer or bytes-like object, not '" ++
        (← typeName v) ++ "'")
    | some n =>
      if 0 ≤ n && n < 256 then return [n.toNat.toUInt8]
      else fail .valueError "byte must be in range(0, 256)"

/-- The part of a byte string in which something is looked for, with its start. -/
def searched? (s : List UInt8) (start stop : Option Int) : Option (Nat × List UInt8) :=
  (partBounds? start stop s.length).map fun (first, last) => (first, (s.take last).drop first)

/-- Looking for a part, and counting it. -/
def search (how : Invocation) (call : Caller) (name : String) (s : List UInt8) (args : List Value)
    (named : Fields) : Act Value := do
  let args ← countedArguments how name 1 3 args named
  let start ← sliceBound? call args[1]?
  let stop ← sliceBound? call args[2]?
  let part ← partOf call (args.headD .null)
  let inside := searched? s start stop
  let position (find : List UInt8 → Option Nat) : Option Int :=
    inside.bind fun (first, t) => (find t).map fun i => ((first + i : Nat) : Int)
  let first := position (findFirst? part 0)
  let last := position (findLast? part)
  let needed (found : Option Int) : Act Value := do
    match found with
    | some i => return .int i
    | none => fail .valueError "subsection not found"
  match name with
  | "find" => return .int (first.getD (-1))
  | "rfind" => return .int (last.getD (-1))
  | "index" => needed first
  | "rindex" => needed last
  | _ => return .int ((inside.map fun (_, t) => countOf part t).getD 0)

/-- Whether a byte string starts or ends with one of some parts, asked in order. -/
def isAtEnd (name : String) (inside : Option (List UInt8)) : List Value → Act Bool
  | [] => return false
  | v :: rest => do
    let part ← bytesOf v
    let fits := match inside with
      | none => false
      | some t => if name == "startswith" then part.isPrefixOf t else part.isSuffixOf t
    if fits then return true else isAtEnd name inside rest

/-- Whether a byte string starts or ends with a part, or with one of several in a tuple. -/
def atEnd (how : Invocation) (call : Caller) (name : String) (s : List UInt8) (args : List Value)
    (named : Fields) :
    Act Value := do
  let args ← countedArguments how name 1 3 args named
  let start ← sliceBound? call args[1]?
  let stop ← sliceBound? call args[2]?
  let among (parts : List Value) : Act Value := do
    return .bool (← isAtEnd name ((searched? s start stop).map (·.2)) parts)
  let refuse (v : Value) : Act Value := do
    fail .typeError (name ++ " first arg must be bytes or a tuple of bytes, not " ++
      (← typeName v))
  let v := args.headD .null
  match v with
  | .bytes _ => among [v]
  | .ref r =>
    match ← load r with
    | .tuple parts => among parts
    | _ => refuse v
  | v => refuse v

/-- Taking a byte string apart at a separator or at blanks. -/
def split (call : Caller) (name : String) (s : List UInt8) (args : List Value) (named : Fields) :
    Act Value := do
  let given ← namedArguments ⟨name, ["sep", "maxsplit"], 0, 2, 0⟩ args named
  let limit ← limitArgument call (s.length + 1) given[1]?.join
  match given[0]?.join.getD .null with
  | .null =>
    if name == "split" then listOf (splitAtBlanks isBlank limit (s.length + 1) s)
    else listOf (splitAtLastBlanks isBlank limit s)
  | v =>
    match ← bytesOf v with
    | [] => fail .valueError "empty separator"
    | separator =>
      if name == "split" then listOf (splitAtPart separator limit s)
      else listOf (splitAtLastPart separator limit s)

/-- Taking a byte string apart at the first or the last occurrence of a separator. -/
def partition (how : Invocation) (name : String) (s : List UInt8) (args : List Value)
    (named : Fields) :
    Act Value := do
  let separator ← bytesOf (← onlyArgument (how.title name) args named)
  if separator.isEmpty then fail .valueError "empty separator"
  else
    let first := name == "partition"
    let found := if first then findFirst? separator 0 s else findLast? separator s
    let parts := match found with
      | some i => [s.take i, separator, s.drop (i + separator.length)]
      | none => if first then [s, [], []] else [[], [], s]
    allocValue (.tuple (parts.map .bytes))

/-- The byte strings of items, each of which has to be one. -/
def bytesFrom : (position : Nat) → List Value → Act (List (List UInt8))
  | _, [] => return []
  | position, v :: rest => do
    match v with
    | .bytes b => return b :: (← bytesFrom (position + 1) rest)
    | v =>
      fail .typeError ("sequence item " ++ toString position ++
        ": expected a bytes-like object, " ++ (← typeName v) ++ " found")

/-- Byte strings with a byte string between them. -/
def joinAll (how : Invocation) (call : Caller) (s : List UInt8) (args : List Value) (named : Fields)
    :
    Act Value := do
  let parts ← joinedItems call (← onlyArgument (how.title "join") args named)
  return .bytes (List.intercalate s (← bytesFrom 0 parts))

/-- A byte string with a part replaced. -/
def replace (how : Invocation) (call : Caller) (s : List UInt8) (args : List Value) (named : Fields)
    :
    Act Value := do
  let args ← placedArguments (how.title "replace") "replace" 2 3 args named
  let old ← bytesOf (args.headD .null)
  let new ← bytesOf ((args.drop 1).headD .null)
  let limit ← limitArgument call (s.length + 1) args[2]?
  return .bytes (replaceParts old new limit s)

/-- A byte string without the bytes of a class at its ends. -/
def stripEnds (how : Invocation) (name : String) (s : List UInt8) (args : List Value)
    (named : Fields) :
    Act Value := do
  let args ← placedArguments (how.title name) name 0 1 args named
  let p ← match args.headD .null with
    | .null => pure isBlank
    | v => do pure (← bytesOf v).contains
  let front (t : List UInt8) := t.dropWhile p
  let back (t : List UInt8) := (t.reverse.dropWhile p).reverse
  match name with
  | "strip" => return .bytes (back (front s))
  | "lstrip" => return .bytes (front s)
  | _ => return .bytes (back s)

/-- A byte string in a field of a width. -/
def aligned (how : Invocation) (call : Caller) (name : String) (s : List UInt8) (args : List Value)
    (named : Fields) : Act Value := do
  let args ← placedArguments (how.title name) name 1 2 args named
  let width ← sizeArgument call (args.headD .null)
  let fill : UInt8 ← match (args[1]? : Option Value) with
    | none => pure 0x20
    | some (.bytes [b]) => pure b
    | some v =>
      fail .typeError (name ++ "() argument 2 must be a byte string of length 1, not " ++
        (← typeName v))
  checkWidth width
  let width := width.toNat
  match name with
  | "center" => return .bytes (centered width fill s)
  | "ljust" => return .bytes (leftAligned width fill s)
  | _ => return .bytes (rightAligned width fill s)

/-- A byte string without a part at its start or at its end. -/
def removeEnd (how : Invocation) (name : String) (s : List UInt8) (args : List Value)
    (named : Fields) :
    Act Value := do
  let part ← bytesOf (← onlyArgument (how.title name) args named)
  if name == "removeprefix" then
    return .bytes (if part.isPrefixOf s then s.drop part.length else s)
  else
    return .bytes (if part.isSuffixOf s then s.take (s.length - part.length) else s)

/-- The lines of a byte string. -/
def lines (call : Caller) (s : List UInt8) (args : List Value) (named : Fields) : Act Value := do
  let given ← namedArguments ⟨"splitlines", ["keepends"], 0, 1, 0⟩ args named
  let keep ← match given[0]?.join with
    | none => pure false
    | some v => do pure ((← smallArgument call v) != 0)
  listOf (linesOf byteLineEnd keep (s.length + 1) [] s)

/-- A byte string with its tabs replaced by blanks. -/
def expanded (call : Caller) (s : List UInt8) (args : List Value) (named : Fields) :
    Act Value := do
  let given ← namedArguments ⟨"expandtabs", ["tabsize"], 0, 1, 0⟩ args named
  let size ← match given[0]?.join with
    | none => pure 8
    | some v => smallArgument call v
  return .bytes (expandTabs 0x09 0x20 (fun b => b == 0x0a || b == 0x0d) size.toNat 0 s)

/-- A byte string read by a codec. -/
def decoded (s : List UInt8) (args : List Value) (named : Fields) : Act Value := do
  let given ← namedArguments ⟨"decode", ["encoding", "errors"], 0, 2, 0⟩ args named
  let encoding ← textOption? "decode() argument 'encoding'" given[0]?.join
  let errors ← textOption? "decode() argument 'errors'" given[1]?.join
  -- nothing is read from an empty byte string, so its codec need not exist
  if s.isEmpty then return .text ""
  let codec ← codecNamed (encoding.getD "utf-8")
  return .text (← decode codec (errors.getD "strict") s)

/-- A byte string mapped by a table of all bytes, some bytes left out before. -/
def translated (s : List UInt8) (args : List Value) (named : Fields) : Act Value := do
  let given ← namedArguments ⟨"translate", ["", "delete"], 1, 2, 1⟩ args named
  let table ← match given[0]?.join.getD .null with
    | .null => pure none
    | v => do
      let table ← bytesOf v
      if table.length = 256 then pure (some table)
      else fail .valueError "translation table must be 256 characters long"
  let dropped ← match given[1]?.join with
    | none => pure []
    | some v => bytesOf v
  let kept := s.filter fun b => !dropped.contains b
  return .bytes (match table with
    | none => kept
    | some table => kept.map fun b => table.getD b.toNat b)

/-- The table that maps some bytes to others. -/
def tableOf (args : List Value) (named : Fields) : Act Value := do
  let args ← placedArguments "bytes.maketrans" "maketrans" 2 2 args named
  let old ← bytesOf (args.headD .null)
  let new ← bytesOf ((args.drop 1).headD .null)
  if old.length = new.length then
    let all := (List.range 256).map Nat.toUInt8
    return .bytes (all.map fun b => (((old.zip new).reverse.find? (·.1 == b)).map (·.2)).getD b)
  else fail .valueError "maketrans arguments must have same length"

/-! ## Hexadecimal digits -/

/-- The groups of a byte string with `size` bytes each, counted from the end. -/
def groupsFromEnd (size : Nat) (s : List UInt8) : (steps : Nat) → List (List UInt8)
  | 0 => [s]
  | steps + 1 =>
    if s.length ≤ size || size = 0 then [s]
    else
      let cut := (s.length - 1) % size + 1
      s.take cut :: groupsFromEnd size (s.drop cut) steps

/-- The groups of a byte string with `size` bytes each, counted from the start. -/
def groupsFromStart (size : Nat) (s : List UInt8) : (steps : Nat) → List (List UInt8)
  | 0 => [s]
  | steps + 1 =>
    if s.length ≤ size || size = 0 then [s]
    else s.take size :: groupsFromStart size (s.drop size) steps

/-- The separator of groups of digits. -/
def separatorOf (call : Caller) (v : Value) : Act Char := do
  if (← length call v) != 1 then fail .valueError "sep must be length 1."
  else
    match v.text?, v with
    | some s, _ =>
      match s.toList with
      | [c] =>
        if c.toNat < 128 then return c else fail .valueError "sep must be ASCII."
      | _ => fail .valueError "sep must be length 1."
    | none, .bytes [b] =>
      if b < 128 then return Char.ofNat b.toNat else fail .valueError "sep must be ASCII."
    | none, _ => fail .typeError "sep must be str or bytes."

/-- The bytes as hexadecimal digits. -/
def hexText (call : Caller) (s : List UInt8) (args : List Value) (named : Fields) :
    Act Value := do
  let given ← namedArguments ⟨"hex", ["sep", "bytes_per_sep"], 0, 2, 0⟩ args named
  let size ← match given[1]?.join with
    | none => pure 1
    | some v => smallArgument call v
  let digits (t : List UInt8) : List Char := t.flatMap fun b => hexDigits 2 b.toNat
  match given[0]?.join with
  | none => return .text (String.ofList (digits s))
  | some v => do
    let c ← separatorOf call v
    let groups := if 0 ≤ size then groupsFromEnd size.toNat s s.length
      else groupsFromStart size.natAbs s s.length
    return .text (String.ofList (List.intercalate [c] (groups.map digits)))

/-- The value of a hexadecimal digit. -/
def hexValue? (c : Char) : Option Nat :=
  if c.toNat < 128 then (Number.digitValue? c).filter (· < 16) else none

/-- The bytes that hexadecimal digits stand for, with blanks between bytes; or the position of what
stands for none. -/
def readHex : (position : Nat) → List Char → Except Nat (List UInt8)
  | _, [] => .ok []
  | position, c :: rest =>
    if c.toNat < 128 && isBlank c.toNat.toUInt8 then readHex (position + 1) rest
    else
      match hexValue? c, rest with
      | none, _ => .error position
      | some _, [] => .error (position + 1)
      | some a, d :: rest =>
        match hexValue? d with
        | none => .error (position + 1)
        | some b => do return (16 * a + b).toUInt8 :: (← readHex (position + 2) rest)

/-- The byte string that hexadecimal digits stand for. -/
def fromHex (args : List Value) (named : Fields) : Act Value := do
  let v ← onlyArgument "bytes.fromhex" args named
  let s ← textArgument "fromhex() argument" v
  match readHex 0 s.toList with
  | .ok b => return .bytes b
  | .error position =>
    fail .valueError ("non-hexadecimal number found in fromhex() arg at position " ++
      toString position)

/-- What a method of a byte string gives; nothing if byte strings have no method of that name. -/
def run? (how : Invocation) (call : Caller) (name : String) (s : List UInt8) (args : List Value)
    (named : Fields) :
    Option (Act Value) :=
  match plain? name s with
  | some v => some do
    noArguments (how.title name) args named
    return v
  | none =>
    match name with
    | "find" | "rfind" | "index" | "rindex" | "count" => some (search how call name s args named)
    | "startswith" | "endswith" => some (atEnd how call name s args named)
    | "split" | "rsplit" => some (split call name s args named)
    | "partition" | "rpartition" => some (partition how name s args named)
    | "join" => some (joinAll how call s args named)
    | "replace" => some (replace how call s args named)
    | "strip" | "lstrip" | "rstrip" => some (stripEnds how name s args named)
    | "center" | "ljust" | "rjust" => some (aligned how call name s args named)
    | "removeprefix" | "removesuffix" => some (removeEnd how name s args named)
    | "splitlines" => some (lines call s args named)
    | "expandtabs" => some (expanded call s args named)
    | "decode" => some (decoded s args named)
    | "translate" => some (translated s args named)
    | "hex" => some (hexText call s args named)
    | "zfill" => some do
      let width ← sizeArgument call (← onlyArgument (how.title "zfill") args named)
      checkWidth width
      return .bytes (zeroFilled width.toNat 0x30 (fun b => b == 0x2b || b == 0x2d) s)
    | "__getnewargs__" => some do
      noArguments (how.title "__getnewargs__") args named
      allocValue (.tuple [.bytes s])
    | _ => none

end Covenant.Act.BytesMethod
