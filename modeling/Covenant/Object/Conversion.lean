import Covenant.Number.Reading
import Covenant.Object.Arguments
import Covenant.Object.Calculation
import Covenant.Object.Iteration
import Covenant.Object.Text
import Covenant.Text.Codec

/-!
Conversions: values as integers, floating-point numbers, texts and byte strings.

Numerals are read as texts or as byte strings of ASCII characters. An object is asked by a special
method for the number that it stands for, or for a whole number that can be a position.
-/

namespace Covenant.Act

open Covenant.Text

/-! ## Integers -/

/-- A byte of a numeral as a character: a byte that no numeral has as one that none has either. -/
def numeralByte (x : UInt8) : Char :=
  if x < 128 then Char.ofNat x.toNat else '?'

/-- The text of a byte string that may be a numeral. -/
def byteText (b : List UInt8) : String :=
  String.ofList (b.map numeralByte)

/-- The part of the quoted form of a numeral that a fault shows. -/
def shownNumeral (quoted : String) : String :=
  String.ofList (quoted.toList.take 200)

/-- The integer that a numeral denotes in a base; `quoted` is the quoted form of the numeral. -/
def integerOfText (base : Nat) (text quoted : String) : Act Value := do
  match Number.readInteger base text with
  | .value n => return .int n
  | .tooLong digits =>
    fail .valueError ("Exceeds the limit (" ++ toString Number.digitLimit ++
      " digits) for integer string conversion: value has " ++ toString digits ++
      " digits; use sys.set_int_max_str_digits() to increase the limit")
  | .malformed =>
    fail .valueError ("invalid literal for int() with base " ++ toString base ++ ": " ++
      shownNumeral quoted)

/-- The integer that a numeral denotes in a base; nothing if the value is no numeral. -/
def integerOfNumeral? (call : Caller) (base : Nat) (v : Value) : Act (Option Value) := do
  match v with
  | .text s => return some (← integerOfText base s (quoted s))
  | .member m => do return some (← integerOfText base m.text (← quotedText call v))
  | .bytes b => return some (← integerOfText base (byteText b) (quotedBytes (b.take 200)))
  | _ => return none

/-- The integer part of a floating-point number. -/
def integerOfFloat (x : Float) : Act Int := do
  match Number.truncate? x with
  | some n => return n
  | none =>
    if x.isNaN then fail .valueError "cannot convert float NaN to integer"
    else fail .overflowError "cannot convert float infinity to integer"

/-- The integer that an object gives of itself; nothing if it is not made for that. -/
def ownInteger? (call : Caller) (v : Value) : Act (Option Int) := do
  match ← callSpecial? call v "int" [] with
  | some result =>
    match result.int? with
    | some n => return some n
    | none =>
      fail .typeError ("__int__ returned non-int (type " ++ (← typeName result) ++ ")")
  | none =>
    match ← indexOf? call v with
    | some n => return some n
    | none =>
      match ← callSpecial? call v "trunc" [] with
      | none => return none
      | some result =>
        match ← indexOf? call result with
        | some n => return some n
        | none =>
          fail .typeError
            ("__trunc__ returned non-Integral (type " ++ (← typeName result) ++ ")")

/-- A number as an integer; nothing if the value is no number. -/
def integerOfNumber? (call : Caller) (v : Value) : Act (Option Int) := do
  match v with
  | .float x _ => return some (← integerOfFloat x)
  | v =>
    match v.int? with
    | some n => return some n
    | none => ownInteger? call v

/-- A value as an integer. -/
def toInteger (call : Caller) (v : Value) : Act Value := do
  match ← integerOfNumber? call v with
  | some n => return .int n
  | none =>
    match ← integerOfNumeral? call 10 v with
    | some n => return n
    | none =>
      fail .typeError
        ("int() argument must be a string, a bytes-like object or a real number, not '" ++
          (← typeName v) ++ "'")

/-- A numeral in a base given as a value as an integer. -/
def toIntegerInBase (call : Caller) (v base : Value) : Act Value := do
  let base ← indexOf call base
  if (base != 0 && base < 2) || 36 < base then
    fail .valueError "int() base must be >= 2 and <= 36, or 0"
  else
    match ← integerOfNumeral? call base.toNat v with
    | some n => return n
    | none => fail .typeError "int() can't convert non-string with explicit base"

/-- The integer that the arguments of a conversion denote. -/
def newInteger (call : Caller) (args : List Value) (named : Fields) : Act Value := do
  match ← namedArguments ⟨"int", ["", "base"], 0, 2, 0⟩ args named with
  | [some v, some base] => toIntegerInBase call v base
  | [some v, none] => toInteger call v
  | [none, some _] => fail .typeError "int() missing string argument"
  | _ => return .int 0

/-! ## Floating-point numbers -/

/-- The floating-point number that an object gives of itself; nothing if it is not made for
that. -/
def ownFloat? (call : Caller) (v : Value) : Act (Option Float) := do
  match ← callSpecial? call v "float" [] with
  | some (.float x _) => return some x
  | some result =>
    fail .typeError ((← typeName v) ++ ".__float__ returned non-float (type " ++
      (← typeName result) ++ ")")
  | none =>
    match ← indexOf? call v with
    | some n => return some (← asFloat n)
    | none => return none

/-- A number as a floating-point number; nothing if the value is no number. -/
def floatOfNumber? (call : Caller) (v : Value) : Act (Option Float) := do
  match v with
  | .float x _ => return some x
  | v => ownFloat? call v

/-- The floating-point number that a numeral denotes; `quoted` is the quoted form of the
numeral. -/
def floatOfText (text quoted : String) : Act Value := do
  match Number.readFloat? text with
  | some x => newFloat x
  | none => fail .valueError ("could not convert string to float: " ++ quoted)

/-- A value as a floating-point number. -/
def toFloat (call : Caller) (v : Value) : Act Value := do
  match v with
  | .float .. => return v
  | .text s => floatOfText s (quoted s)
  | .bytes b => floatOfText (byteText b) (quotedBytes b)
  | v =>
    match ← ownFloat? call v with
    | some x => newFloat x
    | none =>
      match v with
      | .member m => do floatOfText m.text (← quotedText call v)
      | v =>
        fail .typeError
          ("float() argument must be a string or a real number, not '" ++ (← typeName v) ++ "'")

/-! ## Texts and byte strings -/

/-- What becomes of a character or a byte that a codec cannot deal with. -/
inductive Remedy where
  | refuse
  | leaveOut
  | replace
  | escape
  | reference
  deriving Repr, DecidableEq

/-- The remedy of a name. -/
def remedyNamed? (name : String) : Option Remedy :=
  [("strict", Remedy.refuse), ("ignore", .leaveOut), ("replace", .replace),
    ("backslashreplace", .escape), ("xmlcharrefreplace", .reference)].lookup name

/-- The codec of a name. -/
def codecNamed (name : String) : Act Codec := do
  match Codec.ofName? name with
  | some codec => return codec
  | none => fail .lookupError ("unknown encoding: " ++ name)

/-- The remedy of a name; it is only looked for once there is trouble. -/
def remedyNamed (name : String) : Act Remedy := do
  match remedyNamed? name with
  | some remedy => return remedy
  | none => fail .lookupError ("unknown error handler name '" ++ name ++ "'")

/-- Raises the fault of a codec about an object. -/
def failCodec {α : Type} (cls : FaultClass) (codec : Codec) (object : Value)
    (trouble : Codec.Trouble) : Act α := do
  let slots : Fields :=
    [("encoding", .text codec.name), ("object", object), ("start", .int trouble.start),
      ("end", .int trouble.stop), ("reason", .text trouble.reason)]
  raise (← alloc (.fault { Fault.fresh (.known (.fault cls)) (slots.map (·.2)) [] with slots }))

/-- A byte as an escape. -/
def byteEscape (b : UInt8) : List Char :=
  ['\\', 'x'] ++ hexDigits 2 b.toNat

/-- What stands in a text for bytes that cannot be read. -/
def readingRemedy (remedy : Remedy) (bad : List UInt8) : Option (List Char) :=
  match remedy with
  | .leaveOut => some []
  | .replace => some ['\uFFFD']
  | .escape => some (bad.flatMap byteEscape)
  | _ => none

/-- The text that a byte string stands for; `limit` bounds the number of troubles. -/
def decodeFrom (codec : Codec) (errors : String) (whole : List UInt8) :
    (limit : Nat) → (position : Nat) → List UInt8 → Act (List Char)
  | 0, _, _ => return []
  | limit + 1, position, bytes => do
    let progress := codec.read position bytes
    match progress.trouble with
    | none => return progress.read
    | some trouble =>
      let remedy ← remedyNamed errors
      let bad := (whole.drop trouble.start).take (trouble.stop - trouble.start)
      match remedy, readingRemedy remedy bad with
      | .refuse, _ => failCodec .unicodeDecodeError codec (.bytes whole) trouble
      | _, some text =>
        return progress.read ++ text ++
          (← decodeFrom codec errors whole limit trouble.stop progress.rest)
      | _, none =>
        fail .typeError "don't know how to handle UnicodeDecodeError in error callback"

/-- The text that a byte string stands for. -/
def decode (codec : Codec) (errors : String) (bytes : List UInt8) : Act String := do
  return String.ofList (← decodeFrom codec errors bytes (bytes.length + 1) 0 bytes)

/-- What is written for a character that cannot be written. -/
def writingRemedy (remedy : Remedy) (c : Char) : List Char :=
  match remedy with
  | .refuse | .leaveOut => []
  | .replace => ['?']
  | .escape => numericEscape c.toNat
  | .reference => ['&', '#'] ++ (toString c.toNat).toList ++ [';']

/-- The byte string that a text is written as. -/
def encode (codec : Codec) (errors text : String) : Act (List UInt8) := do
  match codec.write text.toList with
  | .ok bytes => return bytes
  | .error trouble =>
    match ← remedyNamed errors with
    | .refuse => failCodec .unicodeEncodeError codec (.text text) trouble
    | remedy =>
      return text.toList.flatMap fun c =>
        match codec.write [c] with
        | .ok bytes => bytes
        | .error _ => (writingRemedy remedy c).map fun c => c.toNat.toUInt8

/-- A text argument of a conversion, if it was given. -/
def textOption? (place : String) (v : Option Value) : Act (Option String) := do
  match v with
  | none => return none
  | some v => return some (← textArgument place v)

/-- The text that the arguments of a conversion stand for: the plain form of a value, or what a byte
string means in a codec. -/
def newText (call : Caller) (args : List Value) (named : Fields) : Act Value := do
  let given ← namedArguments ⟨"str", ["object", "encoding", "errors"], 0, 3, 0⟩ args named
  let encoding ← textOption? "str() argument 'encoding'" given[1]?.join
  let errors ← textOption? "str() argument 'errors'" given[2]?.join
  match given[0]?.join with
  | none => return .text ""
  | some v =>
    if encoding.isNone && errors.isNone then return .text (← plainText call v)
    else
      match v with
      | .bytes [] => return .text ""
      | .bytes b => do
        return .text (← decode (← codecNamed (encoding.getD "utf-8")) (errors.getD "strict") b)
      | v =>
        if v.text?.isSome then fail .typeError "decoding str is not supported"
        else
          fail .typeError ("decoding to str: need a bytes-like object, " ++ (← typeName v) ++
            " found")

/-- A byte that a value stands for. -/
def byteOf (call : Caller) (v : Value) : Act UInt8 := do
  let n ← indexOf call v
  if 0 ≤ n && n < 256 then return n.toNat.toUInt8
  else fail .valueError "bytes must be in range(0, 256)"

/-- The bytes that the items of a value stand for, each worked out when its turn comes. -/
def bytesOfItems (call : Caller) (v : Value) : Act Value := do
  match ← attempt (iterate call v) with
  | .ok way => do
    if (← presentItems? v).isNone then lengthHint call v
    let add (found : List UInt8) (x : Value) : Act (Progress (List UInt8)) := do
      return .more ((← byteOf call x) :: found)
    return .bytes (← followWithin call add iterationLimit [] way).reverse
  | .error e =>
    if (← faultClassOf e).isA .typeError then
      fail .typeError ("cannot convert '" ++ (← typeName v) ++ "' object to bytes")
    else rethrow e

/-- A value as a byte string: as many zeros as an integer says, or the bytes of a collection. -/
def toBytes (call : Caller) (v : Value) : Act Value := do
  match ← callSpecial? call v "bytes" [] with
  | some (.bytes b) => return .bytes b
  | some result =>
    fail .typeError ("__bytes__ returned non-bytes (type " ++ (← typeName result) ++ ")")
  | none =>
    if v.text?.isSome then fail .typeError "string argument without an encoding"
    else
      match v with
      | .bytes _ => return v
      | v =>
        match ← unlessTypeError? (indexOf? call v) with
        | none => bytesOfItems call v
        | some n =>
          if outOfWord n then failWord .overflowError v
          else if n < 0 then fail .valueError "negative count"
          else return .bytes (List.replicate n.toNat 0)

/-- The byte string that the arguments of a conversion stand for. -/
def newBytes (call : Caller) (args : List Value) (named : Fields) : Act Value := do
  let given ← namedArguments ⟨"bytes", ["source", "encoding", "errors"], 0, 3, 0⟩ args named
  let encoding ← textOption? "bytes() argument 'encoding'" given[1]?.join
  let errors ← textOption? "bytes() argument 'errors'" given[2]?.join
  let text := given[0]?.join.bind Value.text?
  match given[0]?.join, text, encoding, errors with
  | _, some s, some encoding, _ => do
    return .bytes (← encode (← codecNamed encoding) (errors.getD "strict") s)
  | _, none, some _, _ => fail .typeError "encoding without a string argument"
  | _, some _, none, some _ => fail .typeError "string argument without an encoding"
  | _, none, none, some _ => fail .typeError "errors without a string argument"
  | none, _, none, none => return .bytes []
  | some v, _, none, none => toBytes call v

end Covenant.Act
