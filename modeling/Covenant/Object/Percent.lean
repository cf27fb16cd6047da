import Covenant.Format.Directive
import Covenant.Object.Collection
import Covenant.Object.Conversion

/-!
Filling a text in by directives with percent signs.

The directives are worked through from left to right, each taking the next value: of a tuple its
items in turn, of anything else the value itself once. A directive with a key takes an item of a
mapping. In the end every value must have been used, unless they came from a mapping. Byte strings
are filled in by the same rules, a byte counting as the character of its number.
-/

namespace Covenant.Act

open Covenant.Format

/-- The values that directives still take. -/
structure Supply where
  pending : List Value
  /-- What keys are looked up in. -/
  mapping : Option Value

/-- The next value. -/
def Supply.next (s : Supply) : Act (Value × Supply) := do
  match s.pending with
  | v :: rest => return (v, { s with pending := rest })
  | [] => fail .typeError "not enough arguments for format string"

/-- Whether keys can be looked up in a value that directives take. -/
def isMapping (bytes : Bool) (v : Value) : Act Bool := do
  match v with
  | .bytes _ => return !bytes
  | .cls (.known (.enumeration _)) => return true
  | .text _ | .member _ => return false
  | .ref r =>
    match ← load r with
    | .list _ | .dict _ | .alias .. => return true
    | .tuple _ => return false
    | _ => return (← special? v "getitem").isSome
  | v => return (← special? v "getitem").isSome

/-- The supply that a value is. -/
def supplyOf (bytes : Bool) (v : Value) : Act Supply := do
  let single : Supply := ⟨[v], if ← isMapping bytes v then some v else none⟩
  match v with
  | .ref r =>
    match ← load r with
    | .tuple items => return ⟨items, none⟩
    | _ => return single
  | _ => return single

/-- The byte string of characters that count as bytes. -/
def bytesOfChars (s : List Char) : List UInt8 :=
  s.map fun c => c.toNat.toUInt8

/-- The characters that the bytes of a byte string count as. -/
def charsOfBytes (b : List UInt8) : List Char :=
  b.map fun x => Char.ofNat x.toNat

/-- The supply after the key of a directive has been looked up. -/
def lookUpKey (call : Caller) (bytes : Bool) (key : List Char) (d : Directive) (s : Supply) :
    Act Supply := do
  match s.mapping, d.mistake with
  | none, _ => fail .typeError "format requires a mapping"
  | some _, some .incompleteKey => fail .valueError (DirectiveError.message bytes .incompleteKey)
  | some mapping, _ => do
    let key := if bytes then Value.bytes (bytesOfChars key) else .text (String.ofList key)
    return { s with pending := [← item call mapping key] }

/-- A width or a precision that the next value says. -/
def askAmount (limit : Nat) (kind : String) (s : Supply) : Act (Int × Supply) := do
  let (v, s) ← s.next
  match v.int? with
  | none => fail .typeError "* wants int"
  | some n =>
    if n < -(limit : Int) || (limit : Int) ≤ n then
      fail .overflowError ("Python int too large to convert to C " ++ kind)
    else return (n, s)

/-- The directive with its width settled. A negative width that was asked for moves the value to the
left. -/
def settleWidth (d : Directive) (s : Supply) : Act (Nat × Directive × Supply) := do
  match d.width with
  | .absent => return (0, d, s)
  | .given n => return (n, d, s)
  | .asked => do
    let (n, s) ← askAmount Number.wordLimit "ssize_t" s
    return (n.natAbs, if n < 0 then { d with left := true } else d, s)

/-- The precision of a directive, if it has one. -/
def settlePrecision (d : Directive) (s : Supply) : Act (Option Nat × Supply) := do
  match d.precision with
  | .absent => return (none, s)
  | .given n => return (some n, s)
  | .asked => do
    let (n, s) ← askAmount (Number.twoTo 31) "int" s
    return (some n.toNat, s)

/-- Whether a value passes for a number: it is one, or its class has a method that gives one. -/
def isNumeric (v : Value) : Act Bool := do
  match v with
  | .bool _ | .int _ | .float .. => return true
  | v => ["int", "index", "float"].anyM fun name => do return (← special? v name).isSome

/-- A value as an integer for a directive that writes digits. -/
def directiveInteger (call : Caller) (bytes : Bool) (kind : Char) (v : Value) : Act Int := do
  let whole := kind == 'o' || kind == 'x' || kind == 'X'
  let named := if bytes && kind == 'i' then 'd' else kind
  let refuse : Act Int := do
    fail .typeError ("%" ++ named.toString ++ " format: " ++
      (if whole then "an integer" else "a real number") ++ " is required, not " ++
      (← typeName v))
  let reading : Act (Option Int) := do
    if !(← isNumeric v) then return none
    else if whole then indexOf? call v
    else integerOfNumber? call v
  match ← attempt reading with
  | .ok (some n) => return n
  | .ok none => refuse
  | .error e => if (← faultClassOf e).isA .typeError then refuse else rethrow e

/-- A value as a floating-point number for a directive that writes one. -/
def directiveFloat (call : Caller) (bytes : Bool) (v : Value) : Act Float := do
  let refuse (complaint : String) : Act Float := do
    fail .typeError (complaint ++ (← typeName v))
  if bytes then
    match ← attempt (floatOfNumber? call v) with
    | .ok (some x) => return x
    | _ => refuse "float argument required, not "
  else
    match ← floatOfNumber? call v with
    | some x => return x
    | none => refuse "must be real number, not "

/-- The number of the character that a value stands for; nothing if it stands for none. -/
def directiveCharacter? (call : Caller) (bytes : Bool) (v : Value) : Act (Option Int) := do
  let ofIndex : Act (Option Int) := unlessTypeError? (indexOf? call v)
  match v with
  | .bytes b =>
    if bytes then return match b with
      | [x] => some x.toNat
      | _ => none
    else ofIndex
  | v =>
    match v.text?, bytes with
    | some s, false => return match s.toList with
      | [c] => some c.toNat
      | _ => none
    | _, _ => ofIndex

/-- The character that a value stands for. -/
def directiveCharacter (call : Caller) (bytes : Bool) (v : Value) : Act Char := do
  let (limit, shownLimit, complaint) := if bytes then
      (256, "256", "%c requires an integer in range(256) or a single byte")
    else (0x110000, "0x110000", "%c requires int or char")
  match ← directiveCharacter? call bytes v with
  | none => fail .typeError complaint
  | some n =>
    if 0 ≤ n && n < limit then return Char.ofNat n.toNat
    else fail .overflowError ("%c arg not in range(" ++ shownLimit ++ ")")

/-- The bytes of a value for a directive that takes them over. -/
def directiveBytes (call : Caller) (v : Value) : Act (List Char) := do
  match v with
  | .bytes b => return charsOfBytes b
  | v =>
    match ← callSpecial? call v "bytes" [] with
    | some (.bytes b) => return charsOfBytes b
    | some result =>
      fail .typeError ("__bytes__ returned non-bytes (type " ++ (← typeName result) ++ ")")
    | none =>
      fail .typeError ("%b requires a bytes-like object, or an object that implements " ++
        "__bytes__, not '" ++ (← typeName v) ++ "'")

/-- Raises the fault of a letter that is no kind. -/
def failDirective {α : Type} (kind : Char) (position : Nat) : Act α :=
  let shown := if 31 ≤ kind.toNat && kind.toNat < 127 then kind else '?'
  fail .valueError ("unsupported format character '" ++ shown.toString ++ "' (0x" ++
    String.ofList (Nat.toDigits 16 kind.toNat) ++ ") at index " ++ toString position)

/-- A value as a directive writes it; `position` is where the letter of the kind stands. -/
def writeDirective (call : Caller) (bytes : Bool) (position : Nat) (d : Directive) (width : Nat)
    (precision : Option Nat) (v : Value) : Act (List Char) := do
  let placed (text : List Char) : List Char :=
    d.placeText width (match precision with
      | some n => text.take n
      | none => text)
  let quotedAscii : Act (List Char) := do
    return (Text.escapeNonAscii (← quotedText call v)).toList
  if d.kind == 's' || (bytes && d.kind == 'b') then
    if bytes then return placed (← directiveBytes call v)
    else return placed (← plainText call v).toList
  else if d.kind == 'r' then
    if bytes then return placed (← quotedAscii) else return placed (← quotedText call v).toList
  else if d.kind == 'a' then return placed (← quotedAscii)
  else if d.kind == 'c' then return d.placeText width [← directiveCharacter call bytes v]
  else if "diuoxX".toList.contains d.kind then do
    let n ← directiveInteger call bytes d.kind v
    if "diu".toList.contains d.kind && Number.writableLimit ≤ n.natAbs then
      laidOutBy (.error .tooLong)
    else return d.placeNumber width (d.integerDigits (precision.getD 1) n)
  else if "eEfFgG".toList.contains d.kind then do
    let x ← directiveFloat call bytes v
    return d.placeNumber width (d.floatDigits (precision.getD 6) x)
  else failDirective d.kind position

/-- Works a directive off. -/
def workOff (call : Caller) (bytes : Bool) (position : Nat) (d : Directive) (s : Supply) :
    Act (List Char × Supply) := do
  let failFor (mistakes : List DirectiveError) : Act Unit := do
    match d.mistake with
    | some e => if mistakes.contains e then fail .valueError (e.message bytes) else pure ()
    | none => pure ()
  let s ← match d.key with
    | some key => lookUpKey call bytes key d s
    | none => pure s
  let (width, d, s) ← settleWidth d s
  failFor [.widthTooBig]
  let (precision, s) ← settlePrecision d s
  failFor [.precisionTooBig, .incomplete]
  let (v, s) ← s.next
  let tooWide := Format.widestField < width
  let text ← writeDirective call bytes position d (if tooWide then 0 else width) precision v
  if tooWide then failWith .memoryError [] else return (text, s)

/-- Fills characters in, at most `limit` directives; `total` is the number of characters of the
whole. -/
def fillChars (call : Caller) (bytes : Bool) (total : Nat) :
    (limit : Nat) → List Char → Supply → Act (List Char × Supply)
  | 0, _, s => return ([], s)
  | limit + 1, text, s => do
    let plain := text.takeWhile (· != '%')
    match text.drop plain.length with
    | [] => return (plain, s)
    | _ :: '%' :: rest => do
      let (more, s) ← fillChars call bytes total limit rest s
      return (plain ++ '%' :: more, s)
    | _ :: rest => do
      let (d, rest) := readDirective bytes rest
      let (text, s) ← workOff call bytes (total - rest.length - 1) d s
      let (more, s) ← fillChars call bytes total limit rest s
      return (plain ++ text ++ more, s)

/-- Fills characters in with a value. -/
def fillByDirectives (call : Caller) (bytes : Bool) (text : List Char) (v : Value) :
    Act (List Char) := do
  let (filled, s) ← fillChars call bytes text.length (text.length + 1) text
    (← supplyOf bytes v)
  if s.pending.isEmpty || s.mapping.isSome then return filled
  else
    fail .typeError ("not all arguments converted during " ++
      (if bytes then "bytes" else "string") ++ " formatting")

/-- What filling a text or a byte string in with a value gives; nothing for any other value. The
text of a member has no directives, so filling it in gives the member itself. -/
def percent? (call : Caller) (v args : Value) : Act (Option Value) := do
  match v with
  | .bytes b =>
    return some (.bytes (bytesOfChars (← fillByDirectives call true (charsOfBytes b) args)))
  | .text s => return some (.text (String.ofList (← fillByDirectives call false s.toList args)))
  | .member m => do
    let _ ← fillByDirectives call false m.text.toList args
    return some v
  | _ => return none

end Covenant.Act
