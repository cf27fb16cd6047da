import Covenant.Text.Quoted

/-!
Codecs: how texts are written as bytes and read back.

Reading stops at the first bytes that mean nothing; what comes of them is for the caller to decide.
-/

namespace Covenant.Text

/-- The codecs. -/
inductive Codec where
  | utf8
  | ascii
  | latin1
  deriving Repr, DecidableEq

namespace Codec

/-- The name that texts give to a codec. -/
def name : Codec → String
  | utf8 => "utf-8"
  | ascii => "ascii"
  | latin1 => "latin-1"

/-- A name of a codec in small letters, its marks all alike. -/
def normalName (s : String) : String :=
  String.ofList (s.toList.map fun c => if c == '_' || c == ' ' then '-' else c.toLower)

/-- The codec of a name. -/
def ofName? (s : String) : Option Codec :=
  let s := normalName s
  if ["utf-8", "utf8", "u8", "utf", "cp65001"].contains s then some utf8
  else if ["ascii", "us-ascii", "646", "ansi-x3.4-1968"].contains s then some ascii
  else
    let names := ["latin-1", "latin1", "latin", "iso-8859-1", "iso8859-1", "8859", "cp819", "l1"]
    if names.contains s then some latin1 else none

/-- What cannot be read or written: where it starts and ends, and why. -/
structure Trouble where
  start : Nat
  stop : Nat
  reason : String
  deriving Repr, DecidableEq

/-- The text that bytes stand for, up to the first trouble; then the trouble, and the bytes after
it. -/
structure Progress where
  read : List Char
  trouble : Option Trouble
  rest : List UInt8
  deriving Repr, DecidableEq

/-- Whether a byte continues a character. -/
def isContinuation (b : UInt8) : Bool :=
  0x80 ≤ b && b < 0xc0

/-- How many bytes follow a first byte, and the range of the second one; nothing if no character
starts so. -/
def follows? (b : UInt8) : Option (Nat × UInt8 × UInt8) :=
  if 0xc2 ≤ b && b < 0xe0 then some (1, 0x80, 0xbf)
  else if b == 0xe0 then some (2, 0xa0, 0xbf)
  else if b == 0xed then some (2, 0x80, 0x9f)
  else if 0xe1 ≤ b && b < 0xf0 then some (2, 0x80, 0xbf)
  else if b == 0xf0 then some (3, 0x90, 0xbf)
  else if 0xf1 ≤ b && b < 0xf4 then some (3, 0x80, 0xbf)
  else if b == 0xf4 then some (3, 0x80, 0x8f)
  else none

/-- One character at the start of bytes, with the number of bytes it takes; or why there is none,
with the number of bytes that are at fault. -/
def readUtf8Char (b : UInt8) (rest : List UInt8) : Except (Nat × String) (Char × Nat) :=
  if b < 0x80 then .ok (Char.ofNat b.toNat, 1)
  else
    match follows? b with
    | none => .error (1, "invalid start byte")
    | some (count, low, high) =>
      let good := (rest.take 1).takeWhile fun c => low ≤ c && c ≤ high
      let good := if good.isEmpty then [] else good ++ ((rest.drop 1).take (count - 1)).takeWhile
        isContinuation
      if good.length = count then
        let lead := b.toNat % twoToLead count
        .ok (Char.ofNat (good.foldl (fun n c => n * 64 + c.toNat % 64) lead), count + 1)
      else if good.length = rest.length then .error (good.length + 1, "unexpected end of data")
      else .error (good.length + 1, "invalid continuation byte")
where
  /-- The size of the part of a first byte that belongs to the character. -/
  twoToLead : Nat → Nat
    | 1 => 32
    | 2 => 16
    | _ => 8

/-- Reads bytes from a position on, at most as many as `limit` says. -/
def readUtf8 : (limit position : Nat) → (read : List Char) → List UInt8 → Progress
  | _, _, read, [] => ⟨read.reverse, none, []⟩
  | 0, _, read, rest => ⟨read.reverse, none, rest⟩
  | limit + 1, position, read, b :: rest =>
    match readUtf8Char b rest with
    | .ok (c, count) => readUtf8 limit (position + count) (c :: read) (rest.drop (count - 1))
    | .error (count, reason) =>
      ⟨read.reverse, some ⟨position, position + count, reason⟩, rest.drop (count - 1)⟩

/-- Reads bytes from a position on. -/
def read (codec : Codec) (position : Nat) (bytes : List UInt8) : Progress :=
  match codec with
  | utf8 => readUtf8 bytes.length position [] bytes
  | ascii =>
    let plain := bytes.takeWhile (· < 0x80)
    let chars := plain.map fun b => Char.ofNat b.toNat
    match bytes.drop plain.length with
    | [] => ⟨chars, none, []⟩
    | _ :: rest =>
      let place := position + plain.length
      ⟨chars, some ⟨place, place + 1, "ordinal not in range(128)"⟩, rest⟩
  | latin1 => ⟨bytes.map fun b => Char.ofNat b.toNat, none, []⟩

/-- The bytes of a character in UTF-8. -/
def writeUtf8Char (c : Char) : List UInt8 :=
  (String.singleton c).toUTF8.toList

/-- The bytes of a text, or the first run of characters that the codec cannot write. -/
def write (codec : Codec) (text : List Char) : Except Trouble (List UInt8) :=
  match codec with
  | utf8 => .ok (text.flatMap writeUtf8Char)
  | ascii => narrow 128 "ordinal not in range(128)"
  | latin1 => narrow 256 "ordinal not in range(256)"
where
  /-- The bytes of a text whose characters lie below a limit. -/
  narrow (limit : Nat) (reason : String) : Except Trouble (List UInt8) :=
    let plain := text.takeWhile fun c => c.toNat < limit
    if plain.length = text.length then .ok (text.map fun c => c.toNat.toUInt8)
    else
      let bad := (text.drop plain.length).takeWhile fun c => limit ≤ c.toNat
      .error ⟨plain.length, plain.length + bad.length, reason⟩

end Codec

end Covenant.Text
