import Covenant.Text.Printable

/-!
The quoted notation of texts and byte strings.

A text is put between single quotes, or between double quotes if it holds a single quote and no
double one. Inside, the backslash and the quote in use are escaped, the three common control
characters have short escapes, and an unprintable character is written by its number in the
shortest of three widths. Byte strings follow the same rule with a leading mark, every byte
outside ASCII being unprintable.
-/

namespace Covenant.Text

/-- The digit of `n < 16` in small letters. -/
def hexDigit (n : Nat) : Char :=
  if n < 10 then Char.ofNat (48 + n) else Char.ofNat (87 + n)

/-- The last `width` hexadecimal digits of `n`, most significant first. -/
def hexDigits : (width n : Nat) → List Char
  | 0, _ => []
  | width + 1, n => hexDigits width (n / 16) ++ [hexDigit (n % 16)]

/-- The numeric escape of a character: two, four or eight digits. -/
def numericEscape (n : Nat) : List Char :=
  if n < 0x100 then '\\' :: 'x' :: hexDigits 2 n
  else if n < 0x10000 then '\\' :: 'u' :: hexDigits 4 n
  else '\\' :: 'U' :: hexDigits 8 n

/-- The quote that a quoted form uses: the double one exactly if the text holds a single quote and
no double one. -/
def quoteFor (s : List Char) : Char :=
  if s.contains '\'' && !s.contains '"' then '"' else '\''

/-- One character of a quoted text; `shown` says which characters stand for themselves. -/
def quotedChar (shown : Char → Bool) (quote c : Char) : List Char :=
  if c == quote || c == '\\' then ['\\', c]
  else if c == '\n' then ['\\', 'n']
  else if c == '\r' then ['\\', 'r']
  else if c == '\t' then ['\\', 't']
  else if shown c then [c]
  else numericEscape c.toNat

/-- A text between its quotes. -/
def quotedChars (shown : Char → Bool) (s : List Char) : List Char :=
  let quote := quoteFor s
  quote :: s.flatMap (quotedChar shown quote) ++ [quote]

/-- The quoted form of a text: `it's` becomes `"it's"`. -/
def quoted (s : String) : String :=
  String.ofList (quotedChars isPrintable s.toList)

/-- A text with every character outside ASCII replaced by its numeric escape. -/
def escapeNonAscii (s : String) : String :=
  String.ofList (s.toList.flatMap fun c => if c.toNat < 0x80 then [c] else numericEscape c.toNat)

/-- The quoted form of a byte string. -/
def quotedBytes (bytes : List UInt8) : String :=
  let chars := bytes.map fun b => Char.ofNat b.toNat
  String.ofList ('b' :: quotedChars (fun c => 0x20 ≤ c.toNat && c.toNat < 0x7f) chars)

end Covenant.Text
