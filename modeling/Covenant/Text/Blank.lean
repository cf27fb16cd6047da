/-!
Blank characters and the two operations on text that read names and settings leniently:
cutting the blanks off both ends and mapping to small letters.
-/

namespace Covenant.Text

/-- The blank characters: the separators of the character database, the line and column controls
and the four information separators. -/
def isBlank (c : Char) : Bool :=
  let n := c.toNat
  (0x09 ≤ n && n ≤ 0x0d) || (0x1c ≤ n && n ≤ 0x20) || n == 0x85 || n == 0xa0 || n == 0x1680 ||
    (0x2000 ≤ n && n ≤ 0x200a) || n == 0x2028 || n == 0x2029 || n == 0x202f || n == 0x205f ||
    n == 0x3000

/-- Whether a character may stand around a numeral: a blank that is no information separator. -/
def isMargin (c : Char) : Bool :=
  isBlank c && !(0x1c ≤ c.toNat && c.toNat ≤ 0x1f)

/-- The text without the characters of a class at its two ends. -/
def stripChars (p : Char → Bool) (s : List Char) : List Char :=
  ((s.dropWhile p).reverse.dropWhile p).reverse

/-- The text without the blanks at its two ends. -/
def strip (s : String) : String :=
  String.ofList (stripChars isBlank s.toList)

/-- The small letter of an ASCII capital, and of the Kelvin sign, the only other character whose
small letter is a single ASCII letter. All other characters are kept. -/
def lowerChar (c : Char) : Char :=
  if c.toNat == 0x212a then 'k' else c.toLower

/-- The text in small letters, exact wherever the result is compared with an ASCII word. -/
def lower (s : String) : String :=
  String.ofList (s.toList.map lowerChar)

/-- The text with ASCII capitals made small and every other character kept. -/
def lowerAscii (s : String) : String :=
  String.ofList (s.toList.map Char.toLower)

end Covenant.Text
