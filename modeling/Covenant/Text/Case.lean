import Covenant.Text.CaseTable

/-!
Texts in small letters, in capitals and with title letters.

A sigma that ends a word has a small letter of its own. Of a text with letters of no case it is
never said that it is in small letters or in capitals.
-/

namespace Covenant.Text

/-- Whether a character is a small letter. -/
def isSmall (c : Char) : Bool :=
  (runOf? smallRuns c).isSome

/-- Whether a character is a capital. -/
def isCapital (c : Char) : Bool :=
  (runOf? capitalRuns c).isSome

/-- Whether a character is a title letter. -/
def isTitleLetter (c : Char) : Bool :=
  isInTable titleRanges c

/-- Whether a character has a case. -/
def isCased (c : Char) : Bool :=
  isSmall c || isCapital c || isTitleLetter c

/-- A character moved by the run of a table that it belongs to. -/
def moved? (table : Array Run) (c : Char) : Option Char :=
  (runOf? table c).map fun r => Char.ofNat ((c.toNat : Int) + r.shift).toNat

/-- The several characters that a table gives for one. -/
def several? (table : List (Nat × List Nat)) (c : Char) : Option (List Char) :=
  (table.find? (·.1 == c.toNat)).map fun p => p.2.map Char.ofNat

/-- The small letters of a character, whatever stands around it. -/
def toSmall (c : Char) : List Char :=
  if c.toNat = 0x130 then ['i', Char.ofNat 0x307] else [(moved? toSmallRuns c).getD c]

/-- The capitals of a character. -/
def toCapital (c : Char) : List Char :=
  (several? toCapitals c).getD [(moved? toCapitalRuns c).getD c]

/-- The title letters of a character. -/
def toTitle (c : Char) : List Char :=
  match several? toTitles c, moved? toTitleRuns c with
  | some s, _ => s
  | none, some d => [d]
  | none, none => toCapital c

/-- The characters that stand for one when case is not to matter. -/
def toFold (c : Char) : List Char :=
  match several? toFolded c, moved? foldedRuns c with
  | some s, _ => s
  | none, some d => [d]
  | none, none => toSmall c

/-- Whether the nearest character that is not passed over has a case. -/
def meetsCased (s : List Char) : Bool :=
  match s.dropWhile (isInTable passedOverRanges) with
  | [] => false
  | c :: _ => isCased c

/-- The small letters of a character between those before it, nearest first, and those after it. -/
def toSmallBetween (before after : List Char) (c : Char) : List Char :=
  if c.toNat = 0x3a3 then
    if meetsCased before && !meetsCased after then [Char.ofNat 0x3c2] else [Char.ofNat 0x3c3]
  else toSmall c

/-- Maps every character together with those before it, nearest first, and those after it. -/
def mapBetween (f : (before after : List Char) → Char → List Char) :
    (before : List Char) → List Char → List Char
  | _, [] => []
  | before, c :: rest => f before rest c ++ mapBetween f (c :: before) rest

/-- A text in small letters. -/
def small (s : List Char) : List Char :=
  mapBetween toSmallBetween [] s

/-- A text in capitals. -/
def capitals (s : List Char) : List Char :=
  s.flatMap toCapital

/-- A text whose first letter is a title letter and whose others are small. -/
def capitalized : List Char → List Char
  | [] => []
  | c :: rest => toTitle c ++ mapBetween toSmallBetween [c] rest

/-- A text in which every word starts with a title letter. -/
def titled (s : List Char) : List Char :=
  let step (before after : List Char) (c : Char) : List Char :=
    if (before.head?.map isCased).getD false then toSmallBetween before after c else toTitle c
  mapBetween step [] s

/-- A text with small letters and capitals exchanged. -/
def swapped (s : List Char) : List Char :=
  let step (before after : List Char) (c : Char) : List Char :=
    if isCapital c then toSmallBetween before after c
    else if isSmall c then toCapital c
    else [c]
  mapBetween step [] s

/-- A text as it is compared when case is not to matter. -/
def folded (s : List Char) : List Char :=
  s.flatMap toFold

/-- Whether a text is in small letters. -/
def isInSmall (s : List Char) : Bool :=
  s.any isSmall && !s.any fun c => isCapital c || isTitleLetter c

/-- Whether a text is in capitals. -/
def isInCapitals (s : List Char) : Bool :=
  s.any isCapital && !s.any fun c => isSmall c || isTitleLetter c

/-- Whether every word of a text starts with a capital and goes on in small letters; `within` says
that the character before has a case. -/
def wordsTitled : (within : Bool) → List Char → Bool
  | _, [] => true
  | within, c :: rest =>
    if isCapital c || isTitleLetter c then !within && wordsTitled true rest
    else if isSmall c then within && wordsTitled true rest
    else wordsTitled false rest

/-- Whether a text is titled. -/
def isTitled (s : List Char) : Bool :=
  s.any isCased && wordsTitled false s

end Covenant.Text
