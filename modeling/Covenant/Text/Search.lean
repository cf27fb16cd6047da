/-!
Looking for a part in a sequence, and taking sequences apart.

Everything is said of lists, so that it holds of texts and byte strings alike. Parts that are found
do not overlap.
-/

namespace Covenant.Text

section

variable {α : Type} [BEq α]

/-- The position of the first occurrence of a part, counted from `position`. -/
def findFirst? (part : List α) : (position : Nat) → List α → Option Nat
  | position, [] => if part.isEmpty then some position else none
  | position, c :: rest =>
    if part.isPrefixOf (c :: rest) then some position else findFirst? part (position + 1) rest

/-- The position of the last occurrence of a part. -/
def findLast? (part whole : List α) : Option Nat :=
  (findFirst? part.reverse 0 whole.reverse).map fun i => whole.length - i - part.length

/-- How often a part that is not empty occurs; `steps` bounds the walk. -/
def occurrences (part : List α) : (steps : Nat) → List α → Nat
  | 0, _ => 0
  | steps + 1, whole =>
    match findFirst? part 0 whole with
    | none => 0
    | some i => occurrences part steps (whole.drop (i + part.length)) + 1

/-- How often a part occurs; one that is empty occurs at every gap. -/
def countOf (part whole : List α) : Nat :=
  if part.isEmpty then whole.length + 1 else occurrences part (whole.length + 1) whole

/-- The pieces between the first occurrences of a separator that is not empty, as many as `limit`
of them. -/
def splitAtPart (separator : List α) : (limit : Nat) → List α → List (List α)
  | 0, whole => [whole]
  | limit + 1, whole =>
    match findFirst? separator 0 whole with
    | none => [whole]
    | some i => whole.take i :: splitAtPart separator limit (whole.drop (i + separator.length))

/-- The pieces between the last occurrences of a separator that is not empty. -/
def splitAtLastPart (separator : List α) (limit : Nat) (whole : List α) : List (List α) :=
  ((splitAtPart separator.reverse limit whole.reverse).map List.reverse).reverse

/-- The pieces between runs of blanks, at most `limit` cuts; what is left after the last cut keeps
the blanks at its end. -/
def splitAtBlanks (blank : α → Bool) : (limit : Nat) → (steps : Nat) → List α → List (List α)
  | _, 0, _ => []
  | limit, steps + 1, whole =>
    match whole.dropWhile blank with
    | [] => []
    | rest =>
      match limit with
      | 0 => [rest]
      | limit + 1 =>
        let word := rest.takeWhile fun c => !blank c
        word :: splitAtBlanks blank limit steps (rest.drop word.length)

/-- The pieces between runs of blanks, cut from the end. -/
def splitAtLastBlanks (blank : α → Bool) (limit : Nat) (whole : List α) : List (List α) :=
  ((splitAtBlanks blank limit (whole.length + 1) whole.reverse).map List.reverse).reverse

/-- A sequence with the first `limit` occurrences of a part replaced. An empty part stands at every
gap. -/
def replaceParts (part new : List α) : (limit : Nat) → List α → List α
  | 0, whole => whole
  | limit + 1, whole =>
    if part.isEmpty then
      match whole with
      | [] => new
      | c :: rest => new ++ c :: replaceParts part new limit rest
    else
      match findFirst? part 0 whole with
      | none => whole
      | some i =>
        whole.take i ++ new ++ replaceParts part new limit (whole.drop (i + part.length))

/-- The lines of a sequence, each with its end if `keep` says so. `ends` gives the length of the end
of a line at the start of a sequence, or zero. -/
def linesOf (ends : List α → Nat) (keep : Bool) :
    (steps : Nat) → (line : List α) → List α → List (List α)
  | 0, _, _ => []
  | _ + 1, line, [] => if line.isEmpty then [] else [line.reverse]
  | steps + 1, line, c :: rest =>
    match ends (c :: rest) with
    | 0 => linesOf ends keep steps (c :: line) rest
    | n + 1 =>
      let whole := line.reverse ++ if keep then (c :: rest).take (n + 1) else []
      whole :: linesOf ends keep steps [] (rest.drop n)

/-- A sequence with tabs replaced by blanks up to the next multiple of `size`; `column` counts from
the last end of a line. -/
def expandTabs (tab blank : α) (endsLine : α → Bool) (size : Nat) :
    (column : Nat) → List α → List α
  | _, [] => []
  | column, c :: rest =>
    if c == tab then
      let gap := if size = 0 then 0 else size - column % size
      List.replicate gap blank ++ expandTabs tab blank endsLine size (column + gap) rest
    else c :: expandTabs tab blank endsLine size (if endsLine c then 0 else column + 1) rest

end

/-- The length of the end of a line at the start of a text. -/
def lineEnd : List Char → Nat
  | [] => 0
  | c :: rest =>
    let n := c.toNat
    if n = 0x0d then if rest.head? == some '\n' then 2 else 1
    else if (0x0a ≤ n && n ≤ 0x0c) || (0x1c ≤ n && n ≤ 0x1e) || n = 0x85 || n = 0x2028 ||
      n = 0x2029 then 1
    else 0

/-- The length of the end of a line at the start of a byte string. -/
def byteLineEnd : List UInt8 → Nat
  | [] => 0
  | c :: rest =>
    if c == 0x0d then if rest.head? == some 0x0a then 2 else 1
    else if c == 0x0a then 1
    else 0

end Covenant.Text
