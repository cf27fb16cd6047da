import Covenant.Object.Arguments
import Covenant.Object.Conversion

/-!
Arguments that many methods of sequences share: the bounds of a part, sizes, widths, and items to
join.
-/

namespace Covenant.Act

/-- A bound of a part; nothing leaves the part open. -/
def sliceBound? (call : Caller) (v : Option Value) : Act (Option Int) := do
  match v with
  | none | some .null => return none
  | some v =>
    match ← indexOf? call v with
    | some n => return some n
    | none =>
      fail .typeError
        "slice indices must be integers or None or have an __index__ method"

/-- Where a part with given bounds starts and where it ends in a sequence of some length; a negative
bound counts from the end. Nothing if it starts after it ends. -/
def partBounds? (start stop : Option Int) (length : Nat) : Option (Nat × Nat) :=
  let settle (n : Int) : Int := if n < 0 then max 0 (n + length) else n
  let first := settle (start.getD 0)
  let last := min (settle (stop.getD length)) length
  if first ≤ last then some (first.toNat, last.toNat) else none

/-- A size of machine width. -/
def sizeArgument (call : Caller) (v : Value) : Act Int := do
  let n ← indexOf call v
  if outOfWord n then fail .overflowError "Python int too large to convert to C ssize_t"
  else return n

/-- A small size. -/
def smallArgument (call : Caller) (v : Value) : Act Int := do
  let n ← indexOf call v
  let limit : Int := Number.twoTo 31
  if n < -limit || limit ≤ n then fail .overflowError "Python int too large to convert to C int"
  else return n

/-- A limit on a number of steps that is none if it is negative; `whole` is as good as none. -/
def limitArgument (call : Caller) (whole : Nat) (v : Option Value) : Act Nat := do
  match v with
  | none => return whole
  | some v =>
    let n ← sizeArgument call v
    return if n < 0 then whole else min n.toNat whole

/-- Refuses a width that no sequence can have. -/
def checkWidth (width : Int) : Act Unit := do
  if (Format.widestField : Int) < width then failWith .memoryError [] else pure ()

/-- A sequence in the middle of a field. -/
def centered {α : Type} (width : Nat) (fill : α) (s : List α) : List α :=
  let gap := width - s.length
  let left := gap / 2 + (if gap % 2 = 1 && width % 2 = 1 then 1 else 0)
  List.replicate left fill ++ s ++ List.replicate (gap - left) fill

/-- A sequence at the left of a field. -/
def leftAligned {α : Type} (width : Nat) (fill : α) (s : List α) : List α :=
  s ++ List.replicate (width - s.length) fill

/-- A sequence at the right of a field. -/
def rightAligned {α : Type} (width : Nat) (fill : α) (s : List α) : List α :=
  List.replicate (width - s.length) fill ++ s

/-- A numeral filled up with zeros between its sign and its digits. -/
def zeroFilled {α : Type} (width : Nat) (zero : α) (isSign : α → Bool) (s : List α) : List α :=
  match s with
  | c :: rest =>
    if isSign c then c :: rightAligned (width - 1) zero rest else rightAligned width zero s
  | [] => List.replicate width zero

/-- The items of a value that are joined. -/
def joinedItems (call : Caller) (v : Value) : Act (List Value) :=
  itemsOr call v (fail .typeError "can only join an iterable")

end Covenant.Act
