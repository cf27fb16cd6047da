/-!
How close two words are: twice the number of characters that match in order, over the number of all
characters. The matching takes the longest common run, the earliest of several, and goes on to its
left and to its right.
-/

namespace Covenant.CommandLine

/-- How many characters two words have in common at their start. -/
def commonStart : List Char → List Char → Nat
  | a :: as, b :: bs => if a == b then commonStart as bs + 1 else 0
  | _, _ => 0

/-- A common run: where it starts in either word, and its length. -/
structure Run where
  left : Nat
  right : Nat
  size : Nat
  deriving Repr, DecidableEq

/-- All common runs that cannot be made longer to the right, by where they start. -/
def runs (a b : List Char) : List Run :=
  (List.range a.length).flatMap fun i =>
    (List.range b.length).map fun j => ⟨i, j, commonStart (a.drop i) (b.drop j)⟩

/-- The longest common run, the earliest of several. -/
def longestRun (a b : List Char) : Run :=
  (runs a b).foldl (fun best r => if best.size < r.size then r else best) ⟨0, 0, 0⟩

/-- How many characters match in order. `steps` bounds the number of divisions; as many as the first
word has characters suffice. -/
def matching : (steps : Nat) → List Char → List Char → Nat
  | 0, _, _ => 0
  | steps + 1, a, b =>
    let r := longestRun a b
    if r.size = 0 then 0
    else
      matching steps (a.take r.left) (b.take r.right) + r.size +
        matching steps (a.drop (r.left + r.size)) (b.drop (r.right + r.size))

/-- Whether two words are close: at least six tenths of their characters match. -/
def isClose (a b : String) : Bool :=
  3 * (a.length + b.length) ≤ 10 * matching a.length a.toList b.toList

end Covenant.CommandLine
