/-!
Powers of the two bases of numbers, and the size of a machine word.
-/

namespace Covenant.Number

/-- The power of two with an exponent. -/
def twoTo (k : Nat) : Nat := Nat.pow 2 k

/-- The power of ten with an exponent. -/
def tenTo (k : Nat) : Nat := Nat.pow 10 k

/-- The first number that does not fit a signed machine word. -/
def wordLimit : Nat := twoTo 63

/-- The most decimal digits with which an integer is written or read. -/
def digitLimit : Nat := 4300

/-- The first natural number with too many decimal digits to be written. -/
def writableLimit : Nat := tenTo digitLimit

end Covenant.Number
