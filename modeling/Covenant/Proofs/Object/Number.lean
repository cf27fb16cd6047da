import Covenant.Object.Arithmetic
import Covenant.Object.Render
import Covenant.Proofs.Machine.Growth

/-!
# Integers and their texts

Comparing integers and reckoning with them leaves the machine alone and gives what it should
(`compare_int`, `arithmetic_add`). An integer is written in decimal digits unless it has too many
of them (`decimalText_of_writable`), and a template whose fields are blank is filled in with the
texts of its arguments in order (`render_pair`).
-/

namespace Covenant

/-- Whether a comparison holds between two integers. -/
def Comparison.onInts : Comparison → Int → Int → Bool
  | eq, a, b => a = b
  | ne, a, b => a ≠ b
  | lt, a, b => a < b
  | le, a, b => a ≤ b
  | gt, a, b => b < a
  | ge, a, b => b ≤ a

/-- The order of two integers says whether a comparison holds between them. -/
theorem Comparison.holds_compare (c : Comparison) (a b : Int) :
    c.holds (Ord.compare a b) = c.onInts a b := by
  have order : Ord.compare a b = if a < b then .lt else if a = b then .eq else .gt := rfl
  rw [order]
  rcases Int.lt_trichotomy a b with lt | eq | gt
  · rw [if_pos lt]
    cases c <;> simp [holds, onInts, bne] <;> omega
  · cases c <;> simp [holds, onInts, eq]
  · rw [if_neg (by omega), if_neg (by omega)]
    cases c <;> simp [holds, onInts, bne] <;> omega

namespace Act

variable {call : Caller} {m : Machine}

@[simp] theorem compare_int (call : Caller) (c : Comparison) (a b : Int) (m : Machine) :
    compare call c (.int a) (.int b) m = (.done (.bool (c.onInts a b)), m) := by
  rw [← Comparison.holds_compare]
  rfl

@[simp] theorem holds_int (call : Caller) (c : Comparison) (a b : Int) (m : Machine) :
    holds call c (.int a) (.int b) m = (.done (c.onInts a b), m) := by
  unfold holds
  rw [bind_of_done (compare_int call c a b m)]
  rfl

@[simp] theorem truth_bool (call : Caller) (b : Bool) (m : Machine) :
    truth call (.bool b) m = (.done b, m) :=
  rfl

@[simp] theorem arithmetic_add (call : Caller) (a b : Int) (m : Machine) :
    arithmetic call .add (.int a) (.int b) m = (.done (.int (a + b)), m) :=
  rfl

@[simp] theorem arithmetic_sub (call : Caller) (a b : Int) (m : Machine) :
    arithmetic call .sub (.int a) (.int b) m = (.done (.int (a - b)), m) :=
  rfl

@[simp] theorem arithmeticInPlace_add (call : Caller) (a b : Int) (m : Machine) :
    arithmeticInPlace call .add (.int a) (.int b) m = (.done (.int (a + b)), m) :=
  rfl

@[simp] theorem arithmeticInPlace_sub (call : Caller) (a b : Int) (m : Machine) :
    arithmeticInPlace call .sub (.int a) (.int b) m = (.done (.int (a - b)), m) :=
  rfl

/-! ## Texts -/

@[simp] theorem plainText_text (call : Caller) (s : String) (m : Machine) :
    plainText call (.text s) m = (.done s, m) :=
  rfl

/-- Whether an integer has few enough digits to be written. -/
def isWritable (n : Int) : Bool :=
  n.natAbs < Number.writableLimit

/-- The fault of an integer with too many digits to be written. -/
def unwritable : Fault :=
  .fresh (.known (.fault .valueError)) [.text Format.LayoutError.tooLong.message] []

/-- An integer is shown in decimal digits. -/
theorem shown_int (call : Caller) (n : Int) : shown call (.int n) = decimalText n := by
  simp [shown, laidOut]

/-- An integer with few enough digits is written. -/
theorem decimalText_of_writable {n : Int} (h : isWritable n = true) (m : Machine) :
    decimalText n m = (.done (toString n), m) := by
  have few : n.natAbs < Number.writableLimit := by simpa [isWritable] using h
  simp [decimalText, Format.integerText, few, laidOutBy]

/-- An integer with too many digits is not. -/
theorem decimalText_of_unwritable {n : Int} (h : isWritable n = false)
    (free : m.handling = none) :
    decimalText n m = (.raised m.heap.size, m.push (.fault unwritable)) := by
  have many : ¬ n.natAbs < Number.writableLimit := by simpa [isWritable] using h
  simp only [decimalText, Format.integerText, many, if_false, laidOutBy]
  exact fail_of_handling free .valueError _

/-! ## Templates -/

/-- A blank field of a template: the next argument, as it is shown. -/
def blankField : Format.Field :=
  ⟨[], none, [], false⟩

/-- A blank field is filled in with the next argument. -/
theorem renderField_blank {args : List Value} {before after : Format.Numbering} {i : Nat}
    {v : Value} (nested : Format.Template → Format.Numbering → Act (String × Format.Numbering))
    (place : before.step none = .ok (i, after)) (given : args[i]? = some v) :
    renderField call (.arguments args []) nested blankField before =
      (do return (← shown call v, after)) := by
  have source : Format.readSource blankField.path = .ok (.next, []) := rfl
  unfold renderField
  rw [source]
  dsimp only
  simp only [fieldStart, place, given, pure_bind, blankField]
  rfl

/-- A template of two runs of plain text with a blank field after each. -/
theorem render_pair {template : String} {first second : List Char} (x y : Value)
    (pieces : Format.Template.read template =
      ⟨[⟨first, some blankField⟩, ⟨second, some blankField⟩], none⟩) :
    render call template [x, y] [] = (do
      let s ← shown call x
      let t ← shown call y
      return String.ofList first ++ s ++ String.ofList second ++ t) := by
  unfold render renderFrom renderWithin
  rw [pieces]
  simp only [renderPieces]
  rw [renderField_blank _ rfl rfl]
  simp only [bind_assoc, pure_bind]
  congr 1
  funext s
  rw [renderField_blank _ rfl rfl]
  simp

end Act

end Covenant
