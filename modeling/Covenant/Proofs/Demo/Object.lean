import Covenant.Demo.Account
import Covenant.Proofs.Contract.Agreement
import Covenant.Proofs.Object.Snapshot
import Covenant.Session.Demo

/-!
# The demo objects: fields and methods

The demos read fields of objects and of snapshots, which are those in the cell, and change integer
fields in place, which writes the cell (`addToField_apply`, `subtractFromField_apply`). They take
snapshots under names that no snapshot has as attributes (`newSnapshot_apply`).

An operation of a demo object is called through its method, which is a new cell of the machine
(`operate_method`, `operate_agrees`), and calling the class of such objects makes an empty object
and starts it (`call_class`, `call_class_agrees`).
-/

namespace Covenant

/-- Whether a snapshot can have a field of that name in a process in which no script has changed the
class of snapshots. -/
def Snapshot.isFree (name : String) : Bool :=
  !isReserved name && (Known.snapshot.attribute? name).isNone

namespace Act

variable {call : Caller} {m n : Machine} {k : Known} {r : Ref} {x : Value} {name : String}
  {fields : Fields}

/-- A field of an object is read from its cell. -/
theorem field_of_object {c : ClassRef} (cell : m.cell r = .object c fields)
    (own : fields.get? name = some x) : field call (.ref r) name m = (.done x, m) := by
  simp [field, cell, own]

/-- A field of a snapshot is read from its cell. -/
theorem field_of_snapshot (cell : m.cell r = .snapshot fields) (own : fields.get? name = some x) :
    field call (.ref r) name m = (.done x, m) := by
  simp [field, cell, own]

/-- Adding to a field writes the sum to the cell. -/
theorem addToField_apply {a : Int} (plain : m.Plain) (cell : m.cell r = .object (.known k) fields)
    (takes : k.isOpen = true) (entry : k.entryOf? name = none)
    (own : fields.get? name = some (.int a)) (b : Int) :
    addToField call (.ref r) name (.int b) m =
      (.done (), m.put r (.object (.known k) (fields.set name (.int (a + b))))) := by
  unfold addToField
  rw [bind_of_done (field_of_object cell own), bind_of_done (arithmeticInPlace_add call a b m),
    setAttribute_of_open plain cell takes entry]

/-- Subtracting from a field writes the difference to the cell. -/
theorem subtractFromField_apply {a : Int} (plain : m.Plain)
    (cell : m.cell r = .object (.known k) fields) (takes : k.isOpen = true)
    (entry : k.entryOf? name = none) (own : fields.get? name = some (.int a)) (b : Int) :
    subtractFromField call (.ref r) name (.int b) m =
      (.done (), m.put r (.object (.known k) (fields.set name (.int (a - b))))) := by
  unfold subtractFromField
  rw [bind_of_done (field_of_object cell own), bind_of_done (arithmeticInPlace_sub call a b m),
    setAttribute_of_open plain cell takes entry]

/-- Setting a field of an object writes to its cell. -/
theorem setField_apply {p : Profile} (call : Caller) (name : String) (ready : m.Ready p)
    (cell : m.cell r = .object (.known k) fields) (takes : k.isOpen = true)
    (entry : k.entryOf? name = none) (x : Value) :
    ∃ n, setAttribute call (.ref r) name x m = (.done (), n) ∧ m.Grows [r] n ∧
      n.Ready p ∧ n.cell r = .object (.known k) (fields.set name x) := by
  have grew : m.Grows [r] (m.put r (.object (.known k) (fields.set name x))) :=
    .put m _ List.mem_cons_self
  exact ⟨_, setAttribute_of_open ready.plain cell takes entry, grew, ready.grows grew,
    Machine.cell_put_self (Machine.lt_size_of_cell cell nofun)⟩

/-- A snapshot of fields whose names are free is a new cell. -/
theorem newSnapshot_apply (plain : m.Plain)
    (free : (fields.map (·.1)).all Snapshot.isFree = true) :
    newSnapshot fields m = (.done (.ref m.heap.size), m.push (.snapshot fields)) := by
  refine newSnapshot_of_unreserved plain.patches fun name mem => ?_
  have this := List.all_eq_true.1 free name mem
  simp only [Snapshot.isFree, Bool.and_eq_true, Bool.not_eq_true'] at this
  exact this.1

/-! ## Methods -/

/-- Calls nest as deep as they may. -/
theorem call_eq : Act.call = callWithin (callDepth - 1 + 1) :=
  rfl

/-- An operation of a demo object is the function of its class, called with the object. -/
theorem operate_method (routine : Routine) (plain : m.Plain)
    (cell : m.cell r = .object (.known k) fields) (simple : k.isSimple = true)
    (entry : k.entryOf? name = some (.set (.routine routine))) (own : fields.get? name = none)
    (binds : Machine.bindsRoutine routine = true)
    (named : ∀ owner method, routine ≠ .method owner method) (args : List Value) :
    Session.operate (.ref r) name args [] m =
      callWithin (callDepth - 1) (.routine routine) (.ref r :: args) []
        (m.push (.bound (.ref r) (.routine routine))) := by
  unfold Session.operate
  rw [bind_of_done (getAttribute_of_method plain cell simple binds entry own), call_eq]
  simp only [callWithin, callValue, load_bind, Machine.cell_push_size]
  cases routine with
  | method owner method => exact absurd rfl (named owner method)
  | _ => rfl

/-- An operation agrees with what the function of the class agrees with. -/
theorem operate_agrees {β : Type} {written : List Ref} {calculation : Except Fault β}
    {post : β → Value → Machine → Prop} (routine : Routine) (plain : m.Plain)
    (cell : m.cell r = .object (.known k) fields) (simple : k.isSimple = true)
    (entry : k.entryOf? name = some (.set (.routine routine))) (own : fields.get? name = none)
    (binds : Machine.bindsRoutine routine = true)
    (named : ∀ owner method, routine ≠ .method owner method) (args : List Value)
    (called : ∀ n, m.Grows [] n →
      Agrees n written (callWithin (callDepth - 1) (.routine routine) (.ref r :: args) [] n)
        calculation post) :
    Agrees m written (Session.operate (.ref r) name args [] m) calculation post := by
  have grew := Machine.Grows.push [] m (.bound (.ref r) (.routine routine))
  rw [operate_method routine plain cell simple entry own binds named args]
  exact .of_grows grew (called _ grew)

/-- A class of demo objects makes an empty object and starts it. -/
theorem call_class {d : Nat} {routine : Routine} (plain : m.Plain) (takes : k.isOpen = true)
    (start : k.entryOf? (special "init") = some (.set (.routine routine))) (args : List Value) :
    callWithin (d + 1) (.cls (.known k)) args [] m =
      (do
        startWith (callWithin d) (.ref m.heap.size) (.routine routine) args []
        return .ref m.heap.size : Act Value) (m.push (.object (.known k) [])) := by
  have unmade : k.attribute? (special "new") = none := by
    cases k <;> first | rfl | cases takes
  have part : constructWhole? (callWithin d) k args [] = none := by
    cases k <;> first | rfl | cases takes
  change construct (callWithin d) (.known k) args [] m = _
  unfold construct
  simp only [read_bind, Machine.knownAbove_known, plain.classAttribute?, unmade, part]
  unfold constructObject
  simp only [read_bind, plain.entryOf?, start]
  cases k <;> first | rfl | cases takes

/-- What starts an object may give nothing. -/
theorem startWith_of_done {self : Value} {routine : Routine} {args : List Value}
    (binds : Machine.bindsRoutine routine = true)
    (h : call (.routine routine) (self :: args) [] m = (.done .null, n)) :
    startWith call self (.routine routine) args [] m = (.done (), n) := by
  have through : callThrough call self (.routine routine) args [] m = (.done .null, n) := by
    simp [callThrough, bindsToObject, binds, h]
  unfold startWith
  rw [bind_of_done through]
  rfl

/-- What starts an object may fail. -/
theorem startWith_of_raised {self : Value} {routine : Routine} {args : List Value} {e : Ref}
    (binds : Machine.bindsRoutine routine = true)
    (h : call (.routine routine) (self :: args) [] m = (.raised e, n)) :
    startWith call self (.routine routine) args [] m = (.raised e, n) := by
  have through : callThrough call self (.routine routine) args [] m = (.raised e, n) := by
    simp [callThrough, bindsToObject, binds, h]
  unfold startWith
  rw [bind_of_raised through]

/-- Making an object agrees with what its start agrees with; what the start writes to is the new
object. -/
theorem call_class_agrees {d : Nat} {β : Type} {calculation : Except Fault β}
    {post : β → Machine → Prop} {routine : Routine} {args : List Value} (plain : m.Plain)
    (takes : k.isOpen = true) (start : k.entryOf? (special "init") = some (.set (.routine routine)))
    (binds : Machine.bindsRoutine routine = true)
    (started : Agrees (m.push (.object (.known k) [])) [m.heap.size]
      (callWithin d (.routine routine) (.ref m.heap.size :: args) []
        (m.push (.object (.known k) []))) calculation fun b v n => v = .null ∧ post b n) :
    Agrees m [] (callWithin (d + 1) (.cls (.known k)) args [] m) calculation
      fun b v n => v = .ref m.heap.size ∧ post b n := by
  have grew := Machine.Grows.push [] m (.object (.known k) [])
  rw [call_class plain takes start]
  cases calculation with
  | ok b =>
    obtain ⟨v, n, ran, grows, rfl, holds⟩ := started
    exact .of_done (bind_of_done (startWith_of_done binds ran) _) grows.of_push ⟨rfl, holds⟩
  | error f =>
    obtain ⟨e, n, ran, grows, cell⟩ := started
    exact .of_raised (bind_of_raised (startWith_of_raised binds ran) _) (grew.trans grows) cell

/-! ## Lists and validators -/

/-- The validator of positive numbers is a new object without fields. -/
theorem newPositive_apply (m : Machine) :
    newPositive m = (.done (.ref m.heap.size), m.push (.object (.known .positive) [])) :=
  rfl

/-- No class has a say in what a list times an integer is. -/
theorem askOperands_list {l : Ref} {items : List Value} (plain : m.Plain)
    (cell : m.cell l = .list items) (b : Int) :
    askOperands call .mul (.ref l) (.int b) m = (.done none, m) := by
  have list : m.classOf (.ref l) = .known .list := by
    rw [Machine.classOf_ref, cell]
    rfl
  have int : m.classOf (.int b) = .known .int := rfl
  have ofList : operationMethods (.ref l) .mul m = (.done (none, none), m) := by
    unfold operationMethods
    rw [bind_of_done (special?_of_plain plain list _),
      bind_of_done (special?_of_plain plain list _)]
    rfl
  have ofInt : operationMethods (.int b) .mul m = (.done (none, none), m) := by
    unfold operationMethods
    rw [bind_of_done (special?_of_plain plain int _), bind_of_done (special?_of_plain plain int _)]
    rfl
  unfold askOperands
  rw [bind_of_done ofList]
  dsimp only
  rw [bind_of_done ofInt]
  simp only [classOf_bind, list, int]
  rfl

/-- A list times an integer is the list repeated. -/
theorem arithmetic_list_int (call : Caller) {l : Ref} {items : List Value} (plain : m.Plain)
    (cell : m.cell l = .list items) (b : Int) :
    arithmetic call .mul (.ref l) (.int b) m = repeatSequence call (.list items) (.int b) m := by
  have whole : numberArithmetic? .mul (.ref l) (.int b) m = (.done none, m) := rfl
  have sequence : asSequence? (.ref l) m = (.done (some (.list items)), m) := by
    simp [asSequence?, cell]
  have number : asSequence? (.int b) m = (.done none, m) := rfl
  unfold arithmetic arithmeticAs
  rw [bind_of_done whole]
  unfold otherArithmetic
  simp only [pure_bind]
  rw [bind_of_done (askOperands_list plain cell b)]
  unfold sequenceArithmetic
  dsimp only
  rw [bind_of_done sequence, bind_of_done number]

/-- Whether a list can be repeated so often: the number fits into a word of the machine, and not
more items are asked for than can be stored. -/
def isStorable (count : Int) : Bool :=
  !outOfWord count && count ≤ storageLimit

/-- A list of one item is repeated in a new list; a negative number counts as zero. -/
theorem arithmetic_repeat (call : Caller) {l : Ref} (plain : m.Plain) (cell : m.cell l = .list [x])
    {count : Int} (h : isStorable count = true) :
    arithmetic call .mul (.ref l) (.int count) m =
      (.done (.ref m.heap.size), m.push (.list (List.replicate count.toNat x))) := by
  simp only [isStorable, Bool.and_eq_true, Bool.not_eq_true', decide_eq_true_eq] at h
  have storable : ¬ storageLimit < count.toNat * 1 := by omega
  have copies : repeated count.toNat [x] = List.replicate count.toNat x := by
    simp [repeated]
  have index : indexOf? call (.int count) m = (.done (some count), m) := rfl
  rw [arithmetic_list_int call plain cell]
  unfold repeatSequence
  rw [bind_of_done index]
  simp only [h.1, Sequence.length, List.length_singleton, storable, Bool.false_eq_true, if_false,
    Nat.one_ne_zero, Sequence.repeat, copies]
  rfl

/-- A natural number of slots that can be stored is one that lists can have. -/
theorem isStorable_natCast {count : Nat} (h : count ≤ storageLimit) :
    isStorable count = true := by
  have small : (storageLimit : Int) ≤ largestLength := by decide
  simp only [isStorable, outOfWord, Bool.and_eq_true, Bool.not_eq_true', Bool.or_eq_false_iff,
    decide_eq_false_iff_not, decide_eq_true_eq]
  omega

/-- The fault of a list that would have too many items. -/
def tooManyItems (count : Int) : Fault :=
  if outOfWord count then
    .fresh (.known (.fault .overflowError))
      [.text "cannot fit 'int' into an index-sized integer"] []
  else .fresh (.known (.fault .memoryError)) [] []

/-- A list of one item that would be repeated too often is not. -/
theorem arithmetic_repeat_of_many (call : Caller) {l : Ref} (plain : m.Plain)
    (free : m.handling = none) (cell : m.cell l = .list [x]) {count : Int}
    (h : isStorable count = false) :
    arithmetic call .mul (.ref l) (.int count) m =
      (.raised m.heap.size, m.push (.fault (tooManyItems count))) := by
  have index : indexOf? call (.int count) m = (.done (some count), m) := rfl
  rw [arithmetic_list_int call plain cell]
  unfold repeatSequence tooManyItems
  rw [bind_of_done index]
  cases outside : outOfWord count with
  | true =>
    simp only [outside, if_true]
    exact fail_of_handling free .overflowError _
  | false =>
    have many : storageLimit < count.toNat := by
      simp only [isStorable, outside, Bool.not_false, Bool.true_and, decide_eq_false_iff_not] at h
      omega
    have short : (count.toNat : Int) ≤ largestLength := by
      simp only [outOfWord, Bool.or_eq_false_iff, decide_eq_false_iff_not] at outside
      omega
    simp only [outside, Sequence.length, List.length_singleton, many, Bool.false_eq_true, if_false,
      if_true, Nat.one_ne_zero, failLength, Nat.mul_one, short]
    exact failWith_of_handling free .memoryError []

end Act

end Covenant
