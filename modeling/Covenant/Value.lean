import Covenant.Vocabulary
import Covenant.Script.Tree

/-!
Values of a script and the cells that its heap holds.

A value is a plain datum or a reference to a cell. Everything with an identity of its own
(lists, tuples, dictionaries, objects, faults, snapshots, functions) lives in a cell, so that
two references to one cell are the same object and a change through one shows through the other.
-/

namespace Covenant

/-- The address of a cell. -/
abbrev Ref := Nat

/-- The classes of faults that exist from the start. -/
inductive FaultClass where
  | baseException
  | exception
  | keyboardInterrupt
  | systemExit
  | generatorExit
  | stopIteration
  | arithmeticError
  | overflowError
  | zeroDivisionError
  | lookupError
  | keyError
  | indexError
  | valueError
  | validationError
  | serializationError
  | unicodeError
  | unicodeDecodeError
  | unicodeEncodeError
  | typeError
  | attributeError
  | frozenInstanceError
  | nameError
  | runtimeError
  | recursionError
  | memoryError
  | assertionError
  | violation
  | preconditionError
  | postconditionError
  | invariantError
  | customViolation
  | dailyLimitExceeded
  | rejected
  | rejectedSub
  deriving Repr, DecidableEq

/-- The classes that exist from the start. -/
inductive Known where
  | object
  | type
  | enumerationType
  | modelType
  | protocolType
  | noneType
  | bool
  | int
  | float
  | str
  | bytes
  | list
  | tuple
  | dict
  | function
  | builtinFunction
  | method
  | staticMethod
  | property
  | probe
  /-- What every class made by a script extends if it names no other. -/
  | programObject
  /-- The class of some helping object, known by its name alone. -/
  | auxiliary (name : String)
  | enumeration (e : Enumeration)
  | snapshot
  | config
  | contractSet
  | positive
  | inRange
  | longerThan
  | validator
  | hasInvariant
  | account
  | queue
  | fault (f : FaultClass)
  deriving Repr, DecidableEq

/-- A class: one that exists from the start or one that a script has made. -/
inductive ClassRef where
  | known (k : Known)
  | made (n : Nat)
  deriving Repr, DecidableEq

/-- The six assertion primitives: three call shapes for each of two kinds. -/
inductive Shape where
  | plain
  | formatted
  | context
  deriving Repr, DecidableEq

/-- The kinds of violation that an assertion primitive can report. -/
inductive Side where
  | pre
  | post
  deriving Repr, DecidableEq

/-- The functions that exist from the start. -/
inductive Routine where
  | assertion (side : Side) (shape : Shape)
  | skip
  | runStrict
  | runErrorTolerant
  | runContract
  | runUnchecked
  | runContractUnchecked
  | contractMethod (p : Profile)
  | asPredicate
  | findInvariant
  | checkInvariant
  | reportViolation
  | emitViolation
  | addSpanEvent
  | getConfig
  | resetConfig
  | resolveProfile
  | contractsFor
  | length
  | absolute
  | all
  | any
  | sum
  | quoted
  | isInstance
  | callable
  | positiveRun
  | inRangeRun
  | longerThanRun
  | validatorRun
  | structuralInvariant
  | asDict
  | validateSnapshot
  | accountInvariant
  | accountDeposit
  | accountWithdraw
  | accountTransfer
  | accountClose
  | accountDepositBatch
  | accountStart
  | accountText
  | queueInvariant
  | queueLength
  | queueEnqueue
  | queueDequeue
  | queueStart
  | violationStart
  | invariantErrorStart
  | limitErrorStart
  | queueDemo
  | bankDemo
  /-- A method or an operation that a class has by nature. -/
  | method (owner : Known) (name : String)
  deriving Repr, DecidableEq

/-- A value. -/
inductive Value where
  | null
  | bool (b : Bool)
  | int (n : Int)
  /-- A floating-point number with a mark that tells it from others of the same bits, since what is
  not a number is equal to nothing, but is itself. -/
  | float (x : Float) (mark : Nat)
  | text (s : String)
  | bytes (b : List UInt8)
  | member (m : Member)
  | cls (c : ClassRef)
  | routine (r : Routine)
  | contracts (p : Profile)
  | config (index : Nat)
  /-- What an operation gives for an operand that it does not take. -/
  | notImplemented
  | ref (r : Ref)
  deriving Repr, Inhabited

/-- The integer that a truth value or an integer stands for. -/
def Value.int? : Value → Option Int
  | .bool b => some (if b then 1 else 0)
  | .int n => some n
  | _ => none

/-- The text that a text or a member stands for. -/
def Value.text? : Value → Option String
  | .text s => some s
  | .member m => some m.text
  | _ => none

/-- Whether two values are the same object. Plain data are the same if they are equal data of one
type; floating-point numbers are told apart by their marks. -/
def Value.same : Value → Value → Bool
  | .null, .null => true
  | .bool a, .bool b => a == b
  | .int a, .int b => a == b
  | .float _ a, .float _ b => a == b
  | .text a, .text b => a == b
  | .bytes a, .bytes b => a == b
  | .member a, .member b => a == b
  | .cls a, .cls b => a == b
  | .routine a, .routine b => a == b
  | .contracts a, .contracts b => a == b
  | .config a, .config b => a == b
  | .notImplemented, .notImplemented => true
  | .ref a, .ref b => a == b
  | _, _ => false

/-- Named values in the order in which the names were first given. -/
abbrev Fields := List (String × Value)

/-- The value under a name. -/
def Fields.get? (fields : Fields) (name : String) : Option Value :=
  (fields.find? (·.1 == name)).map (·.2)

/-- Gives a name a value: in place if the name is there, else at the end. -/
def Fields.set (fields : Fields) (name : String) (v : Value) : Fields :=
  if fields.any (·.1 == name) then fields.map fun p => if p.1 == name then (name, v) else p
  else fields ++ [(name, v)]

/-- Takes a name out. -/
def Fields.erase (fields : Fields) (name : String) : Fields :=
  fields.filter (·.1 != name)

/-- The entries that bear one of several names. -/
def Fields.among (fields : Fields) (names : List String) : Fields :=
  fields.filter fun p => names.contains p.1

/-- Named values given one after the other: of several under one name the last, at the place of the
first. -/
def Fields.ofList (entries : List (String × Value)) : Fields :=
  entries.foldl (fun fields p => Fields.set fields p.1 p.2) []

namespace Fields

variable {fields : Fields} {name other : String} {v : Value}

theorem get?_cons (p : String × Value) (rest : Fields) (name : String) :
    get? (p :: rest) name = if p.1 = name then some p.2 else get? rest name := by
  by_cases h : p.1 = name <;> simp [get?, h]

theorem get?_append (fields more : Fields) (name : String) :
    get? (fields ++ more) name = (get? fields name).or (get? more name) := by
  induction fields with
  | nil => simp [get?]
  | cons p rest ih =>
    rw [List.cons_append, get?_cons, get?_cons, ih]
    split <;> simp

/-- A name has a value if and only if some entry bears it. -/
theorem isSome_get? (fields : Fields) (name : String) :
    (get? fields name).isSome = fields.any (·.1 == name) := by
  induction fields with
  | nil => rfl
  | cons p rest ih =>
    rw [get?_cons, List.any_cons, ← ih]
    by_cases h : p.1 = name <;> simp [h]

/-- Replacing the values under a name leaves what stands under another. -/
theorem get?_map_of_ne (h : other ≠ name) :
    get? (fields.map fun p => if p.1 == name then (name, v) else p) other = get? fields other := by
  induction fields with
  | nil => rfl
  | cons p rest ih =>
    rw [List.map_cons, get?_cons, get?_cons, ih]
    by_cases hp : p.1 = name
    · simp [hp, Ne.symm h]
    · simp [hp]

/-- What is set is read back. -/
@[simp] theorem get?_set_self : (set fields name v).get? name = some v := by
  unfold set
  split
  next h =>
    induction fields with
    | nil => simp at h
    | cons p rest ih =>
      rw [List.map_cons, get?_cons]
      by_cases hp : p.1 = name
      · simp [hp]
      · simp only [List.any_cons, Bool.or_eq_true, beq_iff_eq, hp, false_or] at h
        simpa [hp] using ih h
  next h =>
    have none_before : get? fields name = none := by
      rw [← Option.not_isSome_iff_eq_none, isSome_get?]
      simpa using h
    simp [get?_append, none_before, get?_cons]

/-- Setting a name leaves every other name alone. -/
theorem get?_set_of_ne (h : other ≠ name) :
    (set fields name v).get? other = fields.get? other := by
  unfold set
  split
  · exact get?_map_of_ne h
  · simp [get?, Ne.symm h]

/-- A name that is taken out has no value. -/
@[simp] theorem get?_erase_self : (erase fields name).get? name = none := by
  simp [get?, erase]

/-- Taking a name out leaves every other name alone. -/
theorem get?_erase_of_ne (h : other ≠ name) :
    (erase fields name).get? other = fields.get? other := by
  induction fields with
  | nil => rfl
  | cons p rest ih =>
    unfold erase at ih ⊢
    by_cases hp : p.1 = name
    · rw [List.filter_cons_of_neg (by simp [hp]), ih, get?_cons]
      simp [hp, Ne.symm h]
    · rw [List.filter_cons_of_pos (by simp [hp]), get?_cons, get?_cons, ih]

/-- Of the entries among several names, those names have their values and others have none. -/
theorem get?_among (fields : Fields) (names : List String) (name : String) :
    (fields.among names).get? name = if names.contains name then fields.get? name else none := by
  induction fields with
  | nil => simp [among, get?]
  | cons p rest ih =>
    unfold among at ih ⊢
    by_cases h : p.1 = name
    · subst h
      by_cases hp : names.contains p.1 = true
      · rw [List.filter_cons, if_pos hp, if_pos hp, get?_cons, get?_cons, if_pos rfl, if_pos rfl]
      · rw [List.filter_cons, if_neg hp, ih, if_neg hp, if_neg hp]
    · rw [List.filter_cons]
      split
      · rw [get?_cons, ih, get?_cons]
        simp [h]
      · rw [ih, get?_cons]
        simp [h]

end Fields

/-- One thing that a validation found wrong: its kind, where it stands, and the message. -/
structure Problem where
  kind : String
  location : List String
  message : String
  deriving Repr, DecidableEq

/-- A failed validation: what was validated, and what was wrong with it. -/
structure Failure where
  title : String
  problems : List Problem
  deriving Repr, DecidableEq

/-- A fault. -/
structure Fault where
  cls : ClassRef
  /-- The arguments it was made with. -/
  args : List Value
  fields : Fields
  /-- What its class keeps of the arguments under names of its own. -/
  slots : Fields
  /-- The fault it was deliberately raised from. -/
  cause : Option Ref
  /-- The fault that was being handled when it was raised. -/
  context : Option Ref
  /-- Whether the context is not to be shown. -/
  suppressed : Bool
  /-- For a failed validation, what was wrong. -/
  failure : Option Failure
  /-- Whether it has flown, so that it can tell where it came through. -/
  flown : Bool
  deriving Repr

/-- A new fault that is made to fly at once. -/
def Fault.fresh (cls : ClassRef) (args : List Value) (fields : Fields) : Fault :=
  ⟨cls, args, fields, [], none, none, false, none, true⟩

/-- A new fault that is at rest. -/
def Fault.resting (cls : ClassRef) (args : List Value) : Fault :=
  { fresh cls args [] with flown := false }

/-- What the class of a fault keeps under a name. -/
def Fault.slot (f : Fault) (name : String) : Value :=
  (f.slots.get? name).getD .null

/-- Which part of a dictionary is looked at. -/
inductive Part where
  | keys
  | values
  | items
  deriving Repr, DecidableEq

/-- How far going through the items of a value has come. -/
inductive Iteration where
  /-- The items that are left of what cannot change. -/
  | fixed (rest : List Value)
  /-- A list, read by position as it is when its turn comes. -/
  | list (r : Ref) (next : Nat)
  /-- A part of a dictionary, whose size must not change. -/
  | dict (r : Ref) (part : Part) (next size : Nat)
  /-- An object that is asked for the item at each position. -/
  | indexed (v : Value) (next : Nat)
  /-- An object that is asked for its next item. -/
  | asked (v : Value)
  deriving Repr

/-- A cell of the heap. -/
inductive Cell where
  | list (items : List Value)
  | tuple (items : List Value)
  | dict (entries : List (Value × Value))
  | object (cls : ClassRef) (fields : Fields)
  | fault (f : Fault)
  | snapshot (fields : Fields)
  | probe (p : Script.Probe)
  | scope (fields : Fields) (parent : Option Ref)
  | closure (name : String) (params : List String) (body : List Script.Stmt) (scope : Ref)
  /-- A function with its first argument already given. -/
  | bound (self function : Value)
  /-- What turns a function into a contracted one. -/
  | decorator (snapshot mode : Value) (p : Profile)
  /-- A function called under a contract. -/
  | contracted (function snapshot mode : Value) (p : Profile)
  /-- An attribute of a class that gives the function itself, also through an object. -/
  | static (function : Value)
  /-- An attribute of a class that gives the function bound to the class it is reached through. -/
  | ofClass (function : Value)
  /-- An attribute of a class that is worked out for each object. -/
  | property (function : Value)
  /-- A view of a part of a dictionary. -/
  | view (part : Part) (dict : Ref)
  /-- An iterator, with the name of its class. -/
  | iterator (name : String) (state : Iteration)
  /-- A class with the arguments it was given in brackets. -/
  | alias (origin : ClassRef) (args : List Value)

/-- A class made by a script. -/
structure ClassInfo where
  name : String
  qualified : String
  /-- The class it extends. -/
  base : Option ClassRef
  /-- Its attributes. -/
  fields : Fields
  /-- The fields that a new object starts with: functions that are called anew for each object. -/
  defaults : Fields

end Covenant
