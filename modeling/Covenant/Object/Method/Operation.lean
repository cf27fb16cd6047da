import Covenant.Object.Arithmetic
import Covenant.Object.Assignment
import Covenant.Object.Method.Dict
import Covenant.Object.Start
import Covenant.Object.Structure

/-!
Operations called by their names.

What a sign or a built-in function asks of a value can also be called as a method of the class that
has it by nature. Called so, an operation does what the class does by nature, even if a class
further down has a method of its own, and an operand that the class does not take gives no result
instead of a fault.
-/

namespace Covenant.Act.Operation

/-! ## Arguments -/

/-- The arguments of an operation that takes a fixed number of them; `gap` stands before the text
about a wrong number. -/
def exactly (gap : String) (count : Nat) (args : List Value) : Act Unit := do
  if args.length = count then pure ()
  else
    fail .typeError (gap ++ "expected " ++ argumentsText count ++ ", got " ++ toString args.length)

/-- The only argument of an operation. The text about a wrong number of them starts with a blank
where a sequence is repeated. -/
def operand (owner : Known) (name : String) (args : List Value) : Act Value := do
  let sequence := [Known.str, .bytes, .list, .tuple].contains owner
  let times := ["mul", "rmul", "imul"].contains name
  exactly (if sequence && times then " " else "") 1 args
  return args.headD .null

/-- The name of an attribute given as a value. -/
def attributeName (v : Value) : Act String := do
  match v.text? with
  | some name => return name
  | none =>
    fail .typeError ("attribute name must be string, not '" ++ (← typeName v) ++ "'")

/-! ## Comparing -/

/-- The comparison of a name. -/
def comparison? : String → Option Comparison
  | "eq" => some .eq
  | "ne" => some .ne
  | "lt" => some .lt
  | "le" => some .le
  | "gt" => some .gt
  | "ge" => some .ge
  | _ => none

/-- Whether the objects of an initial class take a value as the other operand. -/
def takesOperand (m : Machine) (owner : Known) (v : Value) : Bool :=
  let is (k : Known) := m.isSubclass (m.classOf v) (.known k)
  match owner with
  | .float => is .float || is .int
  | .auxiliary "dict_keys" | .auxiliary "dict_items" =>
    is (.auxiliary "dict_keys") || is (.auxiliary "dict_items")
  | owner => is owner

/-- Compares two values as an initial class does. -/
def compareAs (call : Caller) (owner : Known) (c : Comparison) (a b : Value) : Act Value := do
  match owner, c with
  | .object, .eq | .noneType, .eq => return if a.same b then .bool true else .notImplemented
  | .object, .ne =>
    match ← compareByClass call (compare call) .eq a b with
    | some v => return .bool (!(← truth call v))
    | none => return .notImplemented
  | .object, _ | .noneType, _ => return .notImplemented
  | owner, c =>
    if ← read (takesOperand · owner b) then
      return (← compareByNature call (compare call) c a b).getD .notImplemented
    else return .notImplemented

/-! ## Numbers -/

/-- The arithmetic operation of a name, and whether its operands are exchanged. -/
def arithmetic? : String → Option (Arithmetic × Bool)
  | "add" => some (.add, false)
  | "radd" => some (.add, true)
  | "sub" => some (.sub, false)
  | "rsub" => some (.sub, true)
  | "mul" => some (.mul, false)
  | "rmul" => some (.mul, true)
  | "truediv" => some (.div, false)
  | "rtruediv" => some (.div, true)
  | "floordiv" => some (.floorDiv, false)
  | "rfloordiv" => some (.floorDiv, true)
  | "mod" => some (.mod, false)
  | "rmod" => some (.mod, true)
  | _ => none

/-- The quotient rounded down and the remainder, as a pair. -/
def quotientAndRemainder (a b : Value) : Act Value := do
  let pair (x y : Option Value) : Act Value := newTuple [x.getD .null, y.getD .null]
  match a.int?, b.int? with
  | some _, some _ => do
    let q ← numberArithmetic? .floorDiv a b
    pair q (← numberArithmetic? .mod a b)
  | _, _ => do
    if ← (do
        match b with
        | .float y _ => return y == 0
        | b => return b.int? == some 0) then
      fail .zeroDivisionError "float divmod()"
    let q ← numberArithmetic? .floorDiv a b
    pair q (← numberArithmetic? .mod a b)

/-- A floating-point number raised to a power. A negative one raised to a power that is not whole is
no real number. -/
def floatPower (x y : Float) : Act Value := do
  if x == 0 && y < 0 then
    fail .zeroDivisionError "0.0 cannot be raised to a negative power"
  else if x < 0 && x.isFinite && y.isFinite && y.floor != y then newAuxiliary "complex"
  else
    let power := Float.pow x y
    if power.isInf && x.isFinite && y.isFinite then
      failWith .overflowError [.int 34, .text "Numerical result out of range"]
    else newFloat power

/-- An integer raised to a power by a modulus. -/
def modularPower (n k m : Int) : Act Value := do
  let reduced (x : Int) : Value := .int (Int.fmod x m)
  if m = 0 then fail .valueError "pow() 3rd argument cannot be 0"
  else if 0 ≤ k then return reduced (Int.pow n k.toNat)
  else
    let inverse := (List.range m.natAbs).find? fun (x : Nat) =>
      Int.emod (n * (x : Int) - 1) m == 0
    match inverse with
    | some x => return reduced (Int.pow (x : Int) k.natAbs)
    | none => fail .valueError "base is not invertible for the given modulus"

/-- An integer raised to a power; no result if one of the operands is no integer. -/
def integerPower (a b modulus : Value) : Act Value := do
  match a.int?, b.int?, modulus.int?, modulus with
  | some n, some k, some m, _ => modularPower n k m
  | some n, some k, none, .null =>
    if 0 ≤ k then return .int (Int.pow n k.toNat)
    else floatPower (← asFloat n) (← asFloat k)
  | _, _, _, _ => return .notImplemented

/-- A number as a floating-point number, for an operation on such numbers. -/
def asFloatOperand? (v : Value) : Act (Option Float) := do
  match v with
  | .float x _ => return some x
  | v =>
    match v.int? with
    | some n => return some (← asFloat n)
    | none => return none

/-- A number raised to a power as its class does. -/
def power (owner : Known) (a b modulus : Value) : Act Value := do
  if owner == .float then
    if !modulus.same .null then
      fail .typeError "pow() 3rd argument not allowed unless all arguments are integers"
    match ← asFloatOperand? a, ← asFloatOperand? b with
    | some x, some y => floatPower x y
    | _, _ => return .notImplemented
  else integerPower a b modulus

/-- The binary digits of an integer, of which a negative one has ones without end, combined. -/
def combineBits (f : Bool → Bool → Bool) (a b : Int) : Int :=
  let bits := max a.natAbs.log2 b.natAbs.log2 + 2
  let size : Int := Number.twoTo bits
  let low (n : Int) : Nat := (Int.fmod n size).toNat
  let r : Int := Nat.bitwise f (low a) (low b)
  if r < size / 2 then r else r - size

/-- The operation on bits of a name. -/
def bits? : String → Option (Bool → Bool → Bool)
  | "and" | "rand" => some fun a b => a && b
  | "or" | "ror" => some fun a b => a || b
  | "xor" | "rxor" => some fun a b => a != b
  | _ => none

/-- The most binary digits by which an integer is shifted. -/
def shiftLimit : Int := Number.twoTo 40

/-- An integer shifted by some binary digits. -/
def shifted (up : Bool) (n k : Int) : Act Value := do
  if k < 0 then fail .valueError "negative shift count"
  else if n = 0 then return .int 0
  else if !up then
    return .int (if n.natAbs.log2 < k.toNat then (if n < 0 then -1 else 0)
      else Int.fdiv n (Number.twoTo k.toNat))
  else if shiftLimit < k then fail .overflowError "too many digits in integer"
  else return .int (n * Number.twoTo k.toNat)

/-- An operation on an integer and another value, the operands put in order. -/
def onIntegers? (owner : Known) (name : String) (a b : Value) : Option (Act Value) :=
  let both (f : Int → Int → Act Value) : Act Value :=
    match a.int?, b.int? with
    | some n, some k => f n k
    | _, _ => return .notImplemented
  match bits? name with
  | some f =>
    match owner, a, b with
    | .bool, .bool x, .bool y => some (return .bool (f x y))
    | _, _, _ => some (both fun n k => return .int (combineBits f n k))
  | none =>
    match name with
    | "lshift" => some (both (shifted true))
    | "rlshift" => some (both fun n k => shifted true k n)
    | "rshift" => some (both (shifted false))
    | "rrshift" => some (both fun n k => shifted false k n)
    | _ => none

/-- An operation on a number and another value; nothing if there is none of that name. -/
def onNumbers? (owner : Known) (name : String) (a b : Value) : Option (Act Value) :=
  let taken : Act Bool := read (takesOperand · owner b)
  match arithmetic? name with
  | some (o, exchanged) => some do
    if ← taken then
      let (x, y) := if exchanged then (b, a) else (a, b)
      return (← numberArithmetic? o x y).getD .notImplemented
    else return .notImplemented
  | none =>
    let calculated (f : Value → Value → Act Value) (exchanged : Bool) : Option (Act Value) :=
      some do
        if ← taken then (if exchanged then f b a else f a b) else return .notImplemented
    match name with
    | "divmod" => calculated quotientAndRemainder false
    | "rdivmod" => calculated quotientAndRemainder true
    | "rpow" => calculated (fun x y => power owner x y .null) true
    | _ => if owner == .float then none else onIntegers? owner name a b

/-- The largest prime that hashes of integers stay below. -/
def hashModulus : Int := Number.twoTo 61 - 1

/-- The hash of an integer. -/
def integerHash (n : Int) : Int :=
  let h := Int.tmod n hashModulus
  if h = -1 then -2 else h

/-- An operation on one number; nothing if there is none of that name. -/
def onNumber? (call : Caller) (name : String) (v : Value) : Option (Act Value) :=
  match name, v with
  | "neg", .float x _ => some (newFloat (-x))
  | "pos", .float .. => some (pure v)
  | "abs", .float x _ => some (newFloat x.abs)
  | "float", .float .. => some (pure v)
  | "int", .float x _ => some do return .int (← integerOfFloat x)
  | "float", v => some do newFloat (← asFloat (v.int?.getD 0))
  | "neg", v => v.int?.map fun n => pure (.int (-n))
  | "pos", v | "int", v | "index", v => v.int?.map fun n => pure (.int n)
  | "abs", v => v.int?.map fun n => pure (.int n.natAbs)
  | "invert", v => v.int?.map fun n => pure (.int (-n - 1))
  | "bool", v => some do return .bool (← truth call v)
  | _, _ => none

/-! ## Sequences and dictionaries -/

/-- An operation on a sequence and another value; nothing if there is none of that name. -/
def onSequence? (call : Caller) (owner : Known) (name : String) (a b : Value) :
    Option (Act Value) :=
  let times : Act Value := do
    let _ ← indexOf call b
    arithmetic call .mul a b
  match name with
  | "add" => some (arithmetic call .add a b)
  | "mul" | "rmul" => some times
  | "iadd" => some (arithmeticInPlace call .add a b)
  | "imul" => some do
    let _ ← indexOf call b
    match ← arithmetic call .mul a b, a with
    | .ref new, .ref r => do
      store r (← load new)
      return a
    | v, _ => return v
  | "mod" => some (arithmetic call .mod a b)
  | "rmod" => some do
    if ← read (takesOperand · owner b) then arithmetic call .mod b a else return .notImplemented
  | _ => none

/-- The entries of one dictionary and then those of another, in a new one; no result if one of the
values is no dictionary. -/
def merged (call : Caller) (a b : Value) : Act Value := do
  match a, b with
  | .ref r, .ref s =>
    match ← load r, ← load s with
    | .dict xs, .dict ys => do newDict call (xs ++ ys)
    | _, _ => return .notImplemented
  | _, _ => return .notImplemented

/-- An operation on a dictionary and another value; nothing if there is none of that name. -/
def onDict? (call : Caller) (name : String) (a b : Value) : Option (Act Value) :=
  match name, a with
  | "or", _ => some (merged call a b)
  | "ror", _ => some (merged call b a)
  | "ior", .ref r => some do
    takeEntries call r b
    return a
  | _, _ => none

/-! ## All values -/

/-- Whether a class has a special method of another kind than all objects have it. -/
def isOverridden (c : ClassRef) (name : String) : Act Bool := do
  match ← read (·.entryOf? c (special name)) with
  | none | some (.natural .object _) => return false
  | some _ => return true

/-- Starts a value by the nature of an initial class. -/
def start (call : Caller) (owner : Known) (self : Value) (args : List Value) (named : Fields) :
    Act Unit := do
  match owner, self with
  | .fault f, .ref e => startFault f e args named
  | .list, .ref r => do
    match ← conversionArgument "list" args named with
    | none => store r (.list [])
    | some v => do
      store r (.list [])
      extendList call r v
  | .dict, .ref r => updateDict call "dict" r args named
  | .object, _ =>
    if args.isEmpty && named.isEmpty then pure ()
    else
      let c ← classOf self
      let complaint := ".__init__() takes exactly one argument (the instance to initialize)"
      if ← isOverridden c "init" then fail .typeError ("object" ++ complaint)
      else if ← isOverridden c "new" then pure ()
      else fail .typeError ((← read (·.className c)) ++ complaint)
  | _, _ => pure ()

/-- The quoted form of a value by the nature of an initial class. -/
def quotedAs (call : Caller) (owner : Known) (v : Value) : Act Value := do
  match owner, v with
  | .str, .member m => return .text (Text.quoted m.text)
  | _, _ => return .text (← quotedByNature (quotedText call) v)

/-- The plain form of a value by the nature of an initial class. -/
def plainAs (call : Caller) (owner : Known) (v : Value) : Act Value := do
  match owner, v with
  | .fault _, .ref r => do
    return .text (← faultText (quotedText call) (plainText call) r (← loadFault r))
  | .str, .text s => return .text s
  | .str, .member m => return .text m.qualified
  | .bytes, _ => quotedAs call owner v
  | _, _ => do return .text (← quotedText call v)

/-- The hash of a value as a value. -/
def hashAs (call : Caller) (v : Value) : Act Value := do
  match ← hash call v with
  | .number n => return .int (integerHash n)
  | _ => return .int 0

/-- Binds a function to an object, or leaves it alone if there is none. -/
def bindTo (function : Value) (args : List Value) : Act Value := do
  match args with
  | [] => fail .typeError (" expected at least 1 argument, got 0")
  | [.null] | [.null, .null] => fail .typeError "__get__(None, None) is invalid"
  | [.null, _] => return function
  | [self] | [self, _] => allocValue (.bound self function)
  | _ =>
    fail .typeError (" expected at most 2 arguments, got " ++ toString args.length)

/-- What an attribute of a class that takes a part in look-ups gives for an object. -/
def describe (call : Caller) (v : Value) (args : List Value) : Act Value := do
  match v with
  | .ref r =>
    match ← load r, args with
    | .static f, _ => return f
    | .ofClass f, [.null, .cls c] => allocValue (.bound (.cls c) f)
    | .ofClass f, self :: _ => do allocValue (.bound (.cls (← classOf self)) f)
    | .property f, self :: _ => call f [self] []
    | _, _ => bindTo v args
  | _ => bindTo v args

/-- An operation without operands; nothing if there is none of that name. -/
def alone? (call : Caller) (owner : Known) (name : String) (v : Value) : Option (Act Value) :=
  match name with
  | "repr" => some (quotedAs call owner v)
  | "str" => some (plainAs call owner v)
  | "hash" => some (hashAs call v)
  | "len" => some do return .int (← length call v)
  | "iter" => some (newIterator call v)
  | "next" => some do
    match ← next? call v with
    | some x => return x
    | none => failWith .stopIteration []
  | name =>
    match owner with
    | .int | .bool | .float => onNumber? call name v
    | _ => if name == "bool" then some do return .bool (← truth call v) else none

/-- An operation with one operand; nothing if there is none of that name. -/
def paired? (call : Caller) (owner : Known) (name : String) (v : Value) (b : Value) :
    Option (Act Value) :=
  match comparison? name with
  | some c => some (compareAs call owner c v b)
  | none =>
    match name with
    | "contains" => some do return .bool (← containsByNature call v b)
    | "getitem" => some (item call v b)
    | "delitem" => some do
      deleteItem call v b
      return .null
    | "getattribute" => some do
      let x ← attributeName b
      match ← attempt (lookUp call v x) with
      | .ok w => return w
      | .error e =>
        if (← faultClassOf e).isA .attributeError then noteAttribute v x e
        rethrow e
    | "delattr" => some do
      let x ← attributeName b
      match v with
      | .cls c => changeClassAttribute c x none
      | _ => changeByNature call v x none
      return .null
    | name =>
      match owner with
      | .int | .bool | .float => onNumbers? owner name v b
      | .str | .bytes | .list | .tuple => onSequence? call owner name v b
      | .dict => onDict? call name v b
      | _ => none

/-- Carries an operation out that an initial class has by nature; the name is given without the
underscores. -/
def run (call : Caller) (owner : Known) (name : String) (v : Value) (args : List Value)
    (named : Fields) : Act Value := do
  let byOperand : Act Value := do
    let b ← operand owner name args
    (paired? call owner name v b).getD (pure .notImplemented)
  match name with
  | "init" => do
    start call owner v args named
    return .null
  | "call" => call v args named
  | name => do
    if !named.isEmpty then
      fail .typeError ("wrapper " ++ special name ++ "() takes no keyword arguments")
    match name with
    | "get" => describe call v args
    | "setitem" => do
      exactly " " 2 args
      setItem call v (args.headD .null) ((args.drop 1).headD .null)
      return .null
    | "setattr" => do
      exactly " " 2 args
      let x ← attributeName (args.headD .null)
      let new := (args.drop 1).headD .null
      match v with
      | .cls c => changeClassAttribute c x (some new)
      | _ => changeByNature call v x (some new)
      return .null
    | "pow" =>
      match args with
      | [] => fail .typeError " expected at least 1 argument, got 0"
      | [b] => power owner v b .null
      | [b, modulus] => power owner v b modulus
      | _ =>
        fail .typeError (" expected at most 2 arguments, got " ++ toString args.length)
    | name =>
      match alone? call owner name v with
      | some result => do
        exactly "" 0 args
        result
      | none => byOperand

end Covenant.Act.Operation
