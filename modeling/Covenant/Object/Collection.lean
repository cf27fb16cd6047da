import Covenant.Object.Iteration
import Covenant.Object.Key

/-!
Collections: taking an item out of a value, putting one in, and asking whether one is in.
-/

namespace Covenant.Act

/-- The item at a position, negative positions counting from the end. -/
def itemAt? {α : Type} (items : List α) (i : Int) : Option α :=
  let i := if i < 0 then i + items.length else i
  if i < 0 then none else items[i.toNat]?

/-- The items with another one at a position, negative positions counting from the end. -/
def replaceAt? {α : Type} (items : List α) (i : Int) (a : α) : Option (List α) :=
  let i := if i < 0 then i + items.length else i
  if i < 0 || (items.length : Int) ≤ i then none else some (items.set i.toNat a)

/-- The items without the one at a position, negative positions counting from the end. -/
def removeAt? {α : Type} (items : List α) (i : Int) : Option (List α) :=
  let i := if i < 0 then i + items.length else i
  if i < 0 || (items.length : Int) ≤ i then none else some (items.eraseIdx i.toNat)

/-- The position that a key of a sequence stands for; `kind` is what a fault calls the sequence. -/
def positionOf (call : Caller) (kind : String) (key : Value) : Act Int := do
  match ← indexOf? call key with
  | some i => if outOfWord i then failWord .indexError key else return i
  | none =>
    let name ← typeName key
    if kind == "string" then
      fail .typeError ("string indices must be integers, not '" ++ name ++ "'")
    else
      fail .typeError ((if kind == "bytes" then "byte" else kind) ++
        " indices must be integers or slices, not " ++ name)

/-- Takes an item out by its position; `kind` is what a fault calls the sequence. -/
def takeItem {α : Type} (call : Caller) (kind : String) (items : List α) (key : Value) :
    Act α := do
  match itemAt? items (← positionOf call kind key) with
  | some a => return a
  | none =>
    fail .indexError ((if kind == "bytes" then "" else kind ++ " ") ++ "index out of range")

/-- Whether a class takes arguments in brackets by nature. -/
def takesArguments : Known → Bool
  | .list | .tuple | .dict | .type | .validator => true
  | _ => false

/-- A class with arguments in brackets. -/
def itemOfClass (call : Caller) (c : ClassRef) (key : Value) : Act Value := do
  let refuse : Act Value := do
    fail .typeError ("type '" ++ (← read (·.className c)) ++ "' is not subscriptable")
  match c with
  | .known (.enumeration e) => do
    checkKey call key
    match key.text?.bind e.named? with
    | some m => return .member m
    | none => failWith .keyError [key]
  | .known k =>
    if takesArguments k then
      let args ← match key with
        | .ref r => do
          match ← load r with
          | .tuple items => pure items
          | _ => pure [key]
        | _ => pure [key]
      allocValue (.alias c args)
    else refuse
  | .made _ =>
    match ← read (·.classAttribute? c (special "class_getitem")) with
    | some found => do call (← throughClass call c found) [key] []
    | none => refuse

/-- The item of a value under a key. -/
def item (call : Caller) (v key : Value) : Act Value := do
  let byClass : Act Value := do
    match ← callSpecial? call v "getitem" [key] with
    | some x => return x
    | none => fail .typeError ("'" ++ (← typeName v) ++ "' object is not subscriptable")
  match v with
  | .text s => takeItem call "string" (characters s) key
  | .member m => takeItem call "string" (characters m.text) key
  | .bytes b => takeItem call "bytes" (byteValues b) key
  | .cls c => itemOfClass call c key
  | .ref r =>
    match ← load r with
    | .list items => takeItem call "list" items key
    | .tuple items => takeItem call "tuple" items key
    | .dict entries =>
      match ← lookupKey? call entries key with
      | some x => return x
      | none => failWith .keyError [key]
    | .object (.known (.auxiliary "mappingproxy")) fields =>
      match key.text?.bind fields.get? with
      | some x => return x
      | none => do
        checkKey call key
        failWith .keyError [key]
    | _ => byClass
  | _ => byClass

/-- Puts an item into a value. -/
def setItem (call : Caller) (v key new : Value) : Act Unit := do
  let byClass : Act Unit := do
    match ← callSpecial? call v "setitem" [key, new] with
    | some _ => pure ()
    | none =>
      fail .typeError ("'" ++ (← typeName v) ++ "' object does not support item assignment")
  match v with
  | .ref r =>
    match ← load r with
    | .list items =>
      match replaceAt? items (← positionOf call "list" key) new with
      | some items => store r (.list items)
      | none => fail .indexError "list assignment index out of range"
    | .dict entries => store r (.dict (← insertKey call entries key new))
    | _ => byClass
  | _ => byClass

/-- Takes an item out of a value for good. -/
def deleteItem (call : Caller) (v key : Value) : Act Unit := do
  let byClass : Act Unit := do
    match ← callSpecial? call v "delitem" [key] with
    | some _ => pure ()
    | none => fail .typeError ("'" ++ (← typeName v) ++ "' object doesn't support item deletion")
  match v with
  | .ref r =>
    match ← load r with
    | .list items =>
      match removeAt? items (← positionOf call "list" key) with
      | some items => store r (.list items)
      | none => fail .indexError "list assignment index out of range"
    | .dict entries =>
      match ← removeKey? call entries key with
      | some (_, entries) => store r (.dict entries)
      | none => failWith .keyError [key]
    | _ => byClass
  | _ => byClass

/-- Puts an item at the end of a list. -/
def appendItem (r : Ref) (v : Value) : Act Unit := do
  match ← load r with
  | .list items => store r (.list (items ++ [v]))
  | _ => pure ()

/-- Puts the items of a value at the end of a list. Those of an object are put there one by one, so
that the first of them stay if a later one fails. -/
def extendList (call : Caller) (r : Ref) (v : Value) : Act Unit := do
  match ← presentItems? v with
  | some more => more.forM (appendItem r)
  | none =>
    through call v () fun _ x => do
      appendItem r x
      return .more ()

/-- Whether one run of items occurs inside another. -/
def occursIn {α : Type} [BEq α] (part whole : List α) : Bool :=
  part.isPrefixOf whole || match whole with
    | [] => false
    | _ :: rest => occursIn part rest

/-- Whether a byte string has a byte or another byte string inside. -/
def bytesContain (call : Caller) (b : List UInt8) (v : Value) : Act Bool := do
  match v with
  | .bytes part => return occursIn part b
  | v =>
    match ← indexOf? call v with
    | some n =>
      if 0 ≤ n && n < 256 then return b.contains n.toNat.toUInt8
      else fail .valueError "byte must be in range(0, 256)"
    | none =>
      fail .typeError ("a bytes-like object is required, not '" ++ (← typeName v) ++ "'")

/-- Whether a text has another one inside. -/
def textContains (whole : String) (v : Value) : Act Bool := do
  match v.text? with
  | some part => return occursIn part.toList whole.toList
  | none =>
    fail .typeError ("'in <string>' requires string as left operand, not " ++ (← typeName v))

/-- Whether a value is a member of an enumeration; only members can be asked about. -/
def hasMember (e : Enumeration) (v : Value) : Act Bool := do
  match v with
  | .member m => return m.enumeration == e
  | v =>
    fail .typeError ("unsupported operand type(s) for 'in': '" ++ (← typeName v) ++
      "' and '" ++ Known.enumerationType.name ++ "'")

/-- Whether a value is found on the way through the items of another. -/
def foundAmong (call : Caller) (whole v : Value) : Act Bool := do
  match ← attempt (iterate call whole) with
  | .ok way =>
    let look (_ : Bool) (x : Value) : Act (Progress Bool) := do
      if ← equal call x v then return .enough true else return .more false
    followWithin call look iterationLimit false way
  | .error e =>
    if (← faultClassOf e).isA .typeError then
      fail .typeError ("argument of type '" ++ (← typeName whole) ++ "' is not iterable")
    else rethrow e

/-- Whether a pair is among the entries of a dictionary. -/
def hasEntry (call : Caller) (entries : List (Value × Value)) (v : Value) : Act Bool := do
  match v with
  | .ref r =>
    match ← load r with
    | .tuple [key, x] =>
      match ← lookupKey? call entries key with
      | some found => equal call found x
      | none => return false
    | _ => return false
  | _ => return false

/-- Whether a value is among the items of another, as its class has it by nature. -/
def containsByNature (call : Caller) (whole v : Value) : Act Bool := do
  match whole with
  | .text s => textContains s v
  | .member m => textContains m.text v
  | .bytes b => bytesContain call b v
  | .cls (.known (.enumeration e)) => hasMember e v
  | .ref r =>
    match ← load r with
    | .dict entries => return (← lookupKey? call entries v).isSome
    | .object (.known (.auxiliary "mappingproxy")) fields => do
      checkKey call v
      return (v.text?.bind fields.get?).isSome
    | .view part d =>
      match ← load d, part with
      | .dict entries, .keys => return (← lookupKey? call entries v).isSome
      | .dict entries, .items => hasEntry call entries v
      | _, _ => foundAmong call whole v
    | _ => foundAmong call whole v
  | _ => foundAmong call whole v

/-- Whether a value is among the items of another. -/
def contains (call : Caller) (whole v : Value) : Act Bool := do
  match ← special? whole "contains" with
  | none => containsByNature call whole v
  | some .null => fail .typeError ("'" ++ (← typeName whole) ++ "' object is not a container")
  | some found => truth call (← callThrough call whole found [v] [])

end Covenant.Act
