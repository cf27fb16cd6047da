import Covenant.Object.Arguments
import Covenant.Object.Attribute
import Covenant.Object.Collection

/-!
The methods of dictionaries and of the views of their parts.

A dictionary takes over the entries of anything that has a method `keys`; the items of anything else
have to be pairs of a key and a value.
-/

namespace Covenant.Act

/-! ## Taking entries over -/

/-- The entries of the dictionary at an address. -/
def dictEntries (r : Ref) : Act (List (Value × Value)) := do
  match ← load r with
  | .dict entries => return entries
  | _ => return []

/-- Puts an entry into a dictionary. -/
def putEntry (call : Caller) (r : Ref) (key v : Value) : Act Unit := do
  let entries ← insertKey call (← dictEntries r) key v
  store r (.dict entries)

/-- Takes over the entries of a value that gives its keys. -/
def takeByKeys (call : Caller) (r : Ref) (source : Value) : Act Unit := do
  let given ← call (← getAttribute call source "keys") [] []
  let keys ← itemsOr call given do
    fail .typeError ((← typeName source) ++ ".keys() returned a non-iterable (type " ++
      (← typeName given) ++ ")")
  keys.forM fun key => do putEntry call r key (← item call source key)

/-- Takes over a pair; `position` tells where it stands. -/
def takePair (call : Caller) (r : Ref) (position : Nat) (pair : Value) : Act Unit := do
  let element := "dictionary update sequence element #" ++ toString position
  let refuse : Act (List Value) :=
    fail .typeError ("cannot convert " ++ element ++ " to a sequence")
  let parts ← match ← attempt (itemsOr call pair refuse) with
    | .ok parts => pure parts
    | .error e => if (← faultClassOf e).isA .typeError then refuse else rethrow e
  match parts with
  | [key, v] => putEntry call r key v
  | parts =>
    fail .valueError (element ++ " has length " ++ toString parts.length ++ "; 2 is required")

/-- Takes over the entries of a value. -/
def takeEntries (call : Caller) (r : Ref) (source : Value) : Act Unit := do
  let byItems : Act Unit := do
    match ← getAttribute? call source "keys" with
    | some _ => takeByKeys call r source
    | none =>
      let _ ← through call source 0 fun position pair => do
        takePair call r position pair
        return .more (position + 1)
  match source with
  | .ref s =>
    match ← load s with
    | .dict entries => entries.forM fun (key, v) => putEntry call r key v
    | _ => byItems
  | _ => byItems

/-- Takes over the entries of an argument, if one is given, and then named values. -/
def updateDict (call : Caller) (name : String) (r : Ref) (args : List Value) (named : Fields) :
    Act Unit := do
  let args ← placedArguments name name 0 1 args []
  args.forM (takeEntries call r)
  named.forM fun (name, v) => putEntry call r (.text name) v

namespace DictMethod

/-! ## Methods -/

/-- The value under a key, or else another one. -/
def get (call : Caller) (entries : List (Value × Value)) (args : List Value) (named : Fields) :
    Act Value := do
  let args ← placedArguments "dict.get" "get" 1 2 args named
  let otherwise := (args.drop 1).headD .null
  return (← lookupKey? call entries (args.headD .null)).getD otherwise

/-- The value under a key, which is put there first if there is none. -/
def setDefault (call : Caller) (r : Ref) (args : List Value) (named : Fields) : Act Value := do
  let args ← placedArguments "dict.setdefault" "setdefault" 1 2 args named
  let key := args.headD .null
  let new := (args.drop 1).headD .null
  let h ← hash call key
  let entries ← dictEntries r
  match (← placeOf? call h key entries).bind fun i => entries[i]? with
  | some (_, v) => return v
  | none => do
    store r (.dict (entries ++ [(key, new)]))
    return new

/-- Takes the value under a key out, or gives another one. -/
def pop (call : Caller) (r : Ref) (args : List Value) (named : Fields) : Act Value := do
  let args ← placedArguments "dict.pop" "pop" 1 2 args named
  let key := args.headD .null
  let missing : Act Value := do
    match args with
    | [_, otherwise] => return otherwise
    | _ => failWith .keyError [key]
  match ← dictEntries r with
  | [] => missing
  | entries =>
    match ← removeKey? call entries key with
    | some (v, rest) => do
      store r (.dict rest)
      return v
    | none => missing

/-- Takes the last entry out. -/
def popItem (r : Ref) (args : List Value) (named : Fields) : Act Value := do
  noArguments "dict.popitem" args named
  let entries ← dictEntries r
  match entries.getLast? with
  | none => failWith .keyError [.text "popitem(): dictionary is empty"]
  | some (key, v) => do
    store r (.dict entries.dropLast)
    newTuple [key, v]

/-- A new dictionary with one value under all keys. -/
def fromKeys (call : Caller) (args : List Value) (named : Fields) : Act Value := do
  let args ← placedArguments "dict.fromkeys" "fromkeys" 1 2 args named
  let v := (args.drop 1).headD .null
  let keys ← items call (args.headD .null)
  newDict call (keys.map fun key => (key, v))

/-- What a method of a dictionary gives; nothing if dictionaries have no method of that name. -/
def run? (call : Caller) (name : String) (r : Ref) (entries : List (Value × Value))
    (args : List Value) (named : Fields) : Option (Act Value) :=
  let title := "dict." ++ name
  let view (part : Part) : Act Value := do
    noArguments title args named
    allocValue (.view part r)
  match name with
  | "get" => some (get call entries args named)
  | "setdefault" => some (setDefault call r args named)
  | "pop" => some (pop call r args named)
  | "popitem" => some (popItem r args named)
  | "keys" => some (view .keys)
  | "values" => some (view .values)
  | "items" => some (view .items)
  | "update" => some do
    updateDict call "update" r args named
    return .null
  | "copy" => some do
    noArguments title args named
    allocValue (.dict entries)
  | "clear" => some do
    noArguments title args named
    store r (.dict [])
    return .null
  | "__contains__" => some do
    return .bool (← lookupKey? call entries (← onlyArgument title args named)).isSome
  | "__getitem__" => some do item call (.ref r) (← onlyArgument title args named)
  | "__reversed__" => some do
    noArguments title args named
    allocValue (.iterator "dict_reversekeyiterator" (.fixed (entries.map (·.1)).reverse))
  | _ => none

/-- What a method of a view gives; nothing if views have no method of that name. -/
def onView? (call : Caller) (name : String) (part : Part) (r : Ref) (args : List Value)
    (named : Fields) : Option (Act Value) :=
  let title := "dict_" ++ (match part with
    | .keys => "keys"
    | .values => "values"
    | .items => "items")
  match name with
  | "isdisjoint" => some do
    let other ← onlyArgument (title ++ ".isdisjoint") args named
    let self ← allocValue (.view part r)
    let shared ← through call other false fun _ x => do
      if ← containsByNature call self x then return .enough true else return .more false
    return .bool !shared
  | "__reversed__" => some do
    noArguments (title ++ ".__reversed__") args named
    allocValue (.iterator (match part with
      | .keys => "dict_reversekeyiterator"
      | .values => "dict_reversevalueiterator"
      | .items => "dict_reverseitemiterator") (.fixed (← viewItems part r).reverse))
  | _ => none

end DictMethod

end Covenant.Act
