import Covenant.Object.Arguments
import Covenant.Object.Special

/-!
Starting: what happens to a new object of a class before anybody else sees it.

A class can have a special method that starts its objects; it gives nothing back. A fault keeps the
arguments that it is made with, and some classes of faults keep one of them under a name as well.
-/

namespace Covenant.Act

/-- Calls what starts the objects of a class; it has to give nothing. -/
def startWith (call : Caller) (self found : Value) (args : List Value) (named : Fields) :
    Act Unit := do
  match ← callThrough call self found args named with
  | .null => pure ()
  | v => fail .typeError ("__init__() should return None, not '" ++ (← typeName v) ++ "'")

/-- Raises the fault of arguments where a class takes none. -/
def failNoArguments {α : Type} (c : ClassRef) : Act α := do
  fail .typeError ((← read (·.className c)) ++ "() takes no arguments")

/-- The names under which a class of faults keeps named arguments. -/
def keptNames (f : FaultClass) : List String :=
  if f.isA .attributeError then ["name", "obj"] else if f.isA .nameError then ["name"] else []

/-- The parts of a fault of a codec. -/
def codecParts : List String := ["encoding", "object", "start", "end", "reason"]

/-- What a class of faults keeps of the arguments under names of its own. -/
def startSlots (f : FaultClass) (args : List Value) (named : Fields) : Act Fields := do
  if f.isA .unicodeDecodeError || f.isA .unicodeEncodeError then
    if args.length = codecParts.length then return codecParts.zip args
    else
      fail .typeError ("function takes exactly " ++ toString codecParts.length ++ " arguments" ++
        givenText args.length)
  else if f.isA .stopIteration then return [("value", args.headD .null)]
  else if f.isA .systemExit then
    match args with
    | [] => return []
    | [code] => return [("code", code)]
    | codes => return [("code", ← allocValue (.tuple codes))]
  else
    match named.find? fun p => !(keptNames f).contains p.1 with
    | some (name, _) =>
      fail .typeError ("'" ++ name ++ "' is an invalid keyword argument for " ++ f.name ++ "()")
    | none => return named

/-- Starts a fault by the nature of its class `f`: it keeps the arguments. -/
def startFault (f : FaultClass) (e : Ref) (args : List Value) (named : Fields) : Act Unit := do
  let fault ← loadFault e
  if (keptNames f).isEmpty then withoutNames (← read (·.className fault.cls)) named
  store e (.fault { fault with args })
  let slots ← startSlots f args named
  store e (.fault { fault with args, slots := slots.foldl (fun s p => s.set p.1 p.2) fault.slots })

/-- Gives a fault its only argument. -/
def setOnlyArgument (v message : Value) : Act Unit := do
  match v with
  | .ref e =>
    match ← load e with
    | .fault f => store e (.fault { f with args := [message] })
    | _ => refuse
  | _ => refuse
where
  /-- Refuses what is no fault. -/
  refuse : Act Unit :=
    fail .typeError "super(type, obj): obj must be an instance or subtype of type"

end Covenant.Act
