import Covenant.Machine

/-!
Signatures: which arguments a function takes, and how given arguments are matched to them.

Positional arguments go to the parameters in order, named ones by name. Of several mistakes the
first in this order is reported: a named argument that fits no parameter or one already given, too
many positional arguments, missing arguments.
-/

namespace Covenant

/-- A parameter of a function. -/
structure Parameter where
  name : String
  /-- Whether it can be left out. -/
  optional : Bool
  /-- Whether it can only be given by position. -/
  positional : Bool
  deriving Repr, DecidableEq

/-- What a function takes. -/
structure Signature where
  /-- What texts call the function. -/
  title : String
  parameters : List Parameter
  /-- Whether further positional arguments are taken. -/
  takesRest : Bool
  /-- Whether further named arguments are taken. -/
  takesOthers : Bool
  deriving Repr, DecidableEq

/-- Arguments matched to parameters: the value of each parameter, if one was given, then what is
left over. -/
structure Arguments where
  values : List (Option Value)
  rest : List Value
  others : Fields

/-- The value of a parameter; nothing if it was left out. -/
def Arguments.value (a : Arguments) (i : Nat) : Value :=
  (a.values[i]?.join).getD .null

/-- What can be wrong with arguments. -/
inductive Mismatch where
  | onlyByPosition (names : List String)
  | unexpected (name : String)
  | repeated (name : String)
  | tooMany (given : Nat)
  | missing (names : List String)
  deriving Repr, DecidableEq

namespace Parameter

/-- A parameter that has to be given. -/
def needed (name : String) : Parameter := ⟨name, false, false⟩

/-- A parameter that can be left out. -/
def omissible (name : String) : Parameter := ⟨name, true, false⟩

/-- A parameter that has to be given by position. -/
def placed (name : String) : Parameter := ⟨name, false, true⟩

end Parameter

namespace Signature

/-- The signature of a function that takes nothing but the given parameters. -/
def exactly (title : String) (parameters : List Parameter) : Signature :=
  ⟨title, parameters, false, false⟩

/-- The position of the parameter that a named argument goes to. -/
def place? (s : Signature) (name : String) : Option Nat :=
  s.parameters.findIdx? fun p => p.name == name && !p.positional

/-- The positional parameters that were given by name. -/
def misnamed (s : Signature) (named : Fields) : List String :=
  (s.parameters.filter fun p => p.positional && named.any (·.1 == p.name)).map (·.name)

/-- Matches the named arguments, one after the other; `all` are all of them. -/
def matchNamed (s : Signature) (all : Fields) :
    Fields → Arguments → Except Mismatch Arguments
  | [], a => .ok a
  | (name, v) :: rest, a =>
    match s.place? name with
    | some i =>
      if (a.values[i]?.join).isSome then .error (.repeated name)
      else matchNamed s all rest { a with values := a.values.set i (some v) }
    | none =>
      if s.takesOthers then matchNamed s all rest { a with others := a.others ++ [(name, v)] }
      else
        match s.misnamed all with
        | [] => .error (.unexpected name)
        | names => .error (.onlyByPosition names)

/-- The names of the parameters that have to be given and were not. -/
def lacking (s : Signature) (a : Arguments) : List String :=
  ((s.parameters.zip a.values).filter fun (p, v) => !p.optional && v.isNone).map (·.1.name)

/-- Matches given arguments to the parameters. -/
def bind (s : Signature) (args : List Value) (named : Fields) : Except Mismatch Arguments := do
  let count := s.parameters.length
  let start := (args.take count).map some
  let a ← s.matchNamed named named
    ⟨start ++ List.replicate (count - start.length) none, args.drop count, []⟩
  if !s.takesRest && count < args.length then throw (.tooMany args.length)
  match s.lacking a with
  | [] => return a
  | names => throw (.missing names)

/-- A list of quoted names with an `and` before the last. -/
def enumerated : List String → String
  | [] => ""
  | [a] => "'" ++ a ++ "'"
  | [a, b] => "'" ++ a ++ "' and '" ++ b ++ "'"
  | names =>
    String.join (names.dropLast.map fun n => "'" ++ n ++ "', ") ++ "and '" ++
      (names.getLast?.getD "") ++ "'"

/-- How many positional arguments a function takes, as its texts say it. -/
def capacityText (s : Signature) : String :=
  let count := s.parameters.length
  let least := (s.parameters.filter (!·.optional)).length
  if least = count then toString count ++ " positional argument" ++ (if count = 1 then "" else "s")
  else "from " ++ toString least ++ " to " ++ toString count ++ " positional arguments"

/-- The text of a mismatch. -/
def explain (s : Signature) (e : Mismatch) : String :=
  s.title ++ "() " ++
    match e with
    | .onlyByPosition names =>
      "got some positional-only arguments passed as keyword arguments: '" ++
        ", ".intercalate names ++ "'"
    | .unexpected name => "got an unexpected keyword argument '" ++ name ++ "'"
    | .repeated name => "got multiple values for argument '" ++ name ++ "'"
    | .tooMany given =>
      "takes " ++ s.capacityText ++ " but " ++ toString given ++
        (if given = 1 then " was given" else " were given")
    | .missing names =>
      "missing " ++ toString names.length ++ " required positional argument" ++
        (if names.length = 1 then "" else "s") ++ ": " ++ enumerated names

end Signature

/-- The arguments matched to a signature. -/
def Act.matched (s : Signature) (args : List Value) (named : Fields) : Act Arguments := do
  match s.bind args named with
  | .ok a => return a
  | .error e => fail .typeError (s.explain e)

end Covenant
