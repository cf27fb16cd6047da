import Covenant.Class

/-!
Arguments of built-in functions.

A built-in function takes a fixed number of arguments by position, or matches them to a few names
as well, and says in words of its own what does not fit.
-/

namespace Covenant.Act

/-- How many arguments were given, as texts about them say it. -/
def givenText (n : Nat) : String :=
  " (" ++ toString n ++ " given)"

/-- The ending of a noun for so many things. -/
def pluralEnding (n : Nat) : String :=
  if n = 1 then "" else "s"

/-- A number of arguments in words. -/
def argumentsText (n : Nat) : String :=
  toString n ++ " argument" ++ pluralEnding n

/-- How a method was called, as far as texts about it tell: by the name of which class, and whether
it was reached through an object. -/
structure Invocation where
  owner : String
  bound : Bool

/-- What texts call a method. -/
def Invocation.title (how : Invocation) (name : String) : String :=
  how.owner ++ "." ++ name

/-- Refuses named arguments. -/
def withoutNames (title : String) (named : Fields) : Act Unit := do
  if named.isEmpty then pure ()
  else fail .typeError (title ++ "() takes no keyword arguments")

/-- Refuses all arguments. -/
def noArguments (title : String) (args : List Value) (named : Fields) : Act Unit := do
  withoutNames title named
  if args.isEmpty then pure ()
  else fail .typeError (title ++ "() takes no arguments" ++ givenText args.length)

/-- The only argument of a function that takes exactly one. -/
def onlyArgument (title : String) (args : List Value) (named : Fields) : Act Value := do
  withoutNames title named
  match args with
  | [v] => return v
  | _ => fail .typeError (title ++ "() takes exactly one argument" ++ givenText args.length)

/-- The arguments of a function that takes from `least` to `most` of them by position. -/
def placedArguments (title name : String) (least most : Nat) (args : List Value) (named : Fields) :
    Act (List Value) := do
  withoutNames title named
  let refuse (bound : String) (n : Nat) : Act (List Value) :=
    fail .typeError (name ++ " expected " ++ bound ++ argumentsText n ++ ", got " ++
      toString args.length)
  if args.length < least then refuse (if least = most then "" else "at least ") least
  else if most < args.length then refuse (if least = most then "" else "at most ") most
  else return args

/-- The argument of a conversion that takes at most one. -/
def conversionArgument (name : String) (args : List Value) (named : Fields) :
    Act (Option Value) := do
  return (← placedArguments name name 0 1 args named).head?

/-- The arguments of a method that says of a wrong number what it takes. -/
def countedArguments (how : Invocation) (name : String) (least most : Nat) (args : List Value)
    (named : Fields) : Act (List Value) := do
  withoutNames (if how.bound then name else how.title name) named
  let refuse (bound : String) (n : Nat) : Act (List Value) :=
    fail .typeError (name ++ "() takes " ++ bound ++ argumentsText n ++ givenText args.length)
  if args.length < least then refuse (if least = most then "exactly " else "at least ") least
  else if most < args.length then refuse (if least = most then "exactly " else "at most ") most
  else return args

/-- What a built-in function takes whose arguments can also be named. -/
structure NamedArguments where
  name : String
  parameters : List String
  /-- How many arguments have to be given by position. -/
  least : Nat
  /-- How many arguments can be given by position. -/
  most : Nat
  /-- How many arguments have to be given in one way or the other. -/
  required : Nat

namespace NamedArguments

/-- What is wrong with the number of arguments, if anything. -/
def countProblem? (s : NamedArguments) (placed named : Nat) : Option String :=
  let all := s.parameters.length
  let takes (bound : String) (n : Nat) : String :=
    s.name ++ "() takes " ++ bound ++ toString n ++ " positional argument" ++ pluralEnding n ++
      givenText placed
  if all < placed + named then
    some (s.name ++ "() takes at most " ++ toString all ++
      (if placed = 0 then " keyword argument" else " argument") ++ pluralEnding all ++
      givenText (placed + named))
  else if s.most < placed then
    some (if s.most = 0 then s.name ++ "() takes no positional arguments"
      else takes (if s.least < s.most then "at most " else "exactly ") s.most)
  else if placed < s.least then
    some (takes (if s.least < s.most then "at least " else "exactly ") s.least)
  else none

/-- The values of the parameters. -/
def valuesOf (s : NamedArguments) (args : List Value) (named : Fields) : List (Option Value) :=
  args.map some ++ (s.parameters.drop args.length).map named.get?

/-- What is wrong with the names of the arguments, if anything. -/
def nameProblem? (s : NamedArguments) (args : List Value) (named : Fields) : Option String :=
  let values := s.valuesOf args named
  let lacking := (values.take s.required).findIdx? (·.isNone)
  let repeated := (s.parameters.take args.length).findIdx? fun x => (named.get? x).isSome
  let unknown := named.find? fun p => !s.parameters.contains p.1
  match lacking, repeated, unknown with
  | some i, _, _ =>
    some (s.name ++ "() missing required argument '" ++ s.parameters.getD i "" ++ "' (pos " ++
      toString (i + 1) ++ ")")
  | none, some i, _ =>
    some ("argument for " ++ s.name ++ "() given by name ('" ++ s.parameters.getD i "" ++
      "') and position (" ++ toString (i + 1) ++ ")")
  | none, none, some (x, _) =>
    some ("'" ++ x ++ "' is an invalid keyword argument for " ++ s.name ++ "()")
  | none, none, none => none

end NamedArguments

/-- The arguments of a built-in function in the order of its parameters. -/
def namedArguments (s : NamedArguments) (args : List Value) (named : Fields) :
    Act (List (Option Value)) := do
  match s.countProblem? args.length named.length with
  | some problem => fail .typeError problem
  | none =>
    match s.nameProblem? args named with
    | some problem => fail .typeError problem
    | none => return s.valuesOf args named

/-- The text that an argument has to be; `place` is what texts call the argument. -/
def textArgument (place : String) (v : Value) : Act String := do
  match v.text? with
  | some s => return s
  | none =>
    let name := match v with
      | .null => "None"
      | _ => ""
    let name ← if name.isEmpty then typeName v else pure name
    fail .typeError (place ++ " must be str, not " ++ name)

end Covenant.Act
