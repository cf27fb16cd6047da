/-!
Scripts: expressions and statements of the small language in which conditions, bodies, snapshots
and invariants are written.
-/

namespace Covenant.Script

/-- The operators with two operands. -/
inductive Operator where
  | add
  | sub
  | mul
  | div
  | floorDiv
  | mod
  | eq
  | ne
  | lt
  | le
  | gt
  | ge
  | same
  | within
  | item
  deriving Repr, DecidableEq

/-- What a probe does when it is used: give a result, or fail with a message. -/
inductive Reaction (α : Type) where
  | give (a : α)
  | fail (message : String)
  deriving Repr

/-- An object that records how it is used. -/
structure Probe where
  name : String
  truth : Reaction Bool
  plain : Reaction String
  quoted : Reaction String
  laidOut : Reaction String
  deriving Repr

mutual

/-- Expressions. -/
inductive Expr where
  | null
  | bool (b : Bool)
  | int (n : Int)
  | float (x : Float)
  | text (s : String)
  | bytes (b : List UInt8)
  | list (items : List Expr)
  | tuple (items : List Expr)
  | dict (entries : List (Expr × Expr))
  | name (x : String)
  | attribute (e : Expr) (name : String)
  | call (callee : Expr) (args : List Expr) (named : List (String × Expr))
  | binary (o : Operator) (a b : Expr)
  | allOf (operands : List Expr)
  | anyOf (operands : List Expr)
  | negate (e : Expr)
  | function (name : String) (params : List String) (body : List Stmt)
  | fresh (cls : Expr) (fields : List (String × Expr))
  | probe (p : Probe)
  | device (name : String) (run invoke : Option Expr)
  | deviceClass (name : String) (run : Option Expr)

/-- Statements. -/
inductive Stmt where
  | eval (e : Expr)
  | bind (x : String) (e : Expr)
  | setField (target : Expr) (field : String) (e : Expr)
  | deleteField (target : Expr) (field : String)
  | emit (e : Expr)
  | give (e : Expr)
  | branch (condition : Expr) (yes no : List Stmt)
  | loop (x : String) (items : Expr) (body : List Stmt)
  | raise (e : Expr) (cause : Option Expr)
  | reraise
  | attempt (body : List Stmt) (caught : List String) (x : String) (handler : List Stmt)
  | classDef (name qualified : String) (base : Option Expr) (fields : List (String × Expr))
      (invariant : InvariantDef) (methods : List MethodDef)

/-- The invariant of a class definition. -/
inductive InvariantDef where
  | absent
  | attribute (e : Expr)
  | static (e : Expr)
  | property (e : Expr)

/-- A method of a class definition: a function, wrapped in a contract if one is given. The contract
may take a snapshot, a mode and the profile that binds it. -/
inductive MethodDef where
  | plain (name : String) (params : List String) (body : List Stmt)
  | contracted (name : String) (params : List String) (body : List Stmt)
      (snapshot mode via : Option Expr)

end

end Covenant.Script
