import Covenant.Proofs.Span.Method
import Covenant.Script.Eval

/-!
# Scripts

Expressions and statements are impartial by recursion on their structure, as long as the calls that
they make are. Making a class changes what the machine knows of classes, which neither the span nor
the trace has a part in.
-/

namespace Covenant

namespace Machine

@[simp] theorem knownAbove_under (m : Machine) (s : Span) (c : ClassRef) :
    Act.knownAbove (m.under s) c = Act.knownAbove m c := by
  simp [Act.knownAbove]

@[simp] theorem isFaultClass_under (m : Machine) (s : Span) (c : ClassRef) :
    Act.isFaultClass (m.under s) c = Act.isFaultClass m c := by
  simp [Act.isFaultClass]

end Machine

namespace Act

variable {way : Way} [loose : way.Loose] {call : Caller}
  [∀ f args named, Impartial way (call f args named)]

/-- Going through the items of a value. -/
theorem Impartial.eachThrough {α : Type} {v : Value} {a : α} {f : α → Value → Act (Progress α)}
    (each : ∀ a v, Impartial way (f a v)) : Impartial way (through call v a f) :=
  inferInstance

/-! ## Built-in functions -/

instance (v : Value) : Impartial way (absolute call v) := by
  unfold absolute
  split
  · infer_instance
  · split
    · infer_instance
    · refine .seq inferInstance fun _ => ?_
      split <;> infer_instance

instance (v : Value) : Impartial way (allTrue call v) := by
  unfold allTrue
  infer_instance

instance (v : Value) : Impartial way (anyTrue call v) := by
  unfold anyTrue
  infer_instance

instance (v start : Value) : Impartial way (sumFrom call v start) := by
  unfold sumFrom
  refine .seq inferInstance fun _ => ?_
  split <;> infer_instance

instance (args : List Value) (named : Fields) : Impartial way (sum call args named) := by
  unfold sum
  infer_instance

/-! ## Making objects and classes -/

instance (name : String) (args : List Value) (named : Fields) :
    Impartial way (collected call name args named) := by
  unfold collected
  refine .seq inferInstance fun _ => ?_
  split <;> infer_instance

instance (v : Value) : Impartial way (constructWhole?.asTuple call v) := by
  unfold constructWhole?.asTuple
  split
  · refine .seq inferInstance fun _ => ?_
    split <;> infer_instance
  · infer_instance

instance {α : Type} (position : Nat) (wanted : String) (v : Value) :
    Impartial way (failClassArgument position wanted v : Act α) := by
  unfold failClassArgument
  infer_instance

instance (v : Value) : Impartial way (newClass.cellOf v) := by
  unfold newClass.cellOf
  split <;> infer_instance

instance (bases : List Value) : Impartial way (baseFrom bases) := by
  unfold baseFrom
  split <;> infer_instance

instance (name : String) (v : Value) : Impartial way (classEntry name v) := by
  unfold classEntry
  infer_instance

/-- The classes that a machine knows stand neither on the span nor in the trace. -/
instance (info : ClassInfo) : Impartial way (addClass info) :=
  .of_holds (fun _ _ _ => rfl) (fun _ => rfl) fun _ _ => loose.holds _

instance (c : ClassRef) (name : String) (v : Value) :
    Impartial way (tellName call c name v) := by
  unfold tellName
  refine .seq inferInstance fun _ => ?_
  split <;> infer_instance

instance (c : ClassRef) : Impartial way (tellAbove call c) := by
  unfold tellAbove
  refine .seq inferInstance fun _ => ?_
  dsimp only
  refine .seq (.read fun _ _ => rfl) fun _ => ?_
  split <;> infer_instance

instance (info : ClassInfo) : Impartial way (makeClass call info) := by
  unfold makeClass
  infer_instance

instance (name bases fields : Value) : Impartial way (newClass call name bases fields) := by
  unfold newClass
  split
  · infer_instance
  · refine .seq inferInstance fun _ => ?_
    split
    · refine .seq inferInstance fun _ => ?_
      split <;> infer_instance
    · infer_instance

instance (args : List Value) (named : Fields) : Impartial way (callType call args named) := by
  unfold callType
  split <;> infer_instance

instance (e : Enumeration) (args : List Value) (named : Fields) :
    Impartial way (callEnumeration call e args named) := by
  unfold callEnumeration
  refine .seq inferInstance fun _ => ?_
  split <;> infer_instance

instance (args : List Value) (named : Fields) : Impartial way (newBound args named) := by
  unfold newBound
  refine .seq inferInstance fun _ => ?_
  split
  · refine .seq inferInstance fun _ => ?_
    split
    · split <;> infer_instance
    · infer_instance
  · infer_instance

instance (k : Known) (args : List Value) (named : Fields) :
    ImpartialIfAny way (constructWhole? call k args named) := by
  unfold constructWhole?
  split <;> try infer_instance
  all_goals
    refine .here ?_
    refine .seq inferInstance fun _ => ?_
    split <;> infer_instance

instance (k : Known) (names : List String) (args : List Value) (named : Fields) :
    Impartial way (recordFields k names args named) := by
  unfold recordFields
  infer_instance

instance (k : Known) (c : ClassRef) (args : List Value) (named : Fields) :
    Impartial way (constructObject call k c args named) := by
  unfold constructObject
  refine .seq inferInstance fun _ => ?_
  dsimp only
  split <;> try infer_instance
  case h_8 =>
    split
    · infer_instance
    · split
      · refine .seq inferInstance fun _ => ?_
        split <;> infer_instance
      · infer_instance
  all_goals
    -- an object is made and then started, if its class says how
    refine .seq inferInstance fun _ => .seq inferInstance fun _ => ?_
    split <;> infer_instance

instance (c : ClassRef) (args : List Value) (named : Fields) :
    Impartial way (construct call c args named) := by
  unfold construct
  refine .seq (.read fun _ _ => by simp) fun _ => .seq inferInstance fun _ => ?_
  split
  · refine .seq inferInstance fun _ => ?_
    refine .seq inferInstance fun _ => .seq inferInstance fun _ => ?_
    dsimp only
    split
    · exact .seq (.read fun _ _ => by simp) inferInstance
    · infer_instance
  · split
    · exact .found ‹_›
    · infer_instance

/-! ## Names -/

instance (steps : Nat) (scope : Ref) (name : String) :
    Impartial way (lookupFrom steps scope name) := by
  induction steps generalizing scope with
  | zero => exact .pure none
  | succ steps ih =>
    unfold lookupFrom
    refine .seq inferInstance fun _ => ?_
    split
    · split <;> infer_instance
    · infer_instance

instance (scope : Ref) (name : String) : Impartial way (lookupName scope name) := by
  unfold lookupName
  refine .seq (.read fun _ _ => rfl) fun _ => .seq inferInstance fun _ => ?_
  split
  · infer_instance
  · refine .seq (.read fun _ _ => rfl) fun _ => ?_
    split <;> infer_instance

instance (scope : Ref) (name : String) (v : Value) : Impartial way (bindName scope name v) := by
  unfold bindName
  refine .seq inferInstance fun _ => ?_
  split <;> infer_instance

/-! ## Expressions and statements -/

instance (a b : Value) : Impartial way (applyOperator.isSame a b) := by
  unfold applyOperator.isSame
  split
  · refine .seq inferInstance fun _ => .seq inferInstance fun _ => ?_
    split <;> infer_instance
  · infer_instance

instance (o : Script.Operator) (a b : Value) : Impartial way (applyOperator call o a b) := by
  unfold applyOperator
  split <;> infer_instance

instance (v : Value) (defaults : Fields) : Impartial way (setDefaults call v defaults) := by
  unfold setDefaults
  infer_instance

instance (cls : Value) (given : Fields) : Impartial way (newObject call cls given) := by
  have defaults (v : Value) (d : ClassRef) : Impartial way (do
      setDefaults call v (((← read (·.classInfo? d)).map (·.defaults)).getD [])) :=
    .seq (.read fun _ _ => rfl) fun _ => inferInstance
  unfold newObject
  refine .seq inferInstance fun _ => ?_
  dsimp only
  split <;> infer_instance

instance (name : String) (run invoke : Option Value) :
    Impartial way (newDevice name run invoke) := by
  unfold newDevice
  dsimp only
  split <;> infer_instance

instance (name : String) (run : Option Value) (scope : Ref) :
    Impartial way (newDeviceClass name run scope) := by
  unfold newDeviceClass
  infer_instance

instance (v : Value) : Impartial way (asFault.faultAt? v) := by
  unfold asFault.faultAt?
  split
  · refine .seq inferInstance fun _ => ?_
    split <;> infer_instance
  · infer_instance

instance (v : Value) (complaint : String) : Impartial way (asFault call v complaint) := by
  unfold asFault
  split
  · refine .seq (.read fun _ _ => by simp) fun _ => ?_
    split
    · refine .seq inferInstance fun _ => .seq inferInstance fun _ => ?_
      split <;> infer_instance
    · infer_instance
  · refine .seq inferInstance fun _ => ?_
    split <;> infer_instance

instance (e : Ref) : Impartial way (launch e) := by
  unfold launch
  infer_instance

instance (v : Value) : Impartial way (asCause call v) := by
  unfold asCause
  split <;> infer_instance

instance {α : Type} : Impartial way (raiseAgain : Act α) := by
  unfold raiseAgain
  refine .seq inferInstance fun _ => ?_
  split <;> infer_instance

instance (e : Ref) (caught : List Value) : Impartial way (isCaught e caught) := by
  unfold isCaught
  refine .readAll (fun m s => ?_) fun _ => inferInstance
  simp only [Machine.isFaultClass_under, Machine.isSubclass_under]

instance (function : Value) (snapshot mode via : Option Value) :
    Impartial way (contractedMethod call function snapshot mode via) := by
  unfold contractedMethod
  dsimp only
  split <;> infer_instance

/-! The parts of a script are impartial by recursion on all of them at once. -/

set_option linter.unusedSectionVars false in
mutual

private theorem evalExpr_impartial (scope : Ref) :
    (e : Script.Expr) → Impartial way (evalExpr call scope e)
  | .null | .bool _ | .int _ | .float _ | .text _ | .bytes _ | .name _ | .function ..
  | .probe _ => by
    unfold evalExpr
    infer_instance
  | .list items | .tuple items => by
    have := evalList_impartial scope items
    unfold evalExpr
    infer_instance
  | .dict entries => by
    have := evalEntries_impartial scope [] entries
    unfold evalExpr
    infer_instance
  | .attribute e _ | .negate e => by
    have := evalExpr_impartial scope e
    unfold evalExpr
    infer_instance
  | .call callee args named => by
    have := evalExpr_impartial scope callee
    have := evalList_impartial scope args
    have := evalNamed_impartial scope named
    unfold evalExpr
    infer_instance
  | .binary _ a b => by
    have := evalExpr_impartial scope a
    have := evalExpr_impartial scope b
    unfold evalExpr
    infer_instance
  | .allOf operands => by
    unfold evalExpr
    exact evalAll_impartial scope operands
  | .anyOf operands => by
    unfold evalExpr
    exact evalAny_impartial scope operands
  | .fresh cls fields => by
    have := evalExpr_impartial scope cls
    have := evalNamed_impartial scope fields
    unfold evalExpr
    infer_instance
  | .device _ run invoke => by
    have := evalOption_impartial scope run
    have := evalOption_impartial scope invoke
    unfold evalExpr
    infer_instance
  | .deviceClass _ run => by
    have := evalOption_impartial scope run
    unfold evalExpr
    infer_instance

private theorem evalOption_impartial (scope : Ref) :
    (e? : Option Script.Expr) → Impartial way (evalOption call scope e?)
  | none => by
    unfold evalOption
    infer_instance
  | some e => by
    have := evalExpr_impartial scope e
    unfold evalOption
    infer_instance

private theorem evalList_impartial (scope : Ref) :
    (l : List Script.Expr) → Impartial way (evalList call scope l)
  | [] => by
    unfold evalList
    infer_instance
  | e :: rest => by
    have := evalExpr_impartial scope e
    have := evalList_impartial scope rest
    unfold evalList
    infer_instance

private theorem evalEntries_impartial (scope : Ref) (done : List (Value × Value)) :
    (l : List (Script.Expr × Script.Expr)) → Impartial way (evalEntries call scope done l)
  | [] => by
    unfold evalEntries
    infer_instance
  | (k, e) :: rest => by
    have := evalExpr_impartial scope k
    have := evalExpr_impartial scope e
    have (done : List (Value × Value)) := evalEntries_impartial scope done rest
    unfold evalEntries
    infer_instance

private theorem evalNamed_impartial (scope : Ref) :
    (l : List (String × Script.Expr)) → Impartial way (evalNamed call scope l)
  | [] => by
    unfold evalNamed
    infer_instance
  | (_, e) :: rest => by
    have := evalExpr_impartial scope e
    have := evalNamed_impartial scope rest
    unfold evalNamed
    infer_instance

private theorem evalAll_impartial (scope : Ref) :
    (l : List Script.Expr) → Impartial way (evalAll call scope l)
  | [] => by
    unfold evalAll
    infer_instance
  | e :: rest => by
    have := evalExpr_impartial scope e
    have := evalAll_impartial scope rest
    unfold evalAll
    infer_instance

private theorem evalAny_impartial (scope : Ref) :
    (l : List Script.Expr) → Impartial way (evalAny call scope l)
  | [] => by
    unfold evalAny
    infer_instance
  | e :: rest => by
    have := evalExpr_impartial scope e
    have := evalAny_impartial scope rest
    unfold evalAny
    infer_instance

private theorem execStmt_impartial (scope : Ref) :
    (s : Script.Stmt) → Impartial way (execStmt call scope s)
  | .eval e | .bind _ e | .give e | .deleteField e _ => by
    have := evalExpr_impartial scope e
    unfold execStmt
    infer_instance
  | .setField target _ e => by
    have := evalExpr_impartial scope target
    have := evalExpr_impartial scope e
    unfold execStmt
    infer_instance
  | .emit e => by
    have := evalExpr_impartial scope e
    unfold execStmt
    refine .seq inferInstance fun _ => .seq inferInstance fun _ => ?_
    exact .seq (.record rfl) inferInstance
  | .branch condition yes no => by
    have := evalExpr_impartial scope condition
    have := execBlock_impartial scope yes
    have := execBlock_impartial scope no
    unfold execStmt
    infer_instance
  | .loop x source body => by
    have := evalExpr_impartial scope source
    have := execBlock_impartial scope body
    unfold execStmt
    refine .seq inferInstance fun _ => .eachThrough fun _ v => ?_
    refine .seq inferInstance fun _ => .seq inferInstance fun _ => ?_
    split <;> infer_instance
  | .raise e cause => by
    have := evalExpr_impartial scope e
    have := evalOption_impartial scope cause
    unfold execStmt
    refine .seq inferInstance fun _ => .seq inferInstance fun _ => ?_
    split <;> infer_instance
  | .reraise => by
    unfold execStmt
    infer_instance
  | .attempt body _ _ handler => by
    have := execBlock_impartial scope body
    have := execBlock_impartial scope handler
    unfold execStmt
    refine .seq inferInstance fun _ => .seq inferInstance fun _ => ?_
    split <;> infer_instance
  | .classDef _ _ base _ invariant methods => by
    have := evalOption_impartial scope base
    have := evalInvariant_impartial scope invariant
    have := evalMethods_impartial scope methods
    unfold execStmt
    refine .seq inferInstance fun _ => ?_
    refine .seq inferInstance fun _ => .seq inferInstance fun _ => ?_
    dsimp only
    split <;> infer_instance

private theorem execBlock_impartial (scope : Ref) :
    (l : List Script.Stmt) → Impartial way (execBlock call scope l)
  | [] => by
    unfold execBlock
    infer_instance
  | s :: rest => by
    have := execStmt_impartial scope s
    have := execBlock_impartial scope rest
    unfold execBlock
    refine .seq inferInstance fun _ => ?_
    split <;> infer_instance

private theorem evalInvariant_impartial (scope : Ref) :
    (i : Script.InvariantDef) → Impartial way (evalInvariant call scope i)
  | .absent => by
    unfold evalInvariant
    infer_instance
  | .attribute e | .static e | .property e => by
    have := evalExpr_impartial scope e
    unfold evalInvariant
    infer_instance

private theorem evalMethods_impartial (scope : Ref) :
    (l : List Script.MethodDef) → Impartial way (evalMethods call scope l)
  | [] => by
    unfold evalMethods
    infer_instance
  | m :: rest => by
    have := evalMethod_impartial scope m
    have := evalMethods_impartial scope rest
    unfold evalMethods
    infer_instance

private theorem evalMethod_impartial (scope : Ref) :
    (m : Script.MethodDef) → Impartial way (evalMethod call scope m)
  | .plain .. => by
    unfold evalMethod
    infer_instance
  | .contracted _ _ _ snapshot mode via => by
    have := evalOption_impartial scope snapshot
    have := evalOption_impartial scope mode
    have := evalOption_impartial scope via
    unfold evalMethod
    infer_instance

end

instance (scope : Ref) (e : Script.Expr) : Impartial way (evalExpr call scope e) :=
  evalExpr_impartial scope e

instance (scope : Ref) (s : Script.Stmt) : Impartial way (execStmt call scope s) :=
  execStmt_impartial scope s

instance (scope : Ref) (l : List Script.Stmt) : Impartial way (execBlock call scope l) :=
  execBlock_impartial scope l

end Act

end Covenant
