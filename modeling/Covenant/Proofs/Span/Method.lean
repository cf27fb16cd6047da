import Covenant.Object.Method
import Covenant.Proofs.Span.SequenceMethod

/-!
# Methods of models, operations by name, and all natural methods

A dump or a copy goes through a value with a bound on how deep it is nested, so the actions that
make it are proved impartial by induction on that bound, and the one that reads a document by
recursion on the document. Where there is a method by nature, calling it does what the method gives.
-/

namespace Covenant

namespace Act

variable {way : Way} [loose : way.Loose] {call : Caller}
  [∀ f args named, Impartial way (call f args named)]

/-- Which values an initial class takes as an operand does not depend on the span. -/
theorem Operation.takesOperand_under (m : Machine) (s : Span) (owner : Known) (v : Value) :
    Operation.takesOperand (m.under s) owner v = Operation.takesOperand m owner v := by
  unfold Operation.takesOperand
  split <;> simp

/-! ## Models -/

instance (owner : Known) (name : String) (args : List Value) (named : Fields) :
    Impartial way (ModelMethod.arguments owner name args named) := by
  unfold ModelMethod.arguments
  dsimp only
  split <;> infer_instance

instance (argument : String) (v : Value) (name : String) :
    Impartial way (ModelMethod.mention? call argument v name) := by
  unfold ModelMethod.mention?
  dsimp only
  split
  · refine .seq inferInstance fun _ => ?_
    split <;> infer_instance
  · infer_instance

instance (named fields : Fields) :
    Impartial way (ModelMethod.chosenFields call named fields) := by
  unfold ModelMethod.chosenFields
  refine .seq inferInstance fun _ => .seq (.mapEach fun p => ?_) fun _ => inferInstance
  split
  dsimp only
  split
  · refine .seq inferInstance fun _ => ?_
    split
    · infer_instance
    · refine .seq inferInstance fun _ => ?_
      split <;> infer_instance
  · refine .seq inferInstance fun _ => .seq inferInstance fun _ => ?_
    split
    · infer_instance
    · refine .seq inferInstance fun _ => ?_
      split <;> infer_instance

instance {α : Type} : Impartial way (ModelMethod.failCircular : Act α) := by
  unfold ModelMethod.failCircular
  infer_instance

instance (b : List UInt8) : Impartial way (ModelMethod.bytesDocument b) := by
  unfold ModelMethod.bytesDocument
  dsimp only
  split <;> infer_instance

instance (v : Value) : Impartial way (ModelMethod.keyText v) := by
  unfold ModelMethod.keyText
  split <;> try infer_instance
  refine .readAll (fun _ _ => by simp) fun _ => ?_
  infer_instance

instance (v : Value) : Impartial way (ModelMethod.dataFields? v) := by
  unfold ModelMethod.dataFields?
  split <;> try infer_instance
  refine .seq inferInstance fun _ => ?_
  split <;> infer_instance

instance (inner : Value → Act Document) (v : Value) [∀ a, Impartial way (inner a)] :
    Impartial way (ModelMethod.documentWithin.fieldsDocument inner v) := by
  unfold ModelMethod.documentWithin.fieldsDocument
  refine .seq inferInstance fun _ => ?_
  split
  · infer_instance
  · refine .readAll (fun _ _ => by simp) fun _ => ?_
    infer_instance

instance (depth : Nat) (above : List Ref) (v : Value) :
    Impartial way (ModelMethod.documentWithin depth above v) := by
  induction depth generalizing above v with
  | zero =>
    unfold ModelMethod.documentWithin
    infer_instance
  | succ depth ih =>
    unfold ModelMethod.documentWithin
    split <;> try infer_instance
    split
    · infer_instance
    · dsimp only
      refine .seq inferInstance fun _ => ?_
      split <;> infer_instance

instance (fields : Fields) : Impartial way (ModelMethod.document fields) := by
  unfold ModelMethod.document
  exact .seq (.read fun _ _ => rfl) inferInstance

mutual

/-- A document is turned into a value by making cells alone. -/
private theorem ofDocument_impartial : (d : Document) → Impartial way (ModelMethod.ofDocument d)
  | .null | .bool _ | .int _ | .float _ | .text _ => by
    unfold ModelMethod.ofDocument
    infer_instance
  | .list items => by
    unfold ModelMethod.ofDocument
    exact .seq (ofDocuments_impartial items) inferInstance
  | .object parts => by
    unfold ModelMethod.ofDocument
    exact .seq (ofParts_impartial parts) inferInstance

private theorem ofDocuments_impartial :
    (items : List Document) → Impartial way (ModelMethod.ofDocuments items)
  | [] => .pure []
  | d :: rest => by
    unfold ModelMethod.ofDocuments
    exact .seq (ofDocument_impartial d) fun _ => .seq (ofDocuments_impartial rest) inferInstance

private theorem ofParts_impartial :
    (parts : List (String × Document)) → Impartial way (ModelMethod.ofParts parts)
  | [] => .pure []
  | (name, d) :: rest => by
    unfold ModelMethod.ofParts
    exact .seq (ofDocument_impartial d) fun _ => .seq (ofParts_impartial rest) inferInstance

end

instance (d : Document) : Impartial way (ModelMethod.ofDocument d) :=
  ofDocument_impartial d

instance (inner : Value → Act Value) (v : Value) [∀ a, Impartial way (inner a)] :
    Impartial way (ModelMethod.dumped.fieldsDumped inner v) := by
  unfold ModelMethod.dumped.fieldsDumped
  refine .seq inferInstance fun _ => ?_
  split <;> infer_instance

instance (depth : Nat) (above : List Ref) (v : Value) :
    Impartial way (ModelMethod.dumped depth above v) := by
  induction depth generalizing above v with
  | zero =>
    unfold ModelMethod.dumped
    infer_instance
  | succ depth ih =>
    unfold ModelMethod.dumped
    split
    · split
      · infer_instance
      · dsimp only
        refine .seq inferInstance fun _ => ?_
        split <;> infer_instance
    · infer_instance

instance (v : Value) (named : Fields) : Impartial way (ModelMethod.dump call v named) := by
  unfold ModelMethod.dump
  refine .seq inferInstance fun _ => .seq inferInstance fun _ => ?_
  split
  · infer_instance
  · exact .seq (.read fun _ _ => rfl) inferInstance

instance (v : Value) (named : Fields) : Impartial way (ModelMethod.dumpText call v named) := by
  unfold ModelMethod.dumpText
  infer_instance

instance (v : Value) : Impartial way (ModelMethod.updates v) := by
  unfold ModelMethod.updates
  split <;> try infer_instance
  refine .seq inferInstance fun _ => ?_
  split <;> infer_instance

instance (depth : Nat) (v : Value) : Impartial way (ModelMethod.deepCopied depth v) := by
  induction depth generalizing v with
  | zero => exact .pure v
  | succ depth ih =>
    unfold ModelMethod.deepCopied
    dsimp only
    split
    · refine .seq inferInstance fun _ => ?_
      split <;> infer_instance
    · infer_instance

instance (v : Value) (deep : Bool) (named : Fields) :
    Impartial way (ModelMethod.copied call v deep named) := by
  unfold ModelMethod.copied
  refine .seq inferInstance fun _ => .seq inferInstance fun _ => ?_
  refine .seq (.read fun _ _ => rfl) fun _ => ?_
  dsimp only
  split
  all_goals
    refine .seq inferInstance fun _ => .seq inferInstance fun _ => ?_
    split
    · refine .seq (.read fun _ _ => rfl) fun _ => ?_
      split
      · infer_instance
      · -- the new settings and what is attached to them stand neither on the span nor in the trace
        exact .of_holds (fun _ _ _ => rfl) (fun _ => rfl) fun _ _ => loose.holds _
    · infer_instance

instance (name : String) (v : Value) (given : Nat → Value) (named : Fields) :
    Impartial way (ModelMethod.run call name v given named) := by
  unfold ModelMethod.run
  dsimp only
  split <;> try infer_instance
  · split
    · infer_instance
    · refine .seq inferInstance fun _ => ?_
      split <;> infer_instance
  · split <;> infer_instance
  · split <;> infer_instance

instance (name : String) (args : List Value) (named : Fields) :
    Impartial way (ModelMethod.runOnClass name args named) := by
  unfold ModelMethod.runOnClass
  split <;> infer_instance

/-! ## Operations -/

instance (gap : String) (count : Nat) (args : List Value) :
    Impartial way (Operation.exactly gap count args) := by
  unfold Operation.exactly
  infer_instance

instance (owner : Known) (name : String) (args : List Value) :
    Impartial way (Operation.operand owner name args) := by
  unfold Operation.operand
  infer_instance

/-- Whether a value is taken as an operand does not depend on the span. -/
private instance readTakesOperand (owner : Known) (v : Value) :
    Impartial way (read (Operation.takesOperand · owner v)) :=
  .read fun m s => Operation.takesOperand_under m s owner v

instance (owner : Known) (c : Comparison) (a b : Value) :
    Impartial way (Operation.compareAs call owner c a b) := by
  unfold Operation.compareAs
  split <;> try infer_instance
  refine .seq inferInstance fun _ => ?_
  split <;> infer_instance

instance (v : Value) : Impartial way (Operation.attributeName v) := by
  unfold Operation.attributeName
  split <;> infer_instance

instance (a b : Value) : Impartial way (Operation.quotientAndRemainder a b) := by
  unfold Operation.quotientAndRemainder
  dsimp only
  split
  · infer_instance
  · refine .seq ?_ fun _ => inferInstance
    split <;> infer_instance

instance (v : Value) : Impartial way (Operation.asFloatOperand? v) := by
  unfold Operation.asFloatOperand?
  split
  · infer_instance
  · split <;> infer_instance

instance (x y : Float) : Impartial way (Operation.floatPower x y) := by
  unfold Operation.floatPower
  infer_instance

instance (n k m : Int) : Impartial way (Operation.modularPower n k m) := by
  unfold Operation.modularPower
  dsimp only
  split
  · infer_instance
  · split
    · infer_instance
    · split <;> infer_instance

instance (a b modulus : Value) : Impartial way (Operation.integerPower a b modulus) := by
  unfold Operation.integerPower
  split <;> infer_instance

instance (owner : Known) (a b modulus : Value) :
    Impartial way (Operation.power owner a b modulus) := by
  unfold Operation.power
  split
  · dsimp only
    split
    · refine .seq inferInstance fun _ => ?_
      refine .seq inferInstance fun _ => .seq inferInstance fun _ => ?_
      split <;> infer_instance
    · refine .seq inferInstance fun _ => .seq inferInstance fun _ => ?_
      split <;> infer_instance
  · infer_instance

instance (up : Bool) (n k : Int) : Impartial way (Operation.shifted up n k) := by
  unfold Operation.shifted
  infer_instance

instance (owner : Known) (name : String) (a b : Value) :
    ImpartialIfAny way (Operation.onIntegers? owner name a b) := by
  unfold Operation.onIntegers?
  dsimp only
  split
  · split
    · infer_instance
    · refine .here ?_
      split <;> infer_instance
  · split
    · refine .here ?_
      split <;> infer_instance
    · refine .here ?_
      split <;> infer_instance
    · refine .here ?_
      split <;> infer_instance
    · refine .here ?_
      split <;> infer_instance
    · infer_instance

instance (owner : Known) (name : String) (a b : Value) :
    ImpartialIfAny way (Operation.onNumbers? owner name a b) := by
  unfold Operation.onNumbers?
  dsimp only
  split
  · infer_instance
  · split <;> infer_instance

instance (owner : Known) (name : String) (a b : Value) :
    ImpartialIfAny way (Operation.onSequence? call owner name a b) := by
  unfold Operation.onSequence?
  dsimp only
  split <;> try infer_instance
  refine .here ?_
  refine .seq inferInstance fun _ => .seq inferInstance fun _ => ?_
  split <;> infer_instance

instance (a b : Value) : Impartial way (Operation.merged call a b) := by
  unfold Operation.merged
  split
  · refine .seq inferInstance fun _ => .seq inferInstance fun _ => ?_
    split <;> infer_instance
  · infer_instance

instance (name : String) (a b : Value) :
    ImpartialIfAny way (Operation.onDict? call name a b) := by
  unfold Operation.onDict?
  split <;> infer_instance

instance (owner : Known) (name : String) (v b : Value) :
    ImpartialIfAny way (Operation.paired? call owner name v b) := by
  unfold Operation.paired?
  split
  · infer_instance
  · split <;> try infer_instance
    · refine .here ?_
      refine .seq inferInstance fun _ => .seq inferInstance fun _ => ?_
      split <;> infer_instance
    · refine .here ?_
      refine .seq inferInstance fun _ => ?_
      dsimp only
      split <;> infer_instance
    · split <;> infer_instance

instance (c : ClassRef) (name : String) : Impartial way (Operation.isOverridden c name) := by
  unfold Operation.isOverridden
  refine .seq inferInstance fun _ => ?_
  split <;> infer_instance

instance (owner : Known) (self : Value) (args : List Value) (named : Fields) :
    Impartial way (Operation.start call owner self args named) := by
  unfold Operation.start
  split <;> try infer_instance
  refine .seq inferInstance fun _ => ?_
  split <;> infer_instance

instance (function : Value) (args : List Value) :
    Impartial way (Operation.bindTo function args) := by
  unfold Operation.bindTo
  split <;> infer_instance

instance (v : Value) (args : List Value) : Impartial way (Operation.describe call v args) := by
  unfold Operation.describe
  split
  · refine .seq inferInstance fun _ => ?_
    split <;> infer_instance
  · infer_instance

instance (owner : Known) (v : Value) : Impartial way (Operation.quotedAs call owner v) := by
  unfold Operation.quotedAs
  split <;> infer_instance

instance (owner : Known) (v : Value) : Impartial way (Operation.plainAs call owner v) := by
  unfold Operation.plainAs
  split <;> infer_instance

instance (v : Value) : Impartial way (Operation.hashAs call v) := by
  unfold Operation.hashAs
  refine .seq inferInstance fun _ => ?_
  split <;> infer_instance

instance (name : String) (v : Value) : ImpartialIfAny way (Operation.onNumber? call name v) := by
  unfold Operation.onNumber?
  split <;> infer_instance

instance (owner : Known) (name : String) (v : Value) :
    ImpartialIfAny way (Operation.alone? call owner name v) := by
  unfold Operation.alone?
  split <;> try infer_instance
  · refine .here ?_
    refine .seq inferInstance fun _ => ?_
    split <;> infer_instance
  · split <;> infer_instance

instance (owner : Known) (name : String) (v : Value) (args : List Value) (named : Fields) :
    Impartial way (Operation.run call owner name v args named) := by
  unfold Operation.run
  dsimp only
  split <;> try infer_instance
  split
  · refine .seq inferInstance fun _ => ?_
    split <;> try infer_instance
    · refine .seq inferInstance fun _ => .seq inferInstance fun _ => ?_
      split <;> infer_instance
    · split <;> infer_instance
    · split
      · refine .seq inferInstance fun _ => ?_
        exact .found ‹_›
      · infer_instance
  · split <;> try infer_instance
    · refine .seq inferInstance fun _ => .seq inferInstance fun _ => ?_
      split <;> infer_instance
    · split <;> infer_instance
    · split
      · refine .seq inferInstance fun _ => ?_
        exact .found ‹_›
      · infer_instance

/-! ## Methods by nature -/

instance {α : Type} (owner : Known) (n : Nature) (name : String) (v : Value) :
    Impartial way (failOwner owner n name v : Act α) := by
  unfold failOwner
  infer_instance

instance (v : Value) : Impartial way (shownOwner v) := by
  unfold shownOwner
  split <;> infer_instance

instance (how : Invocation) (name : String) (v : Value) (args : List Value) (named : Fields) :
    ImpartialIfAny way (objectMethod? how call name v args named) := by
  unfold objectMethod?
  split <;> infer_instance

instance (how : Invocation) (name : String) (v : Value) (args : List Value) (named : Fields) :
    ImpartialIfAny way (classMethod? how call name v args named) := by
  unfold classMethod?
  split <;> try infer_instance
  · refine .here ?_
    refine .seq inferInstance fun _ => ?_
    refine .readAll (fun _ _ => by simp) fun _ => ?_
    infer_instance
  · refine .here ?_
    refine .seq inferInstance fun _ => ?_
    refine .readAll (fun _ _ => by simp) fun _ => ?_
    infer_instance
  · refine .here ?_
    refine .seq inferInstance fun _ => ?_
    split
    · exact .seq (.read fun _ _ => by simp) inferInstance
    · infer_instance

instance (how : Invocation) (name : String) (v : Value) (m : Member) (args : List Value)
    (named : Fields) : ImpartialIfAny way (memberMethod? how call name v m args named) :=
  .mapAction fun _ _ => inferInstance

/-- What a method gives is done if there is any. -/
theorem Impartial.naturalMethod?_done (how : Invocation) (owner : Known) (name : String) (v : Value)
    (args : List Value) (named : Fields) :
    Impartial way (do
      match ← naturalMethod? how call owner name v args named with
      | some result => result
      | none => return .null) := by
  unfold naturalMethod?
  split
  case h_8 =>
    rw [bind_assoc]
    refine .seq inferInstance fun _ => ?_
    split
    all_goals
      rw [pure_bind]
      split <;> first | exact .found ‹_› | infer_instance
  all_goals
    rw [pure_bind]
    split <;> first | exact .found ‹_› | infer_instance

instance (bound : Bool) (owner : Known) (n : Nature) (name : String) (args : List Value)
    (named : Fields) : Impartial way (callOnObject bound call owner n name args named) := by
  unfold callOnObject
  split
  · infer_instance
  · refine .seq (.read fun _ _ => by simp) fun _ => ?_
    split
    · split
      · infer_instance
      · refine .seq inferInstance fun _ => ?_
        exact .naturalMethod?_done ..
    · infer_instance

instance (owner : Known) (name : String) (v : Value) :
    Impartial way (takesFor owner name v) := by
  unfold takesFor
  split
  · infer_instance
  · split <;> infer_instance
  · exact .read fun _ _ => by simp

instance (owner : Known) (name : String) (v : Value) (given : Nat → Value) :
    Impartial way (runFunction call owner name v given) := by
  unfold runFunction
  split <;> infer_instance

instance (owner : Known) (name : String) (args : List Value) (named : Fields) :
    Impartial way (callOnClass call owner name args named) := by
  unfold callOnClass
  dsimp only
  split <;> infer_instance

instance (bound : Bool) (owner : Known) (name : String) (args : List Value) (named : Fields) :
    Impartial way (callNatural bound call owner name args named) := by
  unfold callNatural
  split <;> try infer_instance
  · split
    · refine .seq inferInstance fun _ => ?_
      dsimp only
      exact .seq (.read fun _ _ => by simp) inferInstance
    · split <;> infer_instance
  · split <;> infer_instance

end Act

end Covenant
