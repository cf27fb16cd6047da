import Covenant.Object.Render
import Covenant.Proofs.Span.Comparison
import Covenant.Report

/-!
# Attributes and texts

Reading an attribute asks the class of a value for it and may call special methods; what a value
looks like as a text and what is reported of it is read off its attributes. None of this asks for
the span.
-/

namespace Covenant

namespace Act

variable {way : Way} {call : Caller} [∀ f args named, Impartial way (call f args named)]

@[simp] theorem classText_under (m : Machine) (s : Span) (c : ClassRef) :
    classText (m.under s) c = classText m c := by
  cases c <;> rfl

@[simp] theorem directBases_under (m : Machine) (s : Span) (c : ClassRef) :
    directBases (m.under s) c = directBases m c := by
  unfold directBases
  simp only [Machine.lineage_under]

@[simp] theorem lookupOrder_under (m : Machine) (s : Span) (c : ClassRef) :
    lookupOrder (m.under s) c = lookupOrder m c := by
  unfold lookupOrder
  rw [Machine.lineage_under]

/-! ## Texts -/

instance (depth : Nat) (v : Value) : Impartial way (functionName depth v) := by
  induction depth generalizing v with
  | zero => exact .pure ""
  | succ depth ih =>
    unfold functionName
    refine .seq inferInstance fun _ => ?_
    split
    · infer_instance
    · split <;> try infer_instance
      refine .seq inferInstance fun _ => ?_
      split <;> infer_instance

instance (v : Value) : Impartial way (functionScope v) := by
  unfold functionScope
  split <;> try infer_instance
  refine .seq inferInstance fun _ => ?_
  split <;> infer_instance

instance (v : Value) : Impartial way (qualifiedFunctionName v) := by
  unfold qualifiedFunctionName
  refine .seq inferInstance fun _ => ?_
  split <;> infer_instance

instance (v : Value) : Impartial way (functionHome v) := by
  unfold functionHome
  split <;> try infer_instance
  refine .seq inferInstance fun _ => ?_
  split <;> infer_instance

instance (name : String) (v : Value) : Impartial way (asText name v) := by
  unfold asText
  split <;> infer_instance

instance (quoted : Value → Act String) (fields : Fields) [∀ a, Impartial way (quoted a)] :
    Impartial way (quotedFields quoted fields) := by
  unfold quotedFields
  infer_instance

instance {α : Type} (r : Except Format.LayoutError α) : Impartial way (laidOutBy r : Act α) := by
  unfold laidOutBy
  split <;> infer_instance

instance (n : Int) : Impartial way (decimalText n) := by
  unfold decimalText
  infer_instance

instance (r : Ref) (dots : String) (text : Act String) [Impartial way text] :
    Impartial way (guarded r dots text) := by
  unfold guarded
  exact .seq (.read fun _ _ => rfl) inferInstance

instance (quoted : Value → Act String) (entries : List (Value × Value))
    [∀ a, Impartial way (quoted a)] : Impartial way (quotedEntries quoted entries) := by
  unfold quotedEntries
  infer_instance

instance (quoted : Value → Act String) (v : Value) [∀ a, Impartial way (quoted a)] :
    Impartial way (quotedArgument quoted v) := by
  unfold quotedArgument
  split <;> infer_instance

instance (quoted : Value → Act String) (v : Value) [∀ a, Impartial way (quoted a)] :
    Impartial way (quotedByNature quoted v) := by
  unfold quotedByNature
  split <;> try infer_instance
  · refine .readAll (fun _ _ => by simp) fun _ => ?_
    infer_instance
  · refine .seq inferInstance fun _ => ?_
    split <;> try infer_instance
    · dsimp only
      split <;> infer_instance
    · refine .seq inferInstance fun _ => .seq inferInstance fun _ => ?_
      split <;> infer_instance

instance (depth : Nat) (form : String) (v : Value) :
    Impartial way (quotedFor call depth form v) := by
  induction depth generalizing form v with
  | zero => rw [quotedFor]; infer_instance
  | succ depth ih =>
    unfold quotedFor
    dsimp only
    split
    all_goals
      refine .seq inferInstance fun _ => ?_
      split <;> infer_instance

instance (depth : Nat) (v : Value) : Impartial way (quotedWithin call depth v) := by
  unfold quotedWithin
  infer_instance

instance (v : Value) : Impartial way (quotedText call v) :=
  .reading (fun m => quotedWithin call (m.heap.size + 4) v) (fun _ _ => rfl) inferInstance

instance (fields : Fields) : Impartial way (plainWithin.fieldsText call fields) := by
  unfold plainWithin.fieldsText
  infer_instance

instance (f : Fault) (verb single many shown : String) :
    Impartial way (codecText f verb single many shown) := by
  unfold codecText
  split <;> infer_instance

instance (quoted plain : Value → Act String) (r : Ref) (f : Fault)
    [∀ a, Impartial way (quoted a)] [∀ a, Impartial way (plain a)] :
    Impartial way (faultText quoted plain r f) := by
  unfold faultText
  refine .seq inferInstance fun _ => ?_
  split
  · infer_instance
  · split
    · infer_instance
    · split <;> infer_instance

instance (depth : Nat) (v : Value) : Impartial way (plainWithin call depth v) := by
  induction depth generalizing v with
  | zero => rw [plainWithin]; infer_instance
  | succ depth ih =>
    unfold plainWithin
    split <;> try infer_instance
    · refine .seq inferInstance fun _ => ?_
      split <;> infer_instance
    · refine .seq inferInstance fun _ => ?_
      split
      · infer_instance
      · refine .seq inferInstance fun _ => ?_
        split <;> infer_instance

instance (v : Value) : Impartial way (plainText call v) :=
  .reading (fun m => plainWithin call (m.heap.size + 4) v) (fun _ _ => rfl) inferInstance

instance (v : Value) (spec : String) : Impartial way (laidOutByNature call v spec) := by
  unfold laidOutByNature
  infer_instance

instance (v : Value) (spec : String) : Impartial way (laidOut call v spec) := by
  unfold laidOut
  split <;> try infer_instance
  refine .seq inferInstance fun _ => ?_
  split
  · split <;> infer_instance
  · split <;> try infer_instance
    refine .seq inferInstance fun _ => ?_
    split <;> infer_instance

instance (v : Value) : Impartial way (shown call v) := by
  unfold shown
  infer_instance

/-! ## Parts -/

instance (fields : Fields) : Impartial way (newFieldDict fields) := by
  unfold newFieldDict
  infer_instance

instance (name : String) : Impartial way (newAuxiliary name) := by
  unfold newAuxiliary
  infer_instance

instance (v : Value) : Impartial way (modelFields v) := by
  unfold modelFields
  split <;> infer_instance

instance (items : List Value) : Impartial way (newTuple items) := by
  unfold newTuple
  infer_instance

instance (v : Value) (name : String) : Impartial way (modelClassPart? v name) := by
  unfold modelClassPart?
  split <;> first | infer_instance | split <;> infer_instance

instance (v : Value) (name : String) : Impartial way (numberPart? v name) := by
  unfold numberPart?
  split <;> infer_instance

instance (c : ClassRef) (name : String) : Impartial way (classPart? c name) := by
  unfold classPart?
  refine .readAll (fun _ _ => by simp) fun _ => ?_
  split <;> first | infer_instance | split <;> infer_instance

instance (v : Value) : Impartial way (ownFields v) := by
  unfold ownFields
  split <;> try infer_instance
  · refine .seq (.read fun _ _ => rfl) fun _ => ?_
    split <;> infer_instance
  · refine .seq inferInstance fun _ => ?_
    split <;> infer_instance

instance (v : Value) (name : String) : Impartial way (modelPart? v name) := by
  unfold modelPart?
  dsimp only
  split <;> infer_instance

instance (f : Fault) (name : String) : Impartial way (faultPart? f name) := by
  unfold faultPart?
  dsimp only
  split <;> infer_instance

instance (v : Value) (name : String) : Impartial way (ownField? v name) := by
  unfold ownField?
  split
  · infer_instance
  · refine .seq inferInstance fun _ => ?_
    split <;> infer_instance

instance (v : Value) (name : String) : Impartial way (functionPart? v name) := by
  unfold functionPart?
  refine .seq inferInstance fun _ => ?_
  dsimp only
  split
  · refine .seq inferInstance fun _ => ?_
    split
    all_goals
      refine .seq inferInstance fun _ => ?_
      split <;> infer_instance
  · refine .seq inferInstance fun _ => ?_
    split <;> first | infer_instance | split <;> infer_instance

instance (v : Value) (owner : Known) (name : String) :
    Impartial way (computedPart? v owner name) := by
  unfold computedPart?
  split
  · infer_instance
  · split <;> try infer_instance
    · split <;> infer_instance
    · refine .seq inferInstance fun _ => ?_
      split
      · infer_instance
      · dsimp only
        split <;> infer_instance
    · split
      · refine .seq inferInstance fun _ => ?_
        split <;> infer_instance
      · infer_instance
    · split
      · refine .seq inferInstance fun _ => ?_
        split <;> infer_instance
      · infer_instance
    · split
      · refine .seq inferInstance fun _ => ?_
        split <;> infer_instance
      · infer_instance

instance (k : Known) (name : String) : Impartial way (heldPart? k name) := by
  unfold heldPart?
  dsimp only
  split <;> infer_instance

instance (name : String) (classes : List ClassRef) :
    Impartial way (heldAmong? name classes) := by
  induction classes with
  | nil => exact .pure none
  | cons c rest ih =>
    cases c with
    | made n => exact ih
    | known k =>
      unfold heldAmong?
      refine .seq inferInstance fun _ => ?_
      split <;> infer_instance

instance (c : ClassRef) (name : String) : Impartial way (membersPart? c name) := by
  unfold membersPart?
  split <;> infer_instance

/-! ## Attributes -/

instance (v : Value) (name : String) (e : Ref) : Impartial way (noteAttribute v name e) := by
  unfold noteAttribute
  refine .seq inferInstance fun _ => ?_
  split <;> infer_instance

instance {α : Type} (v : Value) (name : String) :
    Impartial way (failAttribute v name : Act α) := by
  unfold failAttribute
  split <;> infer_instance

instance (c : ClassRef) (owner : Known) (n : Nature) (name : String) :
    Impartial way (naturalThroughClass c owner n name) := by
  unfold naturalThroughClass
  dsimp only
  split <;> try infer_instance
  split <;> try infer_instance
  all_goals
    refine .seq inferInstance fun _ => ?_
    split <;> infer_instance

instance (self : Value) (owner : Known) (n : Nature) (name : String) :
    Impartial way (naturalThroughObject self owner n name) := by
  unfold naturalThroughObject
  dsimp only
  split <;> try infer_instance
  refine .seq inferInstance fun _ => ?_
  split <;> infer_instance

instance (c : ClassRef) (name : String) : Impartial way (lookUpInClass call c name) := by
  unfold lookUpInClass
  dsimp only
  split
  all_goals
    refine .seq inferInstance fun _ => ?_
    split
    · infer_instance
    · split
      · infer_instance
      · refine .seq inferInstance fun _ => ?_
        split <;> try infer_instance
        refine .seq (.read fun _ _ => by simp) fun _ => ?_
        split <;> try infer_instance
        split
        · infer_instance
        · refine .seq inferInstance fun _ => .seq inferInstance fun _ => ?_
          split
          · infer_instance
          · refine .seq inferInstance fun _ => ?_
            split <;> infer_instance

instance (v : Value) (name : String) : Impartial way (commonPart v name) := by
  unfold commonPart
  refine .seq inferInstance fun _ => ?_
  split
  · infer_instance
  · split
    · infer_instance
    · refine .seq inferInstance fun _ => .seq inferInstance fun _ => ?_
      split <;> infer_instance

instance (v : Value) (name : String) : Impartial way (lookUpInObject call v name) := by
  unfold lookUpInObject
  refine .seq inferInstance fun _ => .seq inferInstance fun _ => ?_
  split
  · refine .seq inferInstance fun _ => ?_
    dsimp only
    split
    all_goals
      refine .seq inferInstance fun _ => ?_
      split <;> infer_instance
  · dsimp only
    split
    all_goals
      refine .seq inferInstance fun _ => ?_
      split <;> infer_instance
  · refine .seq inferInstance fun _ => ?_
    split <;> infer_instance

instance (depth : Nat) (v : Value) : Impartial way (functionBehind depth v) := by
  induction depth generalizing v with
  | zero => exact .pure v
  | succ depth ih =>
    unfold functionBehind
    split
    · refine .seq inferInstance fun _ => ?_
      split <;> infer_instance
    · infer_instance

instance (v : Value) (name : String) : Impartial way (lookUp call v name) := by
  unfold lookUp
  split <;> try infer_instance
  refine .seq inferInstance fun _ => ?_
  split <;> try infer_instance
  refine .seq inferInstance fun _ => ?_
  dsimp only
  split
  · infer_instance
  · refine .seq inferInstance fun _ => ?_
    split <;> infer_instance

instance (v : Value) (name : String) : Impartial way (lookUpByClass call v name) := by
  unfold lookUpByClass
  refine .seq inferInstance fun _ => ?_
  split <;> infer_instance

instance (v : Value) (name : String) : Impartial way (getAttribute call v name) := by
  unfold getAttribute
  dsimp only
  refine .seq inferInstance fun _ => ?_
  split
  · infer_instance
  · refine .seq inferInstance fun _ => ?_
    split
    all_goals
      refine .seq inferInstance fun _ => ?_
      split
      · infer_instance
      · refine .seq inferInstance fun _ => ?_
        split <;> infer_instance

instance (v : Value) (name : String) : Impartial way (getAttribute? call v name) := by
  unfold getAttribute?
  refine .seq inferInstance fun _ => ?_
  split <;> infer_instance

instance (v : Value) : Impartial way (isCallable v) := by
  unfold isCallable
  split <;> try infer_instance
  refine .seq inferInstance fun _ => ?_
  split <;> infer_instance

/-! ## Reports -/

instance (v : Value) (name : String) : Impartial way (attributeOrNull call v name) := by
  unfold attributeOrNull
  refine .seq inferInstance fun _ => ?_
  split <;> infer_instance

instance (r : Ref) (name : String) : Impartial way (memberValue call r name) := by
  unfold memberValue
  infer_instance

instance (answer : Value → Act Answer) (r : Ref) [∀ a, Impartial way (answer a)] :
    Impartial way (faultDetails call answer r) := by
  unfold faultDetails
  refine .seq inferInstance fun _ => .seq inferInstance fun _ => ?_
  dsimp only
  split
  · refine .seq inferInstance fun _ => ?_
    split
    · refine .seq inferInstance fun _ => .seq inferInstance fun _ => ?_
      infer_instance
    · infer_instance
  · refine .seq inferInstance fun _ => .seq inferInstance fun _ => ?_
    split
    · refine .seq inferInstance fun _ => .seq inferInstance fun _ => ?_
      infer_instance
    · infer_instance

theorem faultChain_under (m : Machine) (s : Span) (steps : Nat) (seen : List Ref) (r : Ref) :
    faultChain (m.under s) steps seen r = faultChain m steps seen r := by
  induction steps generalizing seen r with
  | zero => rfl
  | succ steps ih =>
    rw [faultChain, faultChain, Machine.cell_under]
    simp only [ih]

instance (answer : Value → Act Answer) [∀ v, Impartial way (answer v)] (r : Ref) :
    Impartial way (faultAnswerBy call answer r) := by
  unfold faultAnswerBy
  dsimp only
  refine .seq inferInstance fun _ => .seq (.read fun m s => ?_) inferInstance
  exact faultChain_under m s _ _ r

instance (v : Value) (c : ClassRef) (fields : Fields) :
    Impartial way (objectAnswer call v c fields) := by
  unfold objectAnswer
  split <;> infer_instance

instance (depth : Nat) (v : Value) : Impartial way (answerWithin call depth v) := by
  induction depth generalizing v with
  | zero => rw [answerWithin]; infer_instance
  | succ depth ih =>
    unfold answerWithin
    dsimp only
    split <;> try infer_instance
    refine .seq inferInstance fun _ => ?_
    split <;> infer_instance

instance (v : Value) : Impartial way (answer call v) :=
  .reading (fun m => answerWithin call (min reportDepth (m.heap.size + 4)) v) (fun _ _ => rfl)
    inferInstance

instance (r : Ref) : Impartial way (faultAnswer call r) := by
  unfold faultAnswer
  infer_instance

instance (fields : Fields) : Impartial way (answerNamed call fields) := by
  unfold answerNamed
  infer_instance

/-! ## Templates -/

instance {α : Type} (e : Format.TemplateError) : Impartial way (failTemplate e : Act α) := by
  unfold failTemplate
  infer_instance

instance (supply : FieldSource) (numbering : Format.Numbering) (source : Format.Source) :
    Impartial way (fieldStart call supply numbering source) := by
  unfold fieldStart
  dsimp only
  split
  · split <;> first | infer_instance | split <;> infer_instance
  · split <;> first | infer_instance | split <;> infer_instance
  · infer_instance
  · split <;> infer_instance

instance (v : Value) (step : Format.Step) : Impartial way (walkStep call v step) := by
  unfold walkStep
  split <;> infer_instance

instance (mistake : Option Format.TemplateError) (v : Value) (steps : List Format.Step) :
    Impartial way (walk call mistake v steps) := by
  induction steps generalizing v with
  | nil =>
    unfold walk
    split <;> infer_instance
  | cons step rest ih =>
    unfold walk
    infer_instance

instance (v : Value) (conversion : Option Char) : Impartial way (convert call v conversion) := by
  unfold convert
  split <;> infer_instance

instance (supply : FieldSource)
    (nested : Format.Template → Format.Numbering → Act (String × Format.Numbering))
    (field : Format.Field) (numbering : Format.Numbering) [∀ a b, Impartial way (nested a b)] :
    Impartial way (renderField call supply nested field numbering) := by
  unfold renderField
  split <;> infer_instance

instance (supply : FieldSource)
    (nested : Format.Template → Format.Numbering → Act (String × Format.Numbering))
    [∀ t n, Impartial way (nested t n)] (pieces : List Format.Piece) (done : String)
    (numbering : Format.Numbering) :
    Impartial way (renderPieces call supply nested pieces done numbering) := by
  induction pieces generalizing done numbering with
  | nil => rw [renderPieces]; infer_instance
  | cons piece rest ih =>
    unfold renderPieces
    dsimp only
    split <;> infer_instance

instance (supply : FieldSource) (depth : Nat) (template : Format.Template)
    (numbering : Format.Numbering) :
    Impartial way (renderWithin call supply depth template numbering) := by
  induction depth generalizing template numbering with
  | zero => rw [renderWithin]; infer_instance
  | succ depth ih =>
    unfold renderWithin
    dsimp only
    refine .seq inferInstance fun _ => ?_
    split <;> infer_instance

instance (template : String) (supply : FieldSource) :
    Impartial way (renderFrom call template supply) := by
  unfold renderFrom
  infer_instance

instance (template : String) (args : List Value) (named : Fields) :
    Impartial way (render call template args named) := by
  unfold render
  infer_instance

instance (template : String) (mapping : Value) :
    Impartial way (renderMapped call template mapping) := by
  unfold renderMapped
  infer_instance

end Act

end Covenant
