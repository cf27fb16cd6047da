import Covenant.Object.Arithmetic
import Covenant.Proofs.Span.Attribute

/-!
# Conversion and arithmetic

Operators and conversions work on data alone or ask the operands for their special methods; either
way the span has no part in it.
-/

namespace Covenant

namespace Act

variable {way : Way} {call : Caller} [∀ f args named, Impartial way (call f args named)]

/-! ## Arguments -/

instance (title : String) (named : Fields) : Impartial way (withoutNames title named) := by
  unfold withoutNames
  infer_instance

instance (title : String) (args : List Value) (named : Fields) :
    Impartial way (onlyArgument title args named) := by
  unfold onlyArgument
  refine .seq inferInstance fun _ => ?_
  split <;> infer_instance

instance (s : NamedArguments) (args : List Value) (named : Fields) :
    Impartial way (namedArguments s args named) := by
  unfold namedArguments
  split
  · infer_instance
  · split <;> infer_instance

instance (title name : String) (least most : Nat) (args : List Value) (named : Fields) :
    Impartial way (placedArguments title name least most args named) := by
  unfold placedArguments
  infer_instance

instance (name : String) (args : List Value) (named : Fields) :
    Impartial way (conversionArgument name args named) := by
  unfold conversionArgument
  infer_instance

instance (place : String) (v : Value) : Impartial way (textArgument place v) := by
  unfold textArgument
  split <;> infer_instance

instance (title : String) (args : List Value) (named : Fields) :
    Impartial way (noArguments title args named) := by
  unfold noArguments
  infer_instance

instance (how : Invocation) (name : String) (least most : Nat) (args : List Value)
    (named : Fields) : Impartial way (countedArguments how name least most args named) := by
  unfold countedArguments
  infer_instance

/-! ## Calculation -/

instance (o : Arithmetic) (x y : Float) : Impartial way (floatArithmetic o x y) := by
  unfold floatArithmetic
  split <;> infer_instance

instance (n : Int) : Impartial way (asFloat n) := by
  unfold asFloat
  split <;> infer_instance

instance (o : Arithmetic) (a b : Int) : Impartial way (integerArithmetic o a b) := by
  unfold integerArithmetic
  split <;> try infer_instance
  split
  · infer_instance
  · split <;> infer_instance

instance (o : Arithmetic) (a b : Value) : Impartial way (numberArithmetic? o a b) := by
  unfold numberArithmetic?
  split
  · infer_instance
  · split <;> infer_instance
  · split <;> infer_instance
  · split <;> infer_instance

/-! ## Conversion -/

instance (x : Float) : Impartial way (integerOfFloat x) := by
  unfold integerOfFloat
  split <;> infer_instance

instance (v : Value) : Impartial way (ownInteger? call v) := by
  unfold ownInteger?
  refine .seq inferInstance fun _ => ?_
  split
  · split <;> infer_instance
  · refine .seq inferInstance fun _ => ?_
    split
    · infer_instance
    · refine .seq inferInstance fun _ => ?_
      split
      · infer_instance
      · refine .seq inferInstance fun _ => ?_
        split <;> infer_instance

instance (v : Value) : Impartial way (integerOfNumber? call v) := by
  unfold integerOfNumber?
  split
  · infer_instance
  · split <;> infer_instance

instance (v : Value) : Impartial way (ownFloat? call v) := by
  unfold ownFloat?
  refine .seq inferInstance fun _ => ?_
  split <;> try infer_instance
  refine .seq inferInstance fun _ => ?_
  split <;> infer_instance

instance (v : Value) : Impartial way (floatOfNumber? call v) := by
  unfold floatOfNumber?
  split <;> infer_instance

instance (base : Nat) (text quoted : String) :
    Impartial way (integerOfText base text quoted) := by
  unfold integerOfText
  split <;> infer_instance

instance (base : Nat) (v : Value) : Impartial way (integerOfNumeral? call base v) := by
  unfold integerOfNumeral?
  split <;> infer_instance

instance (v base : Value) : Impartial way (toIntegerInBase call v base) := by
  unfold toIntegerInBase
  refine .seq inferInstance fun _ => ?_
  split
  · infer_instance
  · refine .seq inferInstance fun _ => ?_
    split <;> infer_instance

instance (v : Value) : Impartial way (toInteger call v) := by
  unfold toInteger
  refine .seq inferInstance fun _ => ?_
  split
  · infer_instance
  · refine .seq inferInstance fun _ => ?_
    split <;> infer_instance

instance (args : List Value) (named : Fields) : Impartial way (newInteger call args named) := by
  unfold newInteger
  refine .seq inferInstance fun _ => ?_
  split <;> infer_instance

instance (text quoted : String) : Impartial way (floatOfText text quoted) := by
  unfold floatOfText
  split <;> infer_instance

instance (v : Value) : Impartial way (toFloat call v) := by
  unfold toFloat
  split <;> try infer_instance
  refine .seq inferInstance fun _ => ?_
  split
  · infer_instance
  · split <;> infer_instance

instance (place : String) (v : Option Value) : Impartial way (textOption? place v) := by
  unfold textOption?
  split <;> infer_instance

instance (name : String) : Impartial way (codecNamed name) := by
  unfold codecNamed
  split <;> infer_instance

instance (name : String) : Impartial way (remedyNamed name) := by
  unfold remedyNamed
  split <;> infer_instance

instance {α : Type} (cls : FaultClass) (codec : Text.Codec) (object : Value)
    (trouble : Text.Codec.Trouble) :
    Impartial way (failCodec cls codec object trouble : Act α) := by
  unfold failCodec
  infer_instance

instance (codec : Text.Codec) (errors : String) (whole : List UInt8) (limit position : Nat)
    (bytes : List UInt8) :
    Impartial way (decodeFrom codec errors whole limit position bytes) := by
  induction limit generalizing position bytes with
  | zero => rw [decodeFrom]; infer_instance
  | succ limit ih =>
    unfold decodeFrom
    dsimp only
    split
    · infer_instance
    · refine .seq inferInstance fun _ => ?_
      split <;> infer_instance

instance (codec : Text.Codec) (errors : String) (bytes : List UInt8) :
    Impartial way (decode codec errors bytes) := by
  unfold decode
  infer_instance

instance (args : List Value) (named : Fields) : Impartial way (newText call args named) := by
  unfold newText
  refine .seq inferInstance fun _ => ?_
  refine .seq inferInstance fun _ => .seq inferInstance fun _ => ?_
  split
  · infer_instance
  · split
    · infer_instance
    · split <;> infer_instance

instance (codec : Text.Codec) (errors text : String) :
    Impartial way (encode codec errors text) := by
  unfold encode
  split
  · infer_instance
  · refine .seq inferInstance fun _ => ?_
    split <;> infer_instance

instance (v : Value) : Impartial way (byteOf call v) := by
  unfold byteOf
  infer_instance

instance (v : Value) : Impartial way (bytesOfItems call v) := by
  unfold bytesOfItems
  refine .seq inferInstance fun _ => ?_
  split <;> infer_instance

instance (v : Value) : Impartial way (toBytes call v) := by
  unfold toBytes
  refine .seq inferInstance fun _ => ?_
  split <;> try infer_instance
  split
  · infer_instance
  · split
    · infer_instance
    · refine .seq inferInstance fun _ => ?_
      split <;> infer_instance

instance (args : List Value) (named : Fields) : Impartial way (newBytes call args named) := by
  unfold newBytes
  refine .seq inferInstance fun _ => ?_
  refine .seq inferInstance fun _ => .seq inferInstance fun _ => ?_
  dsimp only
  split <;> infer_instance

/-! ## Directives -/

instance (bytes : Bool) (v : Value) : Impartial way (isMapping bytes v) := by
  unfold isMapping
  split <;> try infer_instance
  refine .seq inferInstance fun _ => ?_
  split <;> infer_instance

instance (bytes : Bool) (v : Value) : Impartial way (supplyOf bytes v) := by
  unfold supplyOf
  refine .seq inferInstance fun _ => ?_
  dsimp only
  split
  · refine .seq inferInstance fun _ => ?_
    split <;> infer_instance
  · infer_instance

instance (s : Supply) : Impartial way (Supply.next s) := by
  unfold Supply.next
  split <;> infer_instance

instance (limit : Nat) (kind : String) (s : Supply) :
    Impartial way (askAmount limit kind s) := by
  unfold askAmount
  refine .seq inferInstance fun _ => ?_
  split
  split <;> infer_instance

instance (d : Format.Directive) (s : Supply) : Impartial way (settleWidth d s) := by
  unfold settleWidth
  split <;> infer_instance

instance (d : Format.Directive) (s : Supply) : Impartial way (settlePrecision d s) := by
  unfold settlePrecision
  split <;> infer_instance

instance (v : Value) : Impartial way (directiveBytes call v) := by
  unfold directiveBytes
  split
  · infer_instance
  · refine .seq inferInstance fun _ => ?_
    split <;> infer_instance

instance (bytes : Bool) (v : Value) : Impartial way (directiveCharacter? call bytes v) := by
  unfold directiveCharacter?
  dsimp only
  split
  · infer_instance
  · split <;> infer_instance

instance (bytes : Bool) (v : Value) : Impartial way (directiveCharacter call bytes v) := by
  unfold directiveCharacter
  split
  refine .seq inferInstance fun _ => ?_
  split <;> infer_instance

instance (v : Value) : Impartial way (isNumeric v) := by
  unfold isNumeric
  split <;> infer_instance

instance (bytes : Bool) (kind : Char) (v : Value) :
    Impartial way (directiveInteger call bytes kind v) := by
  unfold directiveInteger
  dsimp only
  refine .seq inferInstance fun _ => ?_
  split <;> infer_instance

instance (bytes : Bool) (v : Value) : Impartial way (directiveFloat call bytes v) := by
  unfold directiveFloat
  dsimp only
  split
  all_goals
    refine .seq inferInstance fun _ => ?_
    split <;> infer_instance

instance {α : Type} (kind : Char) (position : Nat) :
    Impartial way (failDirective kind position : Act α) := by
  unfold failDirective
  infer_instance

instance (bytes : Bool) (position : Nat) (d : Format.Directive) (width : Nat)
    (precision : Option Nat) (v : Value) :
    Impartial way (writeDirective call bytes position d width precision v) := by
  unfold writeDirective
  infer_instance

instance (bytes : Bool) (key : List Char) (d : Format.Directive) (s : Supply) :
    Impartial way (lookUpKey call bytes key d s) := by
  unfold lookUpKey
  split <;> infer_instance

instance (bytes : Bool) (position : Nat) (d : Format.Directive) (s : Supply) :
    Impartial way (workOff call bytes position d s) := by
  unfold workOff
  dsimp only
  split
  all_goals
    refine .seq inferInstance fun _ => .seq inferInstance fun _ => ?_
    refine .seq ?_ fun _ => ?_
    · split <;> infer_instance
    · refine .seq inferInstance fun _ => ?_
      refine .seq ?_ fun _ => inferInstance
      split <;> infer_instance

instance (bytes : Bool) (total limit : Nat) (chars : List Char) (s : Supply) :
    Impartial way (fillChars call bytes total limit chars s) := by
  induction limit generalizing chars s with
  | zero => rw [fillChars]; infer_instance
  | succ limit ih =>
    unfold fillChars
    dsimp only
    split <;> infer_instance

instance (bytes : Bool) (text : List Char) (v : Value) :
    Impartial way (fillByDirectives call bytes text v) := by
  unfold fillByDirectives
  infer_instance

instance (v args : Value) : Impartial way (percent? call v args) := by
  unfold percent?
  split <;> infer_instance

/-! ## Operators -/

instance (v : Value) (o : Arithmetic) : Impartial way (operationMethods v o) := by
  unfold operationMethods
  infer_instance

instance (self : Value) (method : Option Value) (other : Value) :
    Impartial way (askMethod call self method other) := by
  unfold askMethod
  split
  · infer_instance
  · refine .seq inferInstance fun _ => ?_
    split <;> infer_instance

instance (first second : Act (Option Value)) [Impartial way first] [Impartial way second] :
    Impartial way (orElse first second) := by
  unfold orElse
  refine .seq inferInstance fun _ => ?_
  split <;> infer_instance

instance (o : Arithmetic) (a b : Value) : Impartial way (askOperands call o a b) := by
  unfold askOperands
  refine .seq inferInstance fun _ => ?_
  split
  refine .seq inferInstance fun _ => ?_
  split
  refine .seq inferInstance fun _ => .seq inferInstance fun _ => ?_
  dsimp only
  split
  · infer_instance
  · split
    · infer_instance
    · exact .seq (.read fun _ _ => by simp) inferInstance

instance (v : Value) : Impartial way (asSequence? v) := by
  unfold asSequence?
  split <;> try infer_instance
  refine .seq inferInstance fun _ => ?_
  split <;> infer_instance

instance (s : Sequence) : Impartial way (ofSequence s) := by
  unfold ofSequence
  split <;> infer_instance

instance {α : Type} (s : Sequence) (b : Value) : Impartial way (failJoin s b : Act α) := by
  unfold failJoin
  refine .seq inferInstance fun _ => ?_
  split <;> infer_instance

instance (s : Sequence) (b : Value) : Impartial way (join s b) := by
  unfold join
  refine .seq inferInstance fun _ => ?_
  split <;> infer_instance

instance {α : Type} (s : Sequence) (length : Nat) :
    Impartial way (failLength s length : Act α) := by
  unfold failLength
  split
  · infer_instance
  · split <;> infer_instance

instance (s : Sequence) (count : Value) : Impartial way (repeatSequence call s count) := by
  unfold repeatSequence
  refine .seq inferInstance fun _ => ?_
  split <;> infer_instance

instance {α : Type} (sign : String) (a b : Value) :
    Impartial way (failOperands sign a b : Act α) := by
  unfold failOperands
  infer_instance

instance (sign : String) (o : Arithmetic) (a b : Value) :
    Impartial way (sequenceArithmetic call sign o a b) := by
  unfold sequenceArithmetic
  refine .seq inferInstance fun _ => .seq inferInstance fun _ => ?_
  split <;> infer_instance

instance (sign : String) (o : Arithmetic) (a b : Value) :
    Impartial way (otherArithmetic call sign o a b) := by
  unfold otherArithmetic
  dsimp only
  split
  all_goals
    refine .seq inferInstance fun _ => ?_
    split
    · infer_instance
    · refine .seq inferInstance fun _ => ?_
      split <;> infer_instance

instance (sign : String) (o : Arithmetic) (a b : Value) :
    Impartial way (arithmeticAs call sign o a b) := by
  unfold arithmeticAs
  refine .seq inferInstance fun _ => ?_
  split <;> infer_instance

instance (o : Arithmetic) (a b : Value) : Impartial way (arithmetic call o a b) := by
  unfold arithmetic
  infer_instance

instance (o : Arithmetic) (a b : Value) : Impartial way (arithmeticInPlace call o a b) := by
  unfold arithmeticInPlace
  dsimp only
  refine .seq inferInstance fun _ => ?_
  split
  · infer_instance
  · split
    · refine .seq inferInstance fun _ => ?_
      split
      · refine .seq inferInstance fun _ => ?_
        split <;> infer_instance
      · refine .seq inferInstance fun _ => .seq inferInstance fun _ => ?_
        split <;> infer_instance
    · refine .seq inferInstance fun _ => .seq inferInstance fun _ => ?_
      split <;> infer_instance

end Act

end Covenant
