import Covenant.Object.Method.Bytes
import Covenant.Object.Method.Text
import Covenant.Proofs.Span.Demo

/-!
# Methods of texts and byte strings

The methods of texts and byte strings take their arguments apart, by calls at most, and give values
made from characters and bytes.
-/

namespace Covenant

namespace Act

variable {way : Way} {call : Caller} [∀ f args named, Impartial way (call f args named)]

/-! ## Bounds -/

instance (v : Option Value) : Impartial way (sliceBound? call v) := by
  unfold sliceBound?
  split <;> try infer_instance
  refine .seq inferInstance fun _ => ?_
  split <;> infer_instance

instance (v : Value) : Impartial way (sizeArgument call v) := by
  unfold sizeArgument
  infer_instance

instance (whole : Nat) (v : Option Value) : Impartial way (limitArgument call whole v) := by
  unfold limitArgument
  split <;> infer_instance

instance (v : Value) : Impartial way (joinedItems call v) := by
  unfold joinedItems
  infer_instance

instance (width : Int) : Impartial way (checkWidth width) := by
  unfold checkWidth
  infer_instance

instance (v : Value) : Impartial way (smallArgument call v) := by
  unfold smallArgument
  infer_instance

/-! ## Texts -/

instance (v : Value) : Impartial way (TextMethod.charsOf v) := by
  unfold TextMethod.charsOf
  split <;> infer_instance

instance (how : Invocation) (name : String) (s : List Char) (args : List Value) (named : Fields) :
    Impartial way (TextMethod.search how call name s args named) := by
  unfold TextMethod.search
  refine .seq inferInstance fun _ => .seq inferInstance fun _ => ?_
  refine .seq inferInstance fun _ => .seq inferInstance fun _ => ?_
  dsimp only
  split <;> first | infer_instance | split <;> infer_instance

instance (name : String) (inside : List Char) (parts : List Value) :
    Impartial way (TextMethod.isAtEnd name inside parts) := by
  induction parts with
  | nil => exact .pure false
  | cons v rest ih =>
    unfold TextMethod.isAtEnd
    split <;> infer_instance

instance (how : Invocation) (name : String) (s : List Char) (args : List Value) (named : Fields) :
    Impartial way (TextMethod.atEnd how call name s args named) := by
  unfold TextMethod.atEnd
  refine .seq inferInstance fun _ => ?_
  refine .seq inferInstance fun _ => .seq inferInstance fun _ => ?_
  dsimp only
  split
  · refine .seq inferInstance fun _ => ?_
    split
    · split <;> infer_instance
    · infer_instance
  · split
    · split <;> infer_instance
    · infer_instance

instance (parts : List (List Char)) : Impartial way (TextMethod.listOf parts) := by
  unfold TextMethod.listOf
  infer_instance

instance (name : String) (s : List Char) (args : List Value) (named : Fields) :
    Impartial way (TextMethod.split call name s args named) := by
  unfold TextMethod.split
  refine .seq inferInstance fun _ => .seq inferInstance fun _ => ?_
  split
  · infer_instance
  · split <;> infer_instance

instance (how : Invocation) (name : String) (s : List Char) (args : List Value) (named : Fields) :
    Impartial way (TextMethod.partition how name s args named) := by
  unfold TextMethod.partition
  infer_instance

instance (position : Nat) (values : List Value) :
    Impartial way (TextMethod.textsFrom position values) := by
  induction values generalizing position with
  | nil => exact .pure []
  | cons v rest ih =>
    unfold TextMethod.textsFrom
    split <;> infer_instance

instance (how : Invocation) (s : List Char) (args : List Value) (named : Fields) :
    Impartial way (TextMethod.joinAll how call s args named) := by
  unfold TextMethod.joinAll
  infer_instance

instance (how : Invocation) (s : List Char) (args : List Value) (named : Fields) :
    Impartial way (TextMethod.replace how call s args named) := by
  unfold TextMethod.replace
  infer_instance

instance (how : Invocation) (name : String) (s : List Char) (args : List Value) (named : Fields) :
    Impartial way (TextMethod.stripEnds how name s args named) := by
  unfold TextMethod.stripEnds
  refine .seq inferInstance fun _ => ?_
  dsimp only
  split
  · infer_instance
  · split <;> infer_instance

instance (v : Option Value) : Impartial way (TextMethod.fillCharacter v) := by
  unfold TextMethod.fillCharacter
  split
  · infer_instance
  · split
    · infer_instance
    · split <;> infer_instance

instance (how : Invocation) (name : String) (s : List Char) (args : List Value) (named : Fields) :
    Impartial way (TextMethod.aligned how call name s args named) := by
  unfold TextMethod.aligned
  refine .seq inferInstance fun _ => .seq inferInstance fun _ => ?_
  refine .seq inferInstance fun _ => .seq inferInstance fun _ => ?_
  dsimp only
  split <;> infer_instance

instance (how : Invocation) (name : String) (s : List Char) (args : List Value) (named : Fields) :
    Impartial way (TextMethod.removeEnd how name s args named) := by
  unfold TextMethod.removeEnd
  infer_instance

instance (s : List Char) (args : List Value) (named : Fields) :
    Impartial way (TextMethod.lines call s args named) := by
  unfold TextMethod.lines
  refine .seq inferInstance fun _ => ?_
  dsimp only
  split <;> infer_instance

instance (s : List Char) (args : List Value) (named : Fields) :
    Impartial way (TextMethod.expanded call s args named) := by
  unfold TextMethod.expanded
  refine .seq inferInstance fun _ => ?_
  dsimp only
  split <;> infer_instance

instance (s : List Char) (args : List Value) (named : Fields) :
    Impartial way (TextMethod.encoded s args named) := by
  unfold TextMethod.encoded
  infer_instance

instance (table : Value) (c : Char) :
    Impartial way (TextMethod.translatedChar call table c) := by
  unfold TextMethod.translatedChar
  refine .seq inferInstance fun _ => ?_
  split <;> first | infer_instance | split <;> infer_instance

instance (how : Invocation) (s : List Char) (args : List Value) (named : Fields) :
    Impartial way (TextMethod.translated how call s args named) := by
  unfold TextMethod.translated
  infer_instance

instance (how : Invocation) (name text : String) (args : List Value) (named : Fields) :
    ImpartialIfAny way (TextMethod.run? how call name text args named) := by
  unfold TextMethod.run?
  dsimp only
  split
  · infer_instance
  · split <;> infer_instance

instance (v : Value) : Impartial way (TextMethod.tableKey v) := by
  unfold TextMethod.tableKey
  split <;> first | infer_instance | split <;> infer_instance

instance (v : Value) : Impartial way (TextMethod.tableOfDict call v) := by
  unfold TextMethod.tableOfDict
  dsimp only
  split
  · refine .seq inferInstance fun _ => ?_
    split <;> infer_instance
  · infer_instance

instance (args : List Value) (named : Fields) :
    Impartial way (TextMethod.newTable call args named) := by
  unfold TextMethod.newTable
  refine .seq inferInstance fun _ => ?_
  dsimp only
  split <;> try infer_instance
  refine .seq inferInstance fun _ => ?_
  split
  all_goals
    refine .seq inferInstance fun _ => ?_
    split <;> infer_instance

/-! ## Byte strings -/

instance (v : Value) : Impartial way (BytesMethod.partOf call v) := by
  unfold BytesMethod.partOf
  split
  · infer_instance
  · refine .seq inferInstance fun _ => ?_
    split <;> infer_instance

instance (how : Invocation) (name : String) (s : List UInt8) (args : List Value) (named : Fields) :
    Impartial way (BytesMethod.search how call name s args named) := by
  unfold BytesMethod.search
  refine .seq inferInstance fun _ => .seq inferInstance fun _ => ?_
  refine .seq inferInstance fun _ => .seq inferInstance fun _ => ?_
  dsimp only
  split <;> first | infer_instance | split <;> infer_instance

instance (v : Value) : Impartial way (BytesMethod.bytesOf v) := by
  unfold BytesMethod.bytesOf
  split <;> infer_instance

instance (name : String) (inside : Option (List UInt8)) (parts : List Value) :
    Impartial way (BytesMethod.isAtEnd name inside parts) := by
  induction parts with
  | nil => exact .pure false
  | cons v rest ih =>
    unfold BytesMethod.isAtEnd
    infer_instance

instance (how : Invocation) (name : String) (s : List UInt8) (args : List Value) (named : Fields) :
    Impartial way (BytesMethod.atEnd how call name s args named) := by
  unfold BytesMethod.atEnd
  refine .seq inferInstance fun _ => ?_
  refine .seq inferInstance fun _ => .seq inferInstance fun _ => ?_
  dsimp only
  split <;> try infer_instance
  refine .seq inferInstance fun _ => ?_
  split <;> infer_instance

instance (parts : List (List UInt8)) : Impartial way (BytesMethod.listOf parts) := by
  unfold BytesMethod.listOf
  infer_instance

instance (name : String) (s : List UInt8) (args : List Value) (named : Fields) :
    Impartial way (BytesMethod.split call name s args named) := by
  unfold BytesMethod.split
  refine .seq inferInstance fun _ => .seq inferInstance fun _ => ?_
  split
  · infer_instance
  · refine .seq inferInstance fun _ => ?_
    split <;> infer_instance

instance (how : Invocation) (name : String) (s : List UInt8) (args : List Value) (named : Fields) :
    Impartial way (BytesMethod.partition how name s args named) := by
  unfold BytesMethod.partition
  infer_instance

instance (position : Nat) (values : List Value) :
    Impartial way (BytesMethod.bytesFrom position values) := by
  induction values generalizing position with
  | nil => exact .pure []
  | cons v rest ih =>
    unfold BytesMethod.bytesFrom
    split <;> infer_instance

instance (how : Invocation) (s : List UInt8) (args : List Value) (named : Fields) :
    Impartial way (BytesMethod.joinAll how call s args named) := by
  unfold BytesMethod.joinAll
  infer_instance

instance (how : Invocation) (s : List UInt8) (args : List Value) (named : Fields) :
    Impartial way (BytesMethod.replace how call s args named) := by
  unfold BytesMethod.replace
  infer_instance

instance (how : Invocation) (name : String) (s : List UInt8) (args : List Value) (named : Fields) :
    Impartial way (BytesMethod.stripEnds how name s args named) := by
  unfold BytesMethod.stripEnds
  refine .seq inferInstance fun _ => ?_
  dsimp only
  split
  · refine .seq inferInstance fun _ => ?_
    split <;> infer_instance
  · refine .seq inferInstance fun _ => .seq inferInstance fun _ => ?_
    split <;> infer_instance

instance (how : Invocation) (name : String) (s : List UInt8) (args : List Value) (named : Fields) :
    Impartial way (BytesMethod.aligned how call name s args named) := by
  unfold BytesMethod.aligned
  refine .seq inferInstance fun _ => .seq inferInstance fun _ => ?_
  dsimp only
  split
  · refine .seq inferInstance fun _ => .seq inferInstance fun _ => ?_
    split <;> infer_instance
  · refine .seq inferInstance fun _ => .seq inferInstance fun _ => ?_
    split <;> infer_instance
  · refine .seq inferInstance fun _ => ?_
    refine .seq inferInstance fun _ => .seq inferInstance fun _ => ?_
    split <;> infer_instance

instance (how : Invocation) (name : String) (s : List UInt8) (args : List Value) (named : Fields) :
    Impartial way (BytesMethod.removeEnd how name s args named) := by
  unfold BytesMethod.removeEnd
  infer_instance

instance (s : List UInt8) (args : List Value) (named : Fields) :
    Impartial way (BytesMethod.lines call s args named) := by
  unfold BytesMethod.lines
  refine .seq inferInstance fun _ => ?_
  dsimp only
  split <;> infer_instance

instance (s : List UInt8) (args : List Value) (named : Fields) :
    Impartial way (BytesMethod.expanded call s args named) := by
  unfold BytesMethod.expanded
  refine .seq inferInstance fun _ => ?_
  dsimp only
  split <;> infer_instance

instance (s : List UInt8) (args : List Value) (named : Fields) :
    Impartial way (BytesMethod.decoded s args named) := by
  unfold BytesMethod.decoded
  infer_instance

instance (s : List UInt8) (args : List Value) (named : Fields) :
    Impartial way (BytesMethod.translated s args named) := by
  unfold BytesMethod.translated
  refine .seq inferInstance fun _ => ?_
  dsimp only
  split
  · refine .seq inferInstance fun _ => ?_
    split <;> infer_instance
  · refine .seq inferInstance fun _ => ?_
    split
    all_goals
      refine .seq inferInstance fun _ => ?_
      split <;> infer_instance

instance (v : Value) : Impartial way (BytesMethod.separatorOf call v) := by
  unfold BytesMethod.separatorOf
  refine .seq inferInstance fun _ => ?_
  split
  · infer_instance
  · split <;> first | infer_instance | split <;> infer_instance

instance (s : List UInt8) (args : List Value) (named : Fields) :
    Impartial way (BytesMethod.hexText call s args named) := by
  unfold BytesMethod.hexText
  refine .seq inferInstance fun _ => ?_
  dsimp only
  split
  all_goals
    refine .seq inferInstance fun _ => ?_
    split <;> infer_instance

instance (how : Invocation) (name : String) (s : List UInt8) (args : List Value) (named : Fields) :
    ImpartialIfAny way (BytesMethod.run? how call name s args named) := by
  unfold BytesMethod.run?
  split
  · infer_instance
  · split <;> infer_instance

instance (args : List Value) (named : Fields) :
    Impartial way (BytesMethod.fromHex args named) := by
  unfold BytesMethod.fromHex
  refine .seq inferInstance fun _ => .seq inferInstance fun _ => ?_
  split <;> infer_instance

instance (args : List Value) (named : Fields) :
    Impartial way (BytesMethod.tableOf args named) := by
  unfold BytesMethod.tableOf
  infer_instance

end Act

end Covenant
