import Covenant.Object.Method.Dict
import Covenant.Object.Method.Fault
import Covenant.Object.Method.Number
import Covenant.Object.Method.Sequence
import Covenant.Proofs.Span.TextMethod

/-!
# Methods of numbers, sequences, dictionaries and faults

What these methods change are cells, and what they ask for are arguments and, in sorting and
searching, the order of items. Sorting goes through items run by run, so its parts are proved
impartial by induction on the items that are left.
-/

namespace Covenant

namespace Act

variable {way : Way} {call : Caller} [∀ f args named, Impartial way (call f args named)]

/-! ## Numbers -/

instance (a b : Value) : Impartial way (NumberMethod.pair a b) := by
  unfold NumberMethod.pair
  infer_instance

instance (x : Float) : Impartial way (NumberMethod.ratioOf x) := by
  unfold NumberMethod.ratioOf
  split <;> infer_instance

instance (x : Float) (round : Number.Binary → Int) :
    Impartial way (NumberMethod.whole x round) := by
  unfold NumberMethod.whole
  split <;> infer_instance

instance (v : Value) (x : Float) (args : List Value) (named : Fields) :
    Impartial way (NumberMethod.roundFloat call v x args named) := by
  unfold NumberMethod.roundFloat
  refine .seq inferInstance fun _ => ?_
  split
  · infer_instance
  · refine .seq inferInstance fun _ => ?_
    split
    · infer_instance
    · split
      · infer_instance
      · split
        · infer_instance
        · split <;> infer_instance

instance (name : String) (v : Value) (x : Float) (args : List Value) (named : Fields) :
    ImpartialIfAny way (NumberMethod.onFloat? call name v x args named) := by
  unfold NumberMethod.onFloat?
  dsimp only
  split <;> infer_instance

instance (how : Invocation) (n : Int) (args : List Value) (named : Fields) :
    Impartial way (NumberMethod.roundInteger how call n args named) := by
  unfold NumberMethod.roundInteger
  refine .seq inferInstance fun _ => ?_
  split <;> infer_instance

instance (order : String) : Impartial way (NumberMethod.greatestFirst order) := by
  unfold NumberMethod.greatestFirst
  infer_instance

instance (n : Int) (args : List Value) (named : Fields) :
    Impartial way (NumberMethod.toBytes call n args named) := by
  unfold NumberMethod.toBytes
  refine .seq inferInstance fun _ => ?_
  dsimp only
  split
  all_goals
    refine .seq inferInstance fun _ => .seq inferInstance fun _ => ?_
    split <;> infer_instance

instance (how : Invocation) (name : String) (v : Value) (n : Int) (args : List Value)
    (named : Fields) :
    ImpartialIfAny way (NumberMethod.onInteger? how call name v n args named) := by
  unfold NumberMethod.onInteger?
  dsimp only
  split <;> infer_instance

instance (args : List Value) (named : Fields) :
    Impartial way (NumberMethod.fromHexadecimal args named) := by
  unfold NumberMethod.fromHexadecimal
  refine .seq inferInstance fun _ => ?_
  split
  · infer_instance
  · split <;> infer_instance

instance (cls : Value) (args : List Value) (named : Fields) :
    Impartial way (NumberMethod.fromBytes call cls args named) := by
  unfold NumberMethod.fromBytes
  refine .seq inferInstance fun _ => .seq inferInstance fun _ => ?_
  dsimp only
  split
  all_goals
    refine .seq inferInstance fun _ => .seq inferInstance fun _ => ?_
    split
    · refine .seq inferInstance fun _ => ?_
      split <;> infer_instance
    · split
      · refine .seq inferInstance fun _ => ?_
        refine .seq inferInstance fun _ => .seq inferInstance fun _ => ?_
        split
        all_goals
          refine .seq inferInstance fun _ => ?_
          split <;> infer_instance
      · refine .seq inferInstance fun _ => ?_
        split
        all_goals
          refine .seq inferInstance fun _ => ?_
          split <;> infer_instance

/-! ## Sequences -/

instance (title : String) (r : Ref) (items args : List Value) (named : Fields) :
    Impartial way (SequenceMethod.change title r items args named) := by
  unfold SequenceMethod.change
  infer_instance

instance (v : Value) (values : List Value) :
    Impartial way (SequenceMethod.countEqual call v values) := by
  induction values with
  | nil => exact .pure 0
  | cons w rest ih =>
    unfold SequenceMethod.countEqual
    infer_instance

instance (otherwise : Int) (v : Option Value) :
    Impartial way (SequenceMethod.searchBound call otherwise v) := by
  unfold SequenceMethod.searchBound
  split
  · infer_instance
  · refine .seq inferInstance fun _ => ?_
    split <;> infer_instance

instance (v : Value) (position : Nat) (values : List Value) :
    Impartial way (SequenceMethod.positionFrom? call v position values) := by
  induction values generalizing position with
  | nil => exact .pure none
  | cons w rest ih =>
    unfold SequenceMethod.positionFrom?
    infer_instance

instance (missing : Value → Act String) (title : String) (items args : List Value)
    (named : Fields) [∀ a, Impartial way (missing a)] :
    Impartial way (SequenceMethod.position call missing title items args named) := by
  unfold SequenceMethod.position
  refine .seq inferInstance fun _ => ?_
  dsimp only
  refine .seq inferInstance fun _ => .seq inferInstance fun _ => ?_
  split
  all_goals
    refine .seq inferInstance fun _ => ?_
    split <;> infer_instance

instance (r : Ref) (items args : List Value) (named : Fields) :
    Impartial way (SequenceMethod.insert call r items args named) := by
  unfold SequenceMethod.insert
  infer_instance

instance (r : Ref) (items args : List Value) (named : Fields) :
    Impartial way (SequenceMethod.pop call r items args named) := by
  unfold SequenceMethod.pop
  refine .seq inferInstance fun _ => ?_
  dsimp only
  split
  all_goals
    refine .seq inferInstance fun _ => ?_
    split
    · infer_instance
    · split <;> infer_instance

instance (r : Ref) (items : List Value) (v : Value) :
    Impartial way (SequenceMethod.remove call r items v) := by
  unfold SequenceMethod.remove
  refine .seq inferInstance fun _ => ?_
  split
  · refine .seq inferInstance fun _ => ?_
    split <;> infer_instance
  · infer_instance

instance (key : Value) (items : List Value) :
    Impartial way (SequenceMethod.withKeys call key items) := by
  unfold SequenceMethod.withKeys
  split <;> infer_instance

instance (less : Value → Value → Act Bool) [∀ a b, Impartial way (less a b)] (down : Bool)
    (last : Value) (whole : List (Value × Value)) :
    Impartial way (SequenceMethod.runLength less down last whole) := by
  induction whole generalizing last with
  | nil => exact .pure 0
  | cons entry rest ih =>
    unfold SequenceMethod.runLength
    infer_instance

instance (less : Value → Value → Act Bool) (whole : List (Value × Value))
    [∀ a b, Impartial way (less a b)] :
    Impartial way (SequenceMethod.firstRun less whole) := by
  unfold SequenceMethod.firstRun
  split <;> infer_instance

instance (less : Value → Value → Act Bool) [∀ a b, Impartial way (less a b)]
    (sorted : List (Value × Value)) (key : Value) (steps low high : Nat) :
    Impartial way (SequenceMethod.placeBetween less sorted key steps low high) := by
  induction steps generalizing low high with
  | zero => exact .pure low
  | succ steps ih =>
    unfold SequenceMethod.placeBetween
    split
    · dsimp only
      split <;> infer_instance
    · infer_instance

instance (less : Value → Value → Act Bool) [∀ a b, Impartial way (less a b)]
    (sorted whole : List (Value × Value)) :
    Impartial way (SequenceMethod.insertAll less sorted whole) := by
  induction whole generalizing sorted with
  | nil => rw [SequenceMethod.insertAll]; infer_instance
  | cons entry rest ih =>
    unfold SequenceMethod.insertAll
    refine .seq inferInstance fun _ => ?_
    split <;> infer_instance

instance (whole : List (Value × Value)) :
    Impartial way (SequenceMethod.sortByKeys call whole) := by
  unfold SequenceMethod.sortByKeys
  dsimp only
  refine .seq inferInstance fun _ => ?_
  split <;> infer_instance

instance (r : Ref) (items args : List Value) (named : Fields) :
    Impartial way (SequenceMethod.sort call r items args named) := by
  unfold SequenceMethod.sort
  refine .seq inferInstance fun _ => ?_
  dsimp only
  split
  · refine .seq inferInstance fun _ => ?_
    refine .seq inferInstance fun _ => .seq inferInstance fun _ => ?_
    split
    · infer_instance
    · refine .seq inferInstance fun _ => .seq inferInstance fun _ => ?_
      split
      all_goals
        refine .seq inferInstance fun _ => .seq inferInstance fun _ => ?_
        split <;> infer_instance
  · refine .seq inferInstance fun _ => .seq inferInstance fun _ => ?_
    refine .seq inferInstance fun _ => .seq inferInstance fun _ => ?_
    split
    · infer_instance
    · refine .seq inferInstance fun _ => .seq inferInstance fun _ => ?_
      split
      all_goals
        refine .seq inferInstance fun _ => .seq inferInstance fun _ => ?_
        split <;> infer_instance

instance (name : String) (items : List Value) :
    Impartial way (SequenceMethod.backwards name items) := by
  unfold SequenceMethod.backwards
  infer_instance

instance (name : String) (r : Ref) (items args : List Value) (named : Fields) :
    ImpartialIfAny way (SequenceMethod.onList? call name r items args named) := by
  unfold SequenceMethod.onList?
  dsimp only
  split <;> infer_instance

instance (name : String) (v : Value) (items args : List Value) (named : Fields) :
    ImpartialIfAny way (SequenceMethod.onTuple? call name v items args named) := by
  unfold SequenceMethod.onTuple?
  dsimp only
  split <;> infer_instance

/-! ## Dictionaries -/

instance (r : Ref) : Impartial way (dictEntries r) := by
  unfold dictEntries
  refine .seq inferInstance fun _ => ?_
  split <;> infer_instance

instance (r : Ref) (key v : Value) : Impartial way (putEntry call r key v) := by
  unfold putEntry
  infer_instance

instance (r : Ref) (source : Value) : Impartial way (takeByKeys call r source) := by
  unfold takeByKeys
  infer_instance

instance (r : Ref) (position : Nat) (pair : Value) :
    Impartial way (takePair call r position pair) := by
  unfold takePair
  dsimp only
  refine .seq inferInstance fun _ => ?_
  split
  · refine .seq inferInstance fun _ => ?_
    split <;> infer_instance
  · refine .seq inferInstance fun _ => ?_
    split
    all_goals
      refine .seq inferInstance fun _ => ?_
      split <;> infer_instance

instance (r : Ref) (source : Value) : Impartial way (takeEntries call r source) := by
  unfold takeEntries
  dsimp only
  split
  · refine .seq inferInstance fun _ => ?_
    split
    · infer_instance
    · refine .seq inferInstance fun _ => ?_
      split <;> infer_instance
  · refine .seq inferInstance fun _ => ?_
    split <;> infer_instance

instance (name : String) (r : Ref) (args : List Value) (named : Fields) :
    Impartial way (updateDict call name r args named) := by
  unfold updateDict
  infer_instance

instance (entries : List (Value × Value)) (args : List Value) (named : Fields) :
    Impartial way (DictMethod.get call entries args named) := by
  unfold DictMethod.get
  infer_instance

instance (r : Ref) (args : List Value) (named : Fields) :
    Impartial way (DictMethod.setDefault call r args named) := by
  unfold DictMethod.setDefault
  refine .seq inferInstance fun _ => ?_
  dsimp only
  refine .seq inferInstance fun _ => ?_
  refine .seq inferInstance fun _ => .seq inferInstance fun _ => ?_
  split <;> infer_instance

instance (r : Ref) (args : List Value) (named : Fields) :
    Impartial way (DictMethod.pop call r args named) := by
  unfold DictMethod.pop
  refine .seq inferInstance fun _ => ?_
  dsimp only
  refine .seq inferInstance fun _ => ?_
  split
  · split <;> infer_instance
  · refine .seq inferInstance fun _ => ?_
    split
    · infer_instance
    · split <;> infer_instance

instance (r : Ref) (args : List Value) (named : Fields) :
    Impartial way (DictMethod.popItem r args named) := by
  unfold DictMethod.popItem
  refine .seq inferInstance fun _ => .seq inferInstance fun _ => ?_
  split <;> infer_instance

instance (name : String) (r : Ref) (entries : List (Value × Value)) (args : List Value)
    (named : Fields) : ImpartialIfAny way (DictMethod.run? call name r entries args named) := by
  unfold DictMethod.run?
  dsimp only
  split <;> infer_instance

instance (name : String) (part : Part) (r : Ref) (args : List Value) (named : Fields) :
    ImpartialIfAny way (DictMethod.onView? call name part r args named) := by
  unfold DictMethod.onView?
  dsimp only
  split <;> infer_instance

instance (args : List Value) (named : Fields) :
    Impartial way (DictMethod.fromKeys call args named) := by
  unfold DictMethod.fromKeys
  infer_instance

/-! ## Faults -/

instance [way.Loose] (how : Invocation) (v : Value) (args : List Value) (named : Fields) :
    Impartial way (FaultMethod.addNote how call v args named) := by
  unfold FaultMethod.addNote
  refine .seq inferInstance fun _ => ?_
  split
  · infer_instance
  · refine .seq inferInstance fun _ => ?_
    dsimp only
    split
    · refine .seq inferInstance fun _ => ?_
      split
      · refine .seq inferInstance fun _ => ?_
        split <;> infer_instance
      · infer_instance
    · refine .seq inferInstance fun _ => ?_
      refine .seq inferInstance fun _ => .seq inferInstance fun _ => ?_
      split
      · refine .seq inferInstance fun _ => ?_
        split <;> infer_instance
      · infer_instance

instance [way.Loose] (how : Invocation) (v : Value) (args : List Value) (named : Fields) :
    Impartial way (FaultMethod.setState how call v args named) := by
  unfold FaultMethod.setState
  dsimp only
  refine .seq inferInstance fun _ => ?_
  split <;> try infer_instance
  refine .seq inferInstance fun _ => ?_
  split <;> infer_instance

instance (failure : Failure) : Impartial way (FaultMethod.problems failure) := by
  unfold FaultMethod.problems
  infer_instance

instance [way.Loose] (how : Invocation) (name : String) (v : Value) (f : Fault) (args : List Value)
    (named : Fields) : ImpartialIfAny way (FaultMethod.run? how call name v f args named) := by
  unfold FaultMethod.run?
  split <;> try infer_instance
  refine .here ?_
  refine .seq inferInstance fun _ => ?_
  dsimp only
  split <;> infer_instance

end Act

end Covenant
