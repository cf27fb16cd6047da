import Covenant.Object.Collection
import Covenant.Proofs.Span.Value

/-!
# Comparing, iterating, looking up

Comparison, iteration and the look-up of keys and items go through values one by one and ask their
classes, by calls if these have special methods. They are impartial as far as calls are; what is
nested or long is gone through by induction.
-/

namespace Covenant

@[simp] theorem Machine.recordNames?_under (m : Machine) (s : Span) (c : ClassRef) :
    (m.under s).recordNames? c = m.recordNames? c := by
  simp [recordNames?]

namespace Act

variable {way : Way} {call : Caller} [∀ f args named, Impartial way (call f args named)]

instance (c : ClassRef) : Impartial way (read (·.recordNames? c)) :=
  .read fun _ _ => by simp

instance (i : Nat) : Impartial way (read (settingFields · i)) :=
  .read fun _ _ => rfl

/-! ## Equality and order -/

instance (part : Part) (dict : Ref) : Impartial way (viewItems part dict) := by
  unfold viewItems
  refine .seq inferInstance fun _ => ?_
  split
  · split <;> infer_instance
  · infer_instance

instance {α : Type} (c : Comparison) (a b : Value) :
    Impartial way (failOrder c a b : Act α) := by
  unfold failOrder
  infer_instance

instance (equal : Value → Value → Act Bool) [∀ a b, Impartial way (equal a b)]
    (xs ys : List Value) : Impartial way (firstDifference equal xs ys) := by
  induction xs generalizing ys with
  | nil => exact .pure none
  | cons x xs ih =>
    cases ys with
    | nil => exact .pure none
    | cons y ys =>
      rw [firstDifference]
      infer_instance

instance (compare : Compare) (a b : Value) [∀ c a b, Impartial way (compare c a b)] :
    Impartial way (equalBy call compare a b) := by
  unfold equalBy
  infer_instance

instance (compare : Compare) (lists : Bool) (c : Comparison) (xs ys : List Value)
    [∀ c a b, Impartial way (compare c a b)] :
    Impartial way (compareSequences call compare lists c xs ys) := by
  unfold compareSequences
  split
  · infer_instance
  · refine .seq inferInstance fun _ => ?_
    split
    · infer_instance
    · split <;> infer_instance

instance (compare : Compare) [∀ c a b, Impartial way (compare c a b)] (key : Value)
    (entries : List (Value × Value)) :
    Impartial way (equalEntries.findEntry call compare key entries) := by
  induction entries with
  | nil => exact .pure none
  | cons entry rest ih =>
    rw [equalEntries.findEntry]
    infer_instance

instance (compare : Compare) [∀ c a b, Impartial way (compare c a b)]
    (xs ys : List (Value × Value)) : Impartial way (equalEntries call compare xs ys) := by
  induction xs with
  | nil => exact .pure true
  | cons entry rest ih =>
    rw [equalEntries]
    refine .seq inferInstance fun _ => ?_
    split <;> infer_instance

instance (compare : Compare) (xs ys : List (Value × Value))
    [∀ c a b, Impartial way (compare c a b)] :
    Impartial way (equalDicts call compare xs ys) := by
  unfold equalDicts
  infer_instance

instance (equal : Value → Value → Act Bool) [∀ a b, Impartial way (equal a b)] (x : Value)
    (ys : List Value) : Impartial way (allAmong.among equal x ys) := by
  induction ys with
  | nil => exact .pure false
  | cons y ys ih =>
    rw [allAmong.among]
    infer_instance

instance (equal : Value → Value → Act Bool) [∀ a b, Impartial way (equal a b)]
    (xs ys : List Value) : Impartial way (allAmong equal xs ys) := by
  induction xs with
  | nil => exact .pure true
  | cons x rest ih =>
    rw [allAmong]
    infer_instance

instance (compare : Compare) (c : Comparison) (a b : Cell)
    [∀ c a b, Impartial way (compare c a b)] :
    Impartial way (compareCells call compare c a b) := by
  unfold compareCells
  dsimp only
  split <;> try infer_instance
  · split <;> infer_instance
  · split <;> infer_instance
  · refine .seq inferInstance fun _ => ?_
    split
    · split
      · split <;> infer_instance
      · infer_instance
    · infer_instance
  · split <;> infer_instance
  · split <;> infer_instance
  · split
    · infer_instance
    · refine .seq inferInstance fun _ => .seq inferInstance fun _ => ?_
      split <;> first | infer_instance | split <;> infer_instance

instance (compare : Compare) (c : Comparison) (a b : Value)
    [∀ c a b, Impartial way (compare c a b)] :
    Impartial way (compareByNature call compare c a b) := by
  unfold compareByNature
  split
  · infer_instance
  · dsimp only
    split
    · refine .seq inferInstance fun _ => ?_
      refine .seq inferInstance fun _ => .seq inferInstance fun _ => ?_
      split <;> infer_instance
    · refine .seq inferInstance fun _ => .seq inferInstance fun _ => ?_
      split
      · refine .seq inferInstance fun _ => .seq inferInstance fun _ => ?_
        split <;> infer_instance
      · refine .seq inferInstance fun _ => ?_
        split <;> infer_instance
    · refine .seq inferInstance fun _ => ?_
      split <;> infer_instance

instance (compare : Compare) (c : Comparison) (self other : Value)
    [∀ c a b, Impartial way (compare c a b)] :
    Impartial way (compareByClass call compare c self other) := by
  unfold compareByClass
  refine .seq inferInstance fun _ => ?_
  split <;> try infer_instance
  split
  · refine .seq inferInstance fun _ => ?_
    split <;> infer_instance
  · infer_instance

instance (compare : Compare) (c : Comparison) (a b : Value)
    [∀ c a b, Impartial way (compare c a b)] :
    Impartial way (compareByClasses call compare c a b) := by
  unfold compareByClasses
  refine .seq inferInstance fun _ => ?_
  refine .seq inferInstance fun _ => .seq (.read fun _ _ => by simp) fun _ => ?_
  dsimp only
  split
  all_goals
    refine .seq inferInstance fun _ => ?_
    split
    · infer_instance
    · refine .seq inferInstance fun _ => ?_
      split
      · infer_instance
      · split <;> infer_instance

instance (depth : Nat) (c : Comparison) (a b : Value) :
    Impartial way (compareWithin call depth c a b) := by
  induction depth generalizing c a b with
  | zero => unfold compareWithin; infer_instance
  | succ depth ih =>
    unfold compareWithin
    split <;> infer_instance

instance (c : Comparison) (a b : Value) : Impartial way (compare call c a b) :=
  .reading (fun m => compareWithin call (m.heap.size + 2) c a b) (fun _ _ => rfl) inferInstance

instance (c : Comparison) (a b : Value) : Impartial way (holds call c a b) := by
  unfold holds
  infer_instance

instance (a b : Value) : Impartial way (equal call a b) := by
  unfold equal
  infer_instance

/-! ## Iteration -/

instance {α : Type} (v : Value) : Impartial way (failIterable v : Act α) := by
  unfold failIterable
  infer_instance

instance (v : Value) : Impartial way (isIterator v) := by
  unfold isIterator
  split
  · refine .seq inferInstance fun _ => ?_
    split <;> infer_instance
  · infer_instance

instance (v : Value) : Impartial way (iterateObject call v) := by
  unfold iterateObject
  refine .seq inferInstance fun _ => ?_
  split <;> infer_instance

instance (fields : Fields) : Impartial way (pairsOf fields) := by
  unfold pairsOf
  infer_instance

instance (v : Value) : Impartial way (presentItems? v) := by
  unfold presentItems?
  split <;> try infer_instance
  refine .seq inferInstance fun _ => ?_
  split <;> infer_instance

instance (v : Value) : Impartial way (iterate call v) := by
  unfold iterate
  split
  all_goals
    refine .seq inferInstance fun _ => ?_
    split <;> infer_instance

instance (x1 : Iteration) : Impartial way (step call x1) := by
  unfold step
  split <;> try infer_instance
  · refine .seq inferInstance fun _ => ?_
    split <;> infer_instance
  · refine .seq inferInstance fun _ => ?_
    split
    · infer_instance
    · refine .seq inferInstance fun _ => ?_
      split
      · split <;> infer_instance
      · infer_instance
  · refine .seq inferInstance fun _ => ?_
    split <;> infer_instance

instance (v : Value) : Impartial way (next? call v) := by
  unfold next?
  dsimp only
  split
  · refine .seq inferInstance fun _ => ?_
    split
    all_goals
      refine .seq inferInstance fun _ => ?_
      split <;> infer_instance
  · refine .seq inferInstance fun _ => ?_
    split <;> infer_instance

instance (iteration : Iteration) : Impartial way (advance call iteration) := by
  unfold advance
  split <;> infer_instance

instance {β : Type} (f : β → Value → Act (Progress β)) [∀ b v, Impartial way (f b v)]
    (limit : Nat) (b : β) (iteration : Iteration) :
    Impartial way (followWithin call f limit b iteration) := by
  induction limit generalizing b iteration with
  | zero => rw [followWithin]; infer_instance
  | succ limit ih =>
    rw [followWithin]
    refine .seq inferInstance fun _ => ?_
    split
    · infer_instance
    · refine .seq inferInstance fun _ => ?_
      split <;> infer_instance

instance {β : Type} (v : Value) (b : β) (f : β → Value → Act (Progress β))
    [∀ a b, Impartial way (f a b)] : Impartial way (through call v b f) := by
  unfold through
  infer_instance

instance {α : Type} (asked : Act (Option α)) [Impartial way asked] :
    Impartial way (unlessTypeError? asked : Act (Option α)) := by
  unfold unlessTypeError?
  refine .seq inferInstance fun _ => ?_
  split <;> infer_instance

instance (v : Value) : Impartial way (lengthHint call v) := by
  unfold lengthHint
  refine .seq inferInstance fun _ => ?_
  split
  · infer_instance
  · refine .seq inferInstance fun _ => ?_
    split <;> first | infer_instance | split <;> infer_instance

instance (iteration : Iteration) : Impartial way (gather call iteration) := by
  unfold gather
  infer_instance

instance (v : Value) : Impartial way (items call v) := by
  unfold items
  refine .seq inferInstance fun _ => ?_
  split <;> infer_instance

instance (v : Value) (refuse : Act (List Value)) [Impartial way refuse] :
    Impartial way (itemsOr call v refuse) := by
  unfold itemsOr
  refine .seq inferInstance fun _ => ?_
  split
  · infer_instance
  · refine .seq inferInstance fun _ => ?_
    split <;> infer_instance

instance (v : Value) : Impartial way (newIterator call v) := by
  unfold newIterator
  dsimp only
  split
  · refine .seq inferInstance fun _ => ?_
    split
    all_goals
      refine .seq inferInstance fun _ => .seq inferInstance fun _ => ?_
      split <;> infer_instance
  · refine .seq inferInstance fun _ => .seq inferInstance fun _ => ?_
    split <;> infer_instance

/-! ## Keys -/

instance (depth : Nat) (v : Value) : Impartial way (hashWithin call depth v) := by
  induction depth generalizing v with
  | zero => rw [hashWithin]; infer_instance
  | succ depth ih =>
    unfold hashWithin
    dsimp only
    refine .seq inferInstance fun _ => ?_
    split
    · split <;> try infer_instance
      refine .seq inferInstance fun _ => ?_
      split <;> try infer_instance
      refine .seq inferInstance fun _ => ?_
      split <;> infer_instance
    · infer_instance
    · refine .seq inferInstance fun _ => ?_
      split <;> infer_instance

instance (v : Value) : Impartial way (hash call v) :=
  .reading (fun m => hashWithin call (m.heap.size + 2) v) (fun _ _ => rfl) inferInstance

instance (v : Value) : Impartial way (checkKey call v) := by
  unfold checkKey
  infer_instance

instance (v : Value) : Impartial way (hashOfKey call v) := by
  unfold hashOfKey
  refine .seq inferInstance fun _ => ?_
  split <;> infer_instance

instance (h : Hash) (v key : Value) : Impartial way (isKey call h v key) := by
  unfold isKey
  split
  · infer_instance
  · split <;> infer_instance

instance (h : Hash) (key : Value) (entries : List (Value × Value)) :
    Impartial way (placeOf? call h key entries) := by
  induction entries with
  | nil => exact .pure none
  | cons entry rest ih =>
    rw [placeOf?]
    infer_instance

instance (entries : List (Value × Value)) (key : Value) :
    Impartial way (lookupKey? call entries key) := by
  unfold lookupKey?
  infer_instance

instance (entries : List (Value × Value)) (key v : Value) :
    Impartial way (insertKey call entries key v) := by
  unfold insertKey
  refine .seq inferInstance fun _ => .seq inferInstance fun _ => ?_
  split <;> infer_instance

instance (entries : List (Value × Value)) (key : Value) :
    Impartial way (removeKey? call entries key) := by
  unfold removeKey?
  infer_instance

instance (entries : List (Value × Value)) : Impartial way (newDict call entries) := by
  unfold newDict
  infer_instance

/-! ## Collections -/

instance (kind : String) (key : Value) : Impartial way (positionOf call kind key) := by
  unfold positionOf
  refine .seq inferInstance fun _ => ?_
  split <;> infer_instance

instance {α : Type} (kind : String) (items : List α) (key : Value) :
    Impartial way (takeItem call kind items key : Act α) := by
  unfold takeItem
  refine .seq inferInstance fun _ => ?_
  split <;> infer_instance

instance (c : ClassRef) (key : Value) : Impartial way (itemOfClass call c key) := by
  unfold itemOfClass
  dsimp only
  split
  · refine .seq inferInstance fun _ => ?_
    split <;> infer_instance
  · split
    · split
      · refine .seq inferInstance fun _ => ?_
        split <;> infer_instance
      · infer_instance
    · infer_instance
  · refine .seq inferInstance fun _ => ?_
    split <;> infer_instance

instance (v key : Value) : Impartial way (item call v key) := by
  unfold item
  dsimp only
  split <;> try infer_instance
  · refine .seq inferInstance fun _ => ?_
    split <;> try infer_instance
    · refine .seq inferInstance fun _ => ?_
      split <;> infer_instance
    · split <;> infer_instance
    · refine .seq inferInstance fun _ => ?_
      split <;> infer_instance
  · refine .seq inferInstance fun _ => ?_
    split <;> infer_instance

instance (r : Ref) (v : Value) : Impartial way (appendItem r v) := by
  unfold appendItem
  refine .seq inferInstance fun _ => ?_
  split <;> infer_instance

instance (r : Ref) (v : Value) : Impartial way (extendList call r v) := by
  unfold extendList
  refine .seq inferInstance fun _ => ?_
  split <;> infer_instance

instance (v key new : Value) : Impartial way (setItem call v key new) := by
  unfold setItem
  dsimp only
  split
  · refine .seq inferInstance fun _ => ?_
    split
    · refine .seq inferInstance fun _ => ?_
      split <;> infer_instance
    · infer_instance
    · refine .seq inferInstance fun _ => ?_
      split <;> infer_instance
  · refine .seq inferInstance fun _ => ?_
    split <;> infer_instance

instance (whole : String) (v : Value) : Impartial way (textContains whole v) := by
  unfold textContains
  split <;> infer_instance

instance (b : List UInt8) (v : Value) : Impartial way (bytesContain call b v) := by
  unfold bytesContain
  split
  · infer_instance
  · refine .seq inferInstance fun _ => ?_
    split <;> infer_instance

instance (e : Enumeration) (v : Value) : Impartial way (hasMember e v) := by
  unfold hasMember
  split <;> infer_instance

instance (entries : List (Value × Value)) (v : Value) :
    Impartial way (hasEntry call entries v) := by
  unfold hasEntry
  split
  · refine .seq inferInstance fun _ => ?_
    split
    · refine .seq inferInstance fun _ => ?_
      split <;> infer_instance
    · infer_instance
  · infer_instance

instance (whole v : Value) : Impartial way (foundAmong call whole v) := by
  unfold foundAmong
  refine .seq inferInstance fun _ => ?_
  split <;> infer_instance

instance (whole v : Value) : Impartial way (containsByNature call whole v) := by
  unfold containsByNature
  split <;> try infer_instance
  refine .seq inferInstance fun _ => ?_
  split <;> try infer_instance
  refine .seq inferInstance fun _ => ?_
  split <;> infer_instance

instance (v key : Value) : Impartial way (deleteItem call v key) := by
  unfold deleteItem
  dsimp only
  split
  · refine .seq inferInstance fun _ => ?_
    split
    all_goals
      refine .seq inferInstance fun _ => ?_
      split <;> infer_instance
  · refine .seq inferInstance fun _ => ?_
    split <;> infer_instance

instance (whole v : Value) : Impartial way (contains call whole v) := by
  unfold contains
  refine .seq inferInstance fun _ => ?_
  split <;> infer_instance

end Act

end Covenant
