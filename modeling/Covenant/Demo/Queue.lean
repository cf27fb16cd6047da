import Covenant.Demo.Account

/-!
Bounded queues: first in, first out, in a ring of fixed capacity.

The ring is a list of as many slots as the capacity says; `head` is the slot that is read next,
`tail` the one that is written next, and `count` how many are taken. A slot that has been read
holds nothing again.
-/

namespace Covenant.Act.Queue

/-- The signature of an operation of queues. -/
def signature (name : String) (parameters : List String) : Signature :=
  .exactly ("BoundedQueue." ++ name) (("self" :: parameters).map Parameter.needed)

/-- Makes an empty queue of a capacity. -/
def start (call : Caller) (self capacity : Value) : Act Unit := do
  assertThat call .pre (← compare call .gt capacity (.int 0)) "Queue capacity must be positive"
  setAttribute call self "capacity" capacity
  setAttribute call self "items" (← arithmetic call .mul (← allocValue (.list [.null])) capacity)
  setAttribute call self "head" (.int 0)
  setAttribute call self "tail" (.int 0)
  setAttribute call self "count" (.int 0)

/-- Whether a field holds a position in the ring. -/
def inRing (call : Caller) (self : Value) (name : String) : Act Value := do
  let position ← field call self name
  if ← holds call .le (.int 0) position then
    compare call .lt position (← field call self "capacity")
  else return .bool false

/-- The invariant: the count is at most the capacity, and head and tail lie in the ring. -/
def invariant (call : Caller) (self : Value) : Act Value := do
  let count ← field call self "count"
  assertThat call .pre (← compare call .le count (← field call self "capacity"))
    "Queue count exceeds capacity"
  assertThat call .pre (← inRing call self "head") "Queue head out of range"
  assertThat call .pre (← inRing call self "tail") "Queue tail out of range"
  return .null

/-- Moves a field on to the next position in the ring. -/
def advance (call : Caller) (self : Value) (name : String) : Act Unit := do
  let next ← arithmetic call .add (← field call self name) (.int 1)
  setAttribute call self name (← arithmetic call .mod next (← field call self "capacity"))

/-- The body of putting in: the item comes from the snapshot. -/
def enqueueBody (call : Caller) (old self : Value) : Act Value := do
  let count ← field call self "count"
  assertThat call .pre (← compare call .lt count (← field call self "capacity"))
    "Cannot enqueue to a full queue"
  let new ← field call old "item"
  let ring ← field call self "items"
  setItem call ring (← field call self "tail") new
  advance call self "tail"
  addToField call self "count" (.int 1)
  let count ← field call self "count"
  assertThat call .post
    (← compare call .eq count (← arithmetic call .add (← field call old "count") (.int 1)))
    "Enqueue failed to increment count"
  return .null

/-- Puts an item in at the end. -/
def enqueue (call : Caller) (self new : Value) : Act Value := do
  let old ← newSnapshot [("count", ← field call self "count"), ("item", new)]
  let _ ← runActive call self old (enqueueBody call)
  return .null

/-- The body of taking out. -/
def dequeueBody (call : Caller) (old self : Value) : Act Value := do
  assertThat call .pre (← compare call .gt (← field call self "count") (.int 0))
    "Cannot dequeue from an empty queue"
  let ring ← field call self "items"
  let taken ← item call ring (← field call self "head")
  let ring ← field call self "items"
  setItem call ring (← field call self "head") .null
  advance call self "head"
  subtractFromField call self "count" (.int 1)
  let count ← field call self "count"
  assertThat call .post
    (← compare call .eq count (← arithmetic call .sub (← field call old "count") (.int 1)))
    "Dequeue failed to decrement count"
  return taken

/-- Takes the item at the front out. -/
def dequeue (call : Caller) (self : Value) : Act Value := do
  let old ← newSnapshot [("count", ← field call self "count")]
  runActive call self old (dequeueBody call)

end Covenant.Act.Queue
