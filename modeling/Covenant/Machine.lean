import Covenant.Answer

/-!
The machine on which scripts and contracts run, and the actions on it.

An action takes the machine from one state to another and ends in one of three ways: with a
result, with a fault in flight, or without an answer because the allowed depth of calls was used
up. The last is no fault: nothing can catch it.
-/

namespace Covenant

/-- The settings in effect. -/
structure Settings where
  profile : String
  emitSpanEvents : Bool
  logLevel : String
  deriving Repr, DecidableEq

/-- The span that is current, if any. -/
inductive Span where
  | none
  | recording
  | nonRecording
  deriving Repr, DecidableEq

/-- Where settings come from besides keywords: variables of the environment in the order in which
they were set, and the text of the settings file. -/
structure Surroundings where
  environment : List (String × String)
  file : Option String
  deriving Repr, DecidableEq

/-- The state of a machine. -/
structure Machine where
  heap : Array Cell
  /-- The classes made by scripts. -/
  classes : Array ClassInfo
  /-- Attributes of the initial classes that scripts have changed. -/
  patches : List (Known × Fields)
  /-- The invariants that have been looked up, by class. -/
  lookups : List (ClassRef × Option Value)
  /-- The invariants that have been looked up for other values than classes. -/
  remembered : List (Value × Option Value)
  /-- The classes that have been found to fit a structural type. -/
  fitting : List (Known × ClassRef)
  /-- Attributes that scripts have given to values without fields of their own. -/
  attached : List (Value × Fields)
  /-- The fault that is being handled. -/
  handling : Option Ref
  /-- The settings that have been built, in that order. -/
  configs : Array Settings
  /-- Which of them is in effect. -/
  current : Option Nat
  surroundings : Surroundings
  /-- Whether the process runs without its own debugging checks. -/
  optimized : Bool
  /-- The profile that the primitives are bound to. -/
  active : Profile
  span : Span
  /-- What has been recorded, latest first. -/
  trace : List Entry
  /-- The collections that are being shown as text. -/
  showing : List Ref
  /-- The mark of the next floating-point number. -/
  marks : Nat

/-- The cell at an address; nothing but an empty list stands past the end of the heap. -/
def Machine.cell (m : Machine) (r : Ref) : Cell :=
  m.heap.getD r (.list [])

/-- How an action ends. -/
inductive Outcome (α : Type) where
  | done (a : α)
  | raised (e : Ref)
  | exhausted
  deriving Repr, DecidableEq

/-- An action on the machine. -/
def Act (α : Type) : Type :=
  Machine → Outcome α × Machine

namespace Act

/-- The action that only gives a result. -/
protected def pure {α : Type} (a : α) : Act α :=
  fun m => (.done a, m)

/-- One action after another; a fault or exhaustion of the first ends both. -/
protected def bind {α β : Type} (x : Act α) (f : α → Act β) : Act β :=
  fun m =>
    match x m with
    | (.done a, m) => f a m
    | (.raised e, m) => (.raised e, m)
    | (.exhausted, m) => (.exhausted, m)

instance : Monad Act where
  pure := Act.pure
  bind := Act.bind

instance {α : Type} : Inhabited (Act α) := ⟨fun m => (.exhausted, m)⟩

/-- Something about the state. -/
def read {α : Type} (f : Machine → α) : Act α :=
  fun m => (.done (f m), m)

/-- A change of the state. -/
def update (f : Machine → Machine) : Act Unit :=
  fun m => (.done (), f m)

/-- Lets a fault fly on as it is. -/
def rethrow {α : Type} (e : Ref) : Act α :=
  fun m => (.raised e, m)

/-- The end for want of depth. -/
def exhaust {α : Type} : Act α :=
  fun m => (.exhausted, m)

/-- Runs an action and gives the fault that ended it, if one did. -/
def attempt {α : Type} (x : Act α) : Act (Except Ref α) :=
  fun m =>
    match x m with
    | (.done a, m) => (.done (.ok a), m)
    | (.raised e, m) => (.done (.error e), m)
    | (.exhausted, m) => (.exhausted, m)

/-- Runs an action while a fault counts as being handled. -/
def whileHandling {α : Type} (e : Ref) (x : Act α) : Act α :=
  fun m =>
    let (r, after) := x { m with handling := some e }
    (r, { after with handling := m.handling })

/-- Runs an action while a collection counts as being shown as text. -/
def whileShowing {α : Type} (r : Ref) (x : Act α) : Act α :=
  fun m =>
    let (o, after) := x { m with showing := r :: m.showing }
    (o, { after with showing := m.showing })

/-- Runs an action without recording anything. -/
def quietly {α : Type} (x : Act α) : Act α :=
  fun m =>
    let (o, after) := x m
    (o, { after with trace := m.trace })

/-- A floating-point number as a new value. -/
def newFloat (x : Float) : Act Value :=
  fun m => (.done (.float x m.marks), { m with marks := m.marks + 1 })

/-! ### What a sequence of actions does -/

section Sequence

variable {α β : Type} {m after : Machine} {x : Act α}

@[simp] theorem pure_apply (a : α) (m : Machine) : (pure a : Act α) m = (.done a, m) := rfl

/-- A result is handed on. -/
theorem bind_of_done {a : α} (h : x m = (.done a, after)) (f : α → Act β) :
    (x >>= f) m = f a after := by
  change Act.bind x f m = _
  simp [Act.bind, h]

/-- A fault ends what was to follow. -/
theorem bind_of_raised {e : Ref} (h : x m = (.raised e, after)) (f : α → Act β) :
    (x >>= f) m = (.raised e, after) := by
  change Act.bind x f m = _
  simp [Act.bind, h]

/-- Exhaustion ends what was to follow. -/
theorem bind_of_exhausted (h : x m = (.exhausted, after)) (f : α → Act β) :
    (x >>= f) m = (.exhausted, after) := by
  change Act.bind x f m = _
  simp [Act.bind, h]

theorem bind_pure_id (x : Act α) : Act.bind x Act.pure = x := by
  funext m
  unfold Act.bind
  cases h : x m with
  | mk r after => cases r <;> rfl

theorem bind_bind (x : Act α) (f : α → Act β) {γ : Type} (g : β → Act γ) :
    Act.bind (Act.bind x f) g = Act.bind x fun a => Act.bind (f a) g := by
  funext m
  unfold Act.bind
  cases h : x m with
  | mk r after => cases r <;> rfl

instance : LawfulMonad Act :=
  LawfulMonad.mk' Act bind_pure_id (fun _ _ => rfl) (fun x f g => bind_bind x f g)

end Sequence

/-! ## The heap -/

/-- The cell at an address. -/
def load (r : Ref) : Act Cell :=
  read (·.cell r)

/-- A new cell. -/
def alloc (c : Cell) : Act Ref :=
  fun m => (.done m.heap.size, { m with heap := m.heap.push c })

/-- Replaces a cell. -/
def store (r : Ref) (c : Cell) : Act Unit :=
  update fun m => { m with heap := m.heap.setIfInBounds r c }

/-- A value in a new cell. -/
def allocValue (c : Cell) : Act Value := do
  return .ref (← alloc c)

/-! ### What a cell is after a change -/

section Cells

variable {m : Machine} {r s : Ref} {c : Cell}

@[simp] theorem load_apply (r : Ref) (m : Machine) : load r m = (.done (m.cell r), m) := rfl

/-- A cell that is there is replaced. -/
theorem cell_store_self (h : r < m.heap.size) : (store r c m).2.cell r = c := by
  simp [store, update, Machine.cell, h]

/-- Replacing a cell leaves every other cell alone. -/
theorem cell_store_of_ne (h : s ≠ r) : (store r c m).2.cell s = m.cell s := by
  simp [store, update, Machine.cell, Array.getD_eq_getD_getElem?, Ne.symm h]

/-- A new cell stands at the address that is given. -/
theorem cell_alloc_self : (alloc c m).2.cell m.heap.size = c := by
  simp [alloc, Machine.cell]

/-- A new cell leaves every cell before it alone. -/
theorem cell_alloc_of_lt (h : r < m.heap.size) : (alloc c m).2.cell r = m.cell r := by
  simp [alloc, Machine.cell, Array.getElem?_push, Nat.ne_of_lt h]

end Cells

/-- The fault at an address. -/
def loadFault (r : Ref) : Act Fault := do
  match ← load r with
  | .fault f => return f
  | _ => return .fresh (.known (.fault .baseException)) [] []

/-! ## The trace -/

/-- Records an entry. -/
def record (e : Entry) : Act Unit :=
  update fun m => { m with trace := e :: m.trace }

/-- Records a log message. -/
def log (level : Level) (logger : Logger) (message : String) : Act Unit :=
  record (.log level logger message)

/-! ## Faults in flight -/

/-- Cuts the link of the handled chain that leads to `e`, so that chaining `e` to it makes no
cycle. `steps` bounds the walk by the size of the heap. -/
def cutContext (e : Ref) : (steps : Nat) → (r : Ref) → Act Unit
  | 0, _ => pure ()
  | steps + 1, r => do
    let f ← loadFault r
    match f.context with
    | none => pure ()
    | some next =>
      if next = e then store r (.fault { f with context := none })
      else cutContext e steps next

/-- Makes the fault being handled, if there is one and it is another, the context of `e`. -/
def chain (e : Ref) : Act Unit := do
  match ← read Machine.handling with
  | none => pure ()
  | some h =>
    if h = e then pure ()
    else do
      cutContext e (← read (·.heap.size)) h
      let f ← loadFault e
      store e (.fault { f with context := some h })

/-- Raises a fault: from here on it flies, in the context of the fault being handled. -/
def raise {α : Type} (e : Ref) : Act α := do
  chain e
  rethrow e

/-- Raises a fault deliberately from another or from none; either way its context is not to be
shown. -/
def raiseFrom {α : Type} (e : Ref) (cause : Option Ref) : Act α := do
  let f ← loadFault e
  store e (.fault { f with cause, suppressed := true })
  raise e

/-- A new fault of an initial class. -/
def newFault (cls : FaultClass) (args : List Value) : Act Ref :=
  alloc (.fault (.fresh (.known (.fault cls)) args []))

/-- Raises a new fault with the given arguments. -/
def failWith {α : Type} (cls : FaultClass) (args : List Value) : Act α := do
  raise (← newFault cls args)

/-- Raises a new fault with a message. -/
def fail {α : Type} (cls : FaultClass) (message : String) : Act α :=
  failWith cls [.text message]

/-- A new failed validation. -/
def newFailure (failure : Failure) : Act Ref :=
  alloc (.fault { Fault.fresh (.known (.fault .validationError)) [] [] with
    failure := some failure })

/-- Lets a failed validation of given data fly. It is about the data alone, so the fault being
handled is no context of it. -/
def failValidation {α : Type} (failure : Failure) : Act α := do
  rethrow (← newFailure failure)

end Act

/-- How values are called: the function, the arguments and the named arguments. -/
abbrev Caller := Value → List Value → Fields → Act Value

end Covenant
