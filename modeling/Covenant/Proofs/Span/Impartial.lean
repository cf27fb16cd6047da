import Covenant.Proofs.Span.Calm
import Covenant.Script.Call

/-!
# Actions that are impartial to the span

The current span is where violations are shown to whoever watches a process. What the process does
is to be the same whether one watches or not. `Act.Impartial` says so of a single action, in two
parts.

* `Impartial.indifferent` compares two runs: under a span that does not record, an action ends as
  it does under any other span, on the same machine but for the events that only the other span was
  told (`Machine.under`).
* `Impartial.adds` looks at one run: what the action adds to the trace is put together from reports
  of violations and from entries that are no events (`FromReports`).

How much the second part says depends on what is asked of the calls that are made and of the action
itself (`Way`). If events may be added freely, it says nothing. If calls do not add any themselves
(`callAbstaining`), each event comes after the warning of the same report. If, besides, calls are
made on calm machines and leave them calm, it comes directly after that warning and tells of the
same violation.

The ways in which actions are put together keep them impartial. They are instances, so that an
action of which every part is impartial is found to be so by inference.
-/

namespace Covenant

/-- Whether an entry is an event on a span. -/
def Entry.isEvent : Entry → Bool
  | .event .. => true
  | _ => false

namespace Machine

/-- The same machine under another span, without the events that have been put on one. -/
def under (m : Machine) (s : Span) : Machine :=
  { m with span := s, trace := m.trace.filter (!·.isEvent) }

/-- The same machine with one more entry in its trace. -/
def noting (m : Machine) (e : Entry) : Machine :=
  { m with trace := e :: m.trace }

theorem noting_under (m : Machine) (s : Span) {e : Entry} (other : e.isEvent = false) :
    (m.noting e).under s = (m.under s).noting e := by
  simp [under, noting, other]

/-- An event is nothing that another span keeps. -/
theorem event_under (m : Machine) (s : Span) (name : Answer) (data : List (Answer × Answer)) :
    (m.noting (.event name data)).under s = m.under s :=
  rfl

end Machine

/-! ## What reports put into a trace -/

/-- An event tells of the violation of which a warning says a text: it has the kind and the message
from there, and of the violation of an invariant it also tells whose that is and where it was
checked. -/
def TellsOfSame (text : String) (name : Answer) (data : List (Answer × Answer)) : Prop :=
  ∃ (kind : Kind) (message : String) (own : List (String × String)),
    text = "Contract " ++ kind.text ++ " violated: " ++ message ∧
    name = .text Act.violationEvent ∧
    data = ([("dbc.kind", kind.text), ("dbc.message", message),
      ("dbc.profile", Profile.checked.text)] ++ own).map (fun p => (.text p.1, .text p.2)) ∧
    (own = [] ∨
      ∃ subject c, own = [("dbc.subject_type", subject), ("dbc.checkpoint", Checkpoint.text c)])

/-- Part of a trace, latest entry first, in which all events come from reports. The event of a
report comes after its warning, and between the two stands what was recorded while the violation was
looked up for the event. If reports are `direct`, that is nothing, and the event tells of the
violation that the warning is about. -/
inductive FromReports (direct : Bool) : List Entry → Prop
  | nil : FromReports direct []
  | other {e : Entry} {trace : List Entry} : e.isEvent = false → FromReports direct trace →
      FromReports direct (e :: trace)
  | report {name : Answer} {data : List (Answer × Answer)} {text : String}
      {between trace : List Entry} : FromReports direct trace → FromReports direct between →
      (direct = true → between = [] ∧ TellsOfSame text name data) →
      FromReports direct (.event name data :: (between ++ .log .warning .assertions text :: trace))

namespace FromReports

variable {direct : Bool} {new old : List Entry}

/-- Part of a trace after another. -/
theorem append (later : FromReports direct new) (earlier : FromReports direct old) :
    FromReports direct (new ++ old) := by
  induction later with
  | nil => exact earlier
  | other no _ ih => exact .other no ih
  | @report name data text between trace _ inner same ih _ =>
    rw [List.cons_append, List.append_assoc, List.cons_append]
    exact .report ih inner same

/-- Where reports are direct every event comes right after a warning of the same violation. -/
theorem exists_warning (reports : FromReports true new) {name : Answer}
    {data : List (Answer × Answer)} {later older : List Entry}
    (here : new = later ++ .event name data :: older) :
    ∃ text before, older = .log .warning .assertions text :: before ∧
      TellsOfSame text name data := by
  induction reports generalizing later with
  | nil => exact absurd here.symm (by simp)
  | @other e trace no _ ih =>
    cases later with
    | nil =>
      obtain ⟨rfl, -⟩ := List.cons.inj here
      cases no
    | cons _ later => exact ih (List.cons.inj here).2
  | @report name' data' text between trace _ _ same ih _ =>
    obtain ⟨rfl, tells⟩ := same rfl
    cases later with
    | nil =>
      obtain ⟨first, rest⟩ := List.cons.inj here
      cases first
      exact ⟨text, trace, rest.symm, tells⟩
    | cons _ later =>
      cases later with
      | nil =>
        have first := (List.cons.inj (List.cons.inj here).2).1
        cases first
      | cons _ later => exact ih (List.cons.inj (List.cons.inj here).2).2

end FromReports

/-- Whether a value is a function that adds events to the span that it is called under. -/
def Value.addsEvents : Value → Bool
  | .routine .addSpanEvent | .routine .emitViolation => true
  | _ => false

/-- What is asked of the calls that an action makes, and of the action. -/
inductive Way where
  /-- Calls may add events to the span. -/
  | freely
  /-- Calls add no events but those of reports. -/
  | abstaining
  /-- Besides, calls are made on calm machines and leave them calm. -/
  | guarded
  /-- Besides, the action is done on a calm machine and leaves it calm. -/
  | calmly

namespace Way

/-- What is asked of the machine before and after the action. -/
def Holds (way : Way) (m : Machine) : Prop :=
  way = .calmly → m.Calm

/-- What is said of the entries that are added. -/
def Good : Way → List Entry → Prop
  | freely, _ => True
  | abstaining, new => FromReports false new
  | guarded, new | calmly, new => FromReports true new

variable {way : Way} {m n : Machine} {new old : List Entry}

theorem Holds.keeps (holds : way.Holds m) (kept : m.Keeps n) : way.Holds n :=
  fun calmly => (holds calmly).keeps kept

theorem good_nil (way : Way) : way.Good [] := by
  cases way with
  | freely => trivial
  | _ => exact .nil

theorem good_other (way : Way) {e : Entry} (no : e.isEvent = false) : way.Good [e] := by
  cases way with
  | freely => trivial
  | _ => exact .other no .nil

theorem Good.append (later : way.Good new) (earlier : way.Good old) : way.Good (new ++ old) := by
  cases way with
  | freely => trivial
  | _ => exact FromReports.append later earlier

end Way

/-- It is nothing to an action whether the machine is calm. -/
class Way.Loose (way : Way) : Prop where
  ne : way ≠ .calmly

/-- Violations may be reported. -/
class Way.Reporting (way : Way) : Prop where
  ne : way ≠ .guarded

/-- Where the machine is calm, something is so. -/
class Way.Asks (way : Way) (p : Prop) : Prop where
  holds : way = .calmly → p

namespace Way

instance : Loose .freely := ⟨nofun⟩

instance : Loose .abstaining := ⟨nofun⟩

instance : Loose .guarded := ⟨nofun⟩

instance : Reporting .freely := ⟨nofun⟩

instance : Reporting .abstaining := ⟨nofun⟩

instance : Reporting .calmly := ⟨nofun⟩

variable {way : Way}

instance [loose : way.Loose] {p : Prop} : way.Asks p :=
  ⟨fun calmly => absurd calmly loose.ne⟩

/-- What asks for calm machines is one way; any other does not. -/
theorem eq_calmly_or_loose (way : Way) : way = .calmly ∨ way.Loose := by
  cases way with
  | calmly => exact .inl rfl
  | _ => exact .inr ⟨nofun⟩

theorem Loose.holds [loose : way.Loose] (m : Machine) : way.Holds m :=
  fun calmly => absurd calmly loose.ne

end Way

namespace Act

/-- Calling with calls nested at most `depth` deep in a program that does not add events to the span
itself; a call that would ends the run. -/
def callAbstaining : (depth : Nat) → Caller
  | 0 => fun _ _ _ => exhaust
  | depth + 1 => fun f args named =>
    if f.addsEvents then exhaust else callValue (callAbstaining depth) f args named

section

variable {way : Way} {α β : Type} {x : Act α}

/-- Whatever span is current, an action ends the same way and leaves the same machine. -/
def Indifferent (x : Act α) : Prop :=
  ∀ m s, s ≠ .recording → x (m.under s) = ((x m).1, (x m).2.under s)

/-- What an action adds to the trace is good, and unless depth was lacking the machine is as it is
to be. -/
def Adds (way : Way) (x : Act α) (m : Machine) : Prop :=
  ∃ new, (x m).2.trace = new ++ m.trace ∧ way.Good new ∧
    ((x m).1 ≠ .exhausted → way.Holds (x m).2)

/-- Whatever span is current, an action ends the same way and leaves the same machine, and the
events that it adds to the trace come from reports of violations. -/
class Impartial (way : Way) (x : Act α) : Prop where
  indifferent : Indifferent x
  adds : ∀ m, way.Holds m → Adds way x m

theorem Indifferent.bind {f : α → Act β} (first : Indifferent x)
    (second : ∀ a, Indifferent (f a)) : Indifferent (x >>= f) := by
  intro m s quiet
  have ran := first m s quiet
  obtain ⟨o, n, here⟩ : ∃ o n, x m = (o, n) := ⟨_, _, rfl⟩
  rw [here] at ran
  cases o with
  | done a =>
    -- both runs go on with the same result, on machines that differ in the span alone
    rw [bind_of_done ran, bind_of_done here]
    exact second a n s quiet
  | raised e => rw [bind_of_raised ran, bind_of_raised here]
  | exhausted => rw [bind_of_exhausted ran, bind_of_exhausted here]

/-- What follows has to be good only where the first action can have led. -/
theorem Adds.bind {f : α → Act β} {m : Machine} (first : Adds way x m)
    (second : ∀ a n, x m = (.done a, n) → way.Holds n → Adds way (f a) n) :
    Adds way (x >>= f) m := by
  obtain ⟨old, added, good, after⟩ := first
  obtain ⟨o, n, here⟩ : ∃ o n, x m = (o, n) := ⟨_, _, rfl⟩
  rw [here] at added after
  unfold Adds
  cases o with
  | done a =>
    rw [bind_of_done here]
    obtain ⟨new, more, goodToo, then'⟩ := second a n here (after nofun)
    exact ⟨new ++ old, by rw [more, added, List.append_assoc], goodToo.append good, then'⟩
  | raised e => rw [bind_of_raised here]; exact ⟨old, added, good, fun _ => after nofun⟩
  | exhausted => rw [bind_of_exhausted here]; exact ⟨old, added, good, fun no => absurd rfl no⟩

end

namespace Impartial

variable {way : Way} {α β : Type} {x : Act α}

/-- What adds nothing to the trace and leaves the machine as it is to be. -/
theorem of_holds (indifferent : Indifferent x) (kept : ∀ m, (x m).2.trace = m.trace)
    (holds : ∀ m, way.Holds m → way.Holds (x m).2) : Impartial way x where
  indifferent := indifferent
  adds m before := ⟨[], kept m, way.good_nil, fun _ => holds m before⟩

/-! ## Single actions -/

/-- What only changes the rest of the machine leaves the trace alone. -/
theorem of_trace (indifferent : Indifferent x) (kept : ∀ m, (x m).2.trace = m.trace)
    (keeps : ∀ m : Machine, m.Keeps (x m).2) : Impartial way x :=
  of_holds indifferent kept fun m holds => holds.keeps (keeps m)

instance pure (a : α) : Impartial way (pure a : Act α) :=
  of_trace (fun _ _ _ => rfl) (fun _ => rfl) .refl

theorem read {f : Machine → α} (same : ∀ m s, f (m.under s) = f m) :
    Impartial way (read f) :=
  of_trace (fun m s _ => by simp [same]) (fun _ => rfl) .refl

theorem update {f : Machine → Machine} (same : ∀ m s, f (m.under s) = (f m).under s)
    (kept : ∀ m, (f m).trace = m.trace) (keeps : ∀ m : Machine, m.Keeps (f m)) :
    Impartial way (update f) :=
  of_trace (fun m s _ => congrArg (Prod.mk (Outcome.done ())) (same m s)) kept keeps

instance rethrow (e : Ref) : Impartial way (rethrow e : Act α) :=
  of_trace (fun _ _ _ => rfl) (fun _ => rfl) .refl

instance exhaust : Impartial way (exhaust : Act α) :=
  of_trace (fun _ _ _ => rfl) (fun _ => rfl) .refl

instance newFloat (x : Float) : Impartial way (newFloat x) :=
  of_trace (fun _ _ _ => rfl) (fun _ => rfl) fun _ => ⟨rfl, rfl, Nat.le_refl _⟩

instance load (r : Ref) : Impartial way (load r) :=
  read fun _ _ => rfl

instance alloc (c : Cell) : Impartial way (alloc c) :=
  of_trace (fun _ _ _ => rfl) (fun _ => rfl) fun _ => ⟨rfl, rfl, by simp [Act.alloc]⟩

instance store (r : Ref) (c : Cell) : Impartial way (store r c) :=
  update (fun _ _ => rfl) (fun _ => rfl) fun _ => ⟨rfl, rfl, by simp⟩

theorem record {e : Entry} (other : e.isEvent = false) : Impartial way (record e) where
  indifferent m s _ := congrArg (Prod.mk (Outcome.done ())) (m.noting_under s other).symm
  adds _ holds := ⟨[e], rfl, way.good_other other, fun _ => holds.keeps ⟨rfl, rfl, Nat.le_refl _⟩⟩

instance log (level : Level) (logger : Logger) (message : String) :
    Impartial way (log level logger message) :=
  record rfl

/-! ## Actions put together -/

/-- One action after another. -/
theorem seq {f : α → Act β} (first : Impartial way x) (second : ∀ a, Impartial way (f a)) :
    Impartial way (x >>= f) where
  indifferent := first.indifferent.bind fun a => (second a).indifferent
  adds m holds := (first.adds m holds).bind fun a n _ => (second a).adds n

instance bind [first : Impartial way x] {f : α → Act β} [second : ∀ a, Impartial way (f a)] :
    Impartial way (x >>= f) :=
  first.seq second

/-- An action between two changes of the machine that have to do with neither the span nor the
trace. -/
theorem between (enter : Machine → Machine) (leave : Machine → Machine → Machine)
    (give : Outcome α → Outcome β) (inner : Impartial way x)
    (entered : ∀ m s, enter (m.under s) = (enter m).under s)
    (left : ∀ m n s, leave (m.under s) (n.under s) = (leave m n).under s)
    (given : ∀ m, (enter m).trace = m.trace) (kept : ∀ m n, (leave m n).trace = n.trace)
    (before : ∀ m : Machine, m.Keeps (enter m)) (after : ∀ m n : Machine, n.Keeps (leave m n))
    (spent : give .exhausted = .exhausted) :
    Impartial way (fun m => (give (x (enter m)).1, leave m (x (enter m)).2) : Act β) where
  indifferent m s quiet := by
    dsimp only
    rw [entered, inner.indifferent _ s quiet, left]
  adds m holds := by
    obtain ⟨new, added, good, then'⟩ := inner.adds (enter m) (holds.keeps (before m))
    refine ⟨new, ?_, good, fun ended => (then' fun out => ended ?_).keeps (after m _)⟩
    · dsimp only
      rw [kept, added, given]
    · dsimp only
      rw [out, spent]

/-- What comes of trying an action that ended in one way or another. -/
private def tried : Outcome α → Outcome (Except Ref α)
  | .done a => .done (.ok a)
  | .raised e => .done (.error e)
  | .exhausted => .exhausted

instance attempt [inner : Impartial way x] : Impartial way (attempt x) := by
  have same : Act.attempt x = fun m => (tried (x m).1, (x m).2) := by
    funext m
    unfold Act.attempt
    obtain ⟨o, n, here⟩ : ∃ o n, x m = (o, n) := ⟨_, _, rfl⟩
    rw [here]
    cases o <;> rfl
  rw [same]
  exact between id (fun _ n => n) tried inner (fun _ _ => rfl) (fun _ _ _ => rfl) (fun _ => rfl)
    (fun _ _ => rfl) .refl (fun _ => .refl) rfl

instance whileHandling (e : Ref) [inner : Impartial way x] :
    Impartial way (whileHandling e x) :=
  between (fun m => { m with handling := some e }) (fun m n => { n with handling := m.handling }) id
    inner (fun _ _ => rfl) (fun _ _ _ => rfl) (fun _ => rfl) (fun _ _ => rfl)
    (fun _ => ⟨rfl, rfl, Nat.le_refl _⟩) (fun _ _ => ⟨rfl, rfl, Nat.le_refl _⟩) rfl

instance whileShowing (r : Ref) [inner : Impartial way x] :
    Impartial way (whileShowing r x) :=
  between (fun m => { m with showing := r :: m.showing })
    (fun m n => { n with showing := m.showing }) id inner (fun _ _ => rfl) (fun _ _ _ => rfl)
    (fun _ => rfl) (fun _ _ => rfl) (fun _ => ⟨rfl, rfl, Nat.le_refl _⟩)
    (fun _ _ => ⟨rfl, rfl, Nat.le_refl _⟩) rfl

instance quietly [inner : Impartial way x] : Impartial way (quietly x) where
  indifferent m s quiet := by
    unfold Act.quietly
    rw [inner.indifferent m s quiet]
    rfl
  adds m holds := by
    obtain ⟨-, -, -, after⟩ := inner.adds m holds
    exact ⟨[], rfl, way.good_nil, fun ended => (after ended).keeps ⟨rfl, rfl, Nat.le_refl _⟩⟩

/-- What asks the machine for something first does not depend on the span if the answer does not. -/
theorem reading (f : Machine → Act α) (same : ∀ m s, f (m.under s) = f m)
    (each : ∀ m, Impartial way (f m)) : Impartial way (fun m => f m m) where
  indifferent m s quiet := by
    dsimp only
    rw [same]
    exact (each m).indifferent m s quiet
  adds m := (each m).adds m

/-- The same where all of the machine is asked for. -/
theorem readAll {f : Machine → Act α} (same : ∀ m s, f (m.under s) = f m)
    (each : ∀ m, Impartial way (f m)) : Impartial way (Act.read id >>= f) :=
  reading f same each

instance ite {c : Prop} [Decidable c] {y : Act α} [Impartial way x] [Impartial way y] :
    Impartial way (if c then x else y) := by
  split <;> infer_instance

instance mapM {f : α → Act β} [∀ a, Impartial way (f a)] (l : List α) :
    Impartial way (l.mapM f) := by
  induction l with
  | nil => exact pure []
  | cons a l ih =>
    rw [List.mapM_cons]
    infer_instance

/-- An action done with each item of a list. -/
theorem mapEach {f : α → Act β} {l : List α} (each : ∀ a, Impartial way (f a)) :
    Impartial way (l.mapM f) :=
  mapM l

instance forM {f : α → Act PUnit} [∀ a, Impartial way (f a)] (l : List α) :
    Impartial way (l.forM f) := by
  induction l with
  | nil => exact pure ()
  | cons a l ih => exact bind

instance foldlM {f : β → α → Act β} [∀ b a, Impartial way (f b a)] (l : List α) (b : β) :
    Impartial way (l.foldlM f b) := by
  induction l generalizing b with
  | nil => exact pure b
  | cons a l ih =>
    rw [List.foldlM_cons]
    infer_instance

instance anyM {f : α → Act Bool} [∀ a, Impartial way (f a)] (l : List α) :
    Impartial way (l.anyM f) := by
  induction l with
  | nil => exact pure false
  | cons a l ih =>
    rw [List.anyM]
    refine seq inferInstance fun found => ?_
    cases found <;> infer_instance

end Impartial

/-! ## Actions that there may be -/

/-- An action, if there is one, is impartial. -/
class ImpartialIfAny (way : Way) {α : Type} (x? : Option (Act α)) : Prop where
  of_eq : ∀ x, x? = some x → Impartial way x

namespace ImpartialIfAny

variable {way : Way} {α : Type}

instance none : ImpartialIfAny way (none : Option (Act α)) :=
  ⟨nofun⟩

theorem here {x : Act α} (only : Impartial way x) : ImpartialIfAny way (some x) :=
  ⟨fun _ same => Option.some.inj same ▸ only⟩

instance some {x : Act α} [only : Impartial way x] : ImpartialIfAny way (some x) :=
  here only

instance ite {c : Prop} [Decidable c] {x? y? : Option (Act α)} [ImpartialIfAny way x?]
    [ImpartialIfAny way y?] : ImpartialIfAny way (if c then x? else y?) := by
  split <;> infer_instance

instance map {β : Type} {f : β → Act α} [each : ∀ b, Impartial way (f b)] (b? : Option β) :
    ImpartialIfAny way (b?.map f) := by
  cases b? with
  | none => exact none
  | some b => exact here (each b)

instance bind {β : Type} {f : β → Option (Act α)} [each : ∀ b, ImpartialIfAny way (f b)]
    (b? : Option β) : ImpartialIfAny way (b?.bind f) := by
  cases b? with
  | none => exact none
  | some b => exact each b

/-- What is made of the action that there is. -/
theorem mapAction {β : Type} {f : Act β → Act α} {x? : Option (Act β)}
    [any : ImpartialIfAny way x?] (each : ∀ x, Impartial way x → Impartial way (f x)) :
    ImpartialIfAny way (x?.map f) := by
  cases x? with
  | none => exact none
  | some x => exact here (each x (any.of_eq x rfl))

end ImpartialIfAny

/-- The action that there is. -/
theorem Impartial.found {way : Way} {α : Type} {x? : Option (Act α)} {x : Act α}
    [any : ImpartialIfAny way x?] (here : x? = some x) : Impartial way x :=
  any.of_eq x here

instance Impartial.getD {way : Way} {α : Type} {x? : Option (Act α)} {x : Act α}
    [any : ImpartialIfAny way x?] [Impartial way x] : Impartial way (x?.getD x) := by
  cases x? with
  | none => assumption
  | some y => exact any.of_eq y rfl

end Act

end Covenant
