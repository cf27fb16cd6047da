import Covenant.Proofs.Contract.Agreement

/-!
# Calculations under the two profiles

A calculation that makes demands comes to one thing in a process that checks and to another in a
process that does not. The first follows the second if it is a violation or comes to the same
(`Follows`), and the second is blameless if it is no violation (`Blameless`). Both go through
sequences, and a demand that is not met is where the two part (`Follows.demand`,
`blameless_demand`). A run that also leaves something behind tracks another one if it ends with a
violation or leaves the same behind, too (`Tracks`); where a run leaves everything as it was unless
it succeeds, it is enough to follow (`Tracks.caught`).
-/

namespace Covenant

/-- A fault that is the violation of a contract. -/
def Fault.IsViolation (f : Fault) : Prop :=
  ∃ c, f.cls = .known (.fault c) ∧ c.isA .violation = true

/-- A fault that is not the violation of a contract. -/
def Fault.IsFailure (f : Fault) : Prop :=
  ∃ c, f.cls = .known (.fault c) ∧ c.isA .violation = false

/-- One calculation is a violation or comes to the same as another one. -/
def Follows {α : Type} (x y : Except Fault α) : Prop :=
  x = y ∨ ∃ f, x = .error f ∧ f.IsViolation

/-- One run ends with a violation, or it ends and leaves behind the same as another one. -/
def Tracks {σ α : Type} (x y : σ × Except Fault α) : Prop :=
  x = y ∨ ∃ f, x.2 = .error f ∧ f.IsViolation

/-- What is left, and what comes of it, after a calculation that changes nothing where it fails. -/
def caught {σ α : Type} (before : σ) : Except Fault (σ × α) → σ × Except Fault α
  | .ok (after, a) => (after, .ok a)
  | .error f => (before, .error f)

/-- A calculation that is no violation. -/
def Blameless {α : Type} (x : Except Fault α) : Prop :=
  ∀ f, x = .error f → f.IsFailure

section Calculations

variable {α β σ : Type} {x y : Except Fault α} {f : Fault} {ok : Bool}

theorem isViolation_violation (side : Side) (message : String) :
    (side.violation message).IsViolation := by
  cases side
  · exact ⟨_, rfl, rfl⟩
  · exact ⟨_, rfl, rfl⟩

theorem Follows.refl (x : Except Fault α) : Follows x x :=
  .inl rfl

/-- What follows goes on to follow. -/
theorem Follows.bind {k l : α → Except Fault β} (first : Follows x y)
    (second : ∀ a, x = .ok a → Follows (k a) (l a)) : Follows (x >>= k) (y >>= l) := by
  rcases first with rfl | ⟨f, rfl, violation⟩
  · cases x with
    | ok a => exact second a rfl
    | error f => exact .inl rfl
  · exact .inr ⟨f, rfl, violation⟩

/-- A check that is met makes no difference, and one that is not is a violation. -/
theorem Follows.demand {k l : Unit → Except Fault β} (violation : f.IsViolation)
    (next : ok = true → Follows (k ()) (l ())) :
    Follows (demand .checked ok f >>= k) (demand .unchecked ok f >>= l) := by
  cases ok with
  | true => exact next rfl
  | false => exact .inr ⟨f, rfl, violation⟩

theorem Tracks.caught {x y : Except Fault (σ × α)} (before : σ) (h : Follows x y) :
    Tracks (caught before x) (caught before y) := by
  rcases h with rfl | ⟨f, rfl, violation⟩
  · exact .inl rfl
  · exact .inr ⟨f, rfl, violation⟩

theorem blameless_ok (a : α) : Blameless (.ok a : Except Fault α) := by
  intro f failed
  cases failed

theorem blameless_error (failure : f.IsFailure) : Blameless (.error f : Except Fault α) := by
  rintro _ ⟨⟩
  exact failure

theorem Blameless.bind {k : α → Except Fault β} (first : Blameless x)
    (second : ∀ a, Blameless (k a)) : Blameless (x >>= k) := by
  intro f failed
  cases x with
  | ok a => exact second a f failed
  | error g => cases failed; exact first _ rfl

theorem Blameless.caught {x : Except Fault (σ × α)} (before : σ) (h : Blameless x) :
    Blameless (caught before x).2 := by
  intro f failed
  cases x with
  | ok a => cases failed
  | error g => cases failed; exact h _ rfl

/-- What is demanded where nothing is checked is no violation. -/
theorem blameless_demand (ok : Bool) (f : Fault) : Blameless (demand .unchecked ok f) := by
  rw [demand_unchecked]
  exact blameless_ok ()

end Calculations

end Covenant
