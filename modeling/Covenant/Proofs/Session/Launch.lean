import Covenant.Proofs.Contract.Agreement
import Covenant.Session.Start

/-!
# Processes that have started

A process that starts has built its settings and has done nothing else, so code under contract can
rely on its machine (`Launch.ready_of_start`): it is plain, no fault is being handled, and the
profile is the one that the process was bound to.
-/

namespace Covenant

namespace Act

variable {α β : Type}

/-- What raises a fault gives no result. -/
theorem raise_ne_done (e : Ref) (m n : Machine) (a : α) : (raise e : Act α) m ≠ (.done a, n) := by
  unfold raise
  intro h
  rcases chained : chain e m with ⟨o, k⟩
  cases o with
  | done u => rw [bind_of_done chained] at h; cases h
  | raised e => rw [bind_of_raised chained] at h; cases h
  | exhausted => rw [bind_of_exhausted chained] at h; cases h

/-- A result comes from what is done last. -/
theorem bind_eq_done {x : Act α} {f : α → Act β} {m n : Machine} {b : β}
    (h : (x >>= f) m = (.done b, n)) : ∃ a k, x m = (.done a, k) ∧ f a k = (.done b, n) := by
  rcases ran : x m with ⟨o, k⟩
  cases o with
  | done a => rw [bind_of_done ran] at h; exact ⟨a, k, rfl, h⟩
  | raised e => rw [bind_of_raised ran] at h; cases h
  | exhausted => rw [bind_of_exhausted ran] at h; cases h

/-- What fails gives no result. -/
theorem fail_ne_done (cls : FaultClass) (message : String) (m n : Machine) (a : α) :
    (fail cls message : Act α) m ≠ (.done a, n) := by
  intro h
  obtain ⟨e, k, -, raised⟩ := bind_eq_done h
  exact raise_ne_done e k n a raised

end Act

namespace Session

open Act

/-- An action that is observed to give a result gives it. -/
theorem observe_eq_ok {α : Type} {x : Act α} {m : Machine} {a : α}
    (h : (observe x m).1.result = .ok a) :
    x { m with trace := [] } = (.done a, (observe x m).2) := by
  unfold observe at h ⊢
  rcases ran : x { m with trace := [] } with ⟨o, n⟩
  rw [ran] at h
  cases o with
  | done b => cases h; rfl
  | exhausted => cases h
  | raised e =>
    dsimp only at h
    rcases answered : faultAnswer Act.call e n with ⟨o, k⟩
    rw [answered] at h
    cases o <;> cases h

namespace Launch

variable {l : Launch} {m : Machine} {s : Settings}

/-- The machine of a process that has built its settings. -/
def configured (l : Launch) (s : Settings) : Machine :=
  { l.blank with configs := #[s], current := some 0 }

/-- A process that has built its settings leaves everything else as it was. -/
theorem configured_ready (l : Launch) (s : Settings) (p : Profile) :
    Machine.Ready { l.configured s with active := p } p :=
  ⟨⟨rfl, rfl, rfl, fun _ mem => absurd mem List.not_mem_nil⟩, rfl, rfl⟩

/-- Building the settings of a process puts them into effect and changes nothing else. -/
theorem getConfig_blank {i : Nat} (h : getConfig [] l.blank = (.done i, m)) :
    ∃ s, i = 0 ∧ m = l.configured s := by
  unfold getConfig at h
  rw [read_bind] at h
  obtain ⟨j, k, built, put⟩ := bind_eq_done h
  unfold buildSettings at built
  rw [read_bind] at built
  cases read : (Config.sourcesIn l.blank.surroundings []).build with
  | error failure => rw [read] at built; cases built
  | ok s =>
    rw [read] at built
    cases built
    cases put
    exact ⟨s, rfl, rfl⟩

/-- Binding the primitives leaves a machine that is ready. -/
theorem ready_of_bindPrimitives (h : bindPrimitives l.blank = (.done (), m)) :
    m.Ready m.active := by
  obtain ⟨p, k, selected, bound⟩ := bind_eq_done h
  obtain ⟨s, k₁, settings, chosen⟩ := bind_eq_done selected
  obtain ⟨i, k₂, config, looked⟩ := bind_eq_done settings
  obtain ⟨s', rfl, rfl⟩ := getConfig_blank config
  have same : k₁ = l.configured s' := congrArg Prod.snd looked.symm
  subst same
  rw [read_bind] at chosen
  cases choice : profileOf s (l.configured s').optimized with
  | some q =>
    rw [choice] at chosen
    have same : k = l.configured s' := congrArg Prod.snd chosen.symm
    subst same
    have same : m = { l.configured s' with active := p } := congrArg Prod.snd bound.symm
    subst same
    exact l.configured_ready s' p
  | none =>
    rw [choice] at chosen
    obtain ⟨t, k₃, -, failed⟩ := bind_eq_done chosen
    exact absurd failed (fail_ne_done _ _ _ _ _)

/-- The machine of a process that has started is ready for code under contract. -/
theorem ready_of_start (h : l.start = .ok m) : m.Ready m.active := by
  rcases observed : observe bindPrimitives l.blank with ⟨report, n⟩
  unfold start at h
  rw [show (observe bindPrimitives).run l.blank = (report, n) from observed] at h
  dsimp only at h
  cases result : report.result with
  | error f => rw [result] at h; cases h
  | ok u =>
    rw [result] at h
    cases h
    have ran := observe_eq_ok (x := bindPrimitives) (m := l.blank) (by rw [observed]; exact result)
    rw [observed] at ran
    obtain ⟨plain, free, -⟩ := ready_of_bindPrimitives ran
    exact ⟨⟨plain.patches, plain.attached, plain.settings, plain.lookups⟩, free, rfl⟩

/-- A process without variables in its environment and without a settings file. -/
def usual : Launch :=
  ⟨⟨[], none⟩, false, .none⟩

/-- The machine on which it starts. -/
def usualMachine : Machine :=
  usual.configured ⟨"auto", true, "warning"⟩

theorem start_usual : usual.start = .ok usualMachine :=
  rfl

/-- It checks. -/
theorem ready_usual : usualMachine.Ready .checked :=
  ready_of_start start_usual

/-- The same process without its own debugging checks. -/
def unchecking : Launch :=
  { usual with optimized := true }

/-- The machine on which it starts. -/
def uncheckingMachine : Machine :=
  { unchecking.configured ⟨"auto", true, "warning"⟩ with active := .unchecked }

theorem start_unchecking : unchecking.start = .ok uncheckingMachine :=
  rfl

/-- It does not check. -/
theorem ready_unchecking : uncheckingMachine.Ready .unchecked :=
  ready_of_start start_unchecking

end Launch

end Session

end Covenant
