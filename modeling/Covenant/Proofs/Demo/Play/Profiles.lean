import Covenant.Proofs.Demo.Play.Queues
import Covenant.Proofs.Session.Launch

/-!
# The demos under the two profiles

The same moves are made in a process that checks and in one that does not. The objects of the two
lie at different addresses, for a check adds cells of its own, so that two values are the same if
one item names both (`Scene.value?`), and two scenes are alike if the objects at each position have
the same fields (`Scene.Alike`).

What carries the comparison is that both scenes show one stage. As long as no move is a violation in
the process that checks, both play each move as the stage does, and the stage is the same
(`Scene.Shows.agree`, `Scene.Shows.agree_run`). The process that does not check plays every move
without a violation and records nothing (`Scene.Shows.quiet_run`).
-/

namespace Covenant

open Act

namespace Scene

/-- Whether a move raises the violation of a contract. -/
def violates (s : Scene) (mv : Move) : Bool :=
  match s.outcome mv with
  | .raised e => ((s.after mv).machine.faultClassAt e).isA .violation
  | _ => false

/-- Whether none of some moves raises the violation of a contract. -/
def isLawful : Scene → List Move → Bool
  | _, [] => true
  | s, mv :: moves => !s.violates mv && (s.after mv).isLawful moves

/-- The accounts and the queues of two scenes have the same fields. -/
structure Alike (s t : Scene) : Prop where
  accounts : ∀ i : Nat, Option.Rel (fun r r' => ∃ h : Holding, h.At s.machine r ∧ h.At t.machine r')
    s.bank.accounts[i]? t.bank.accounts[i]?
  queues : ∀ i : Nat, Option.Rel
    (fun r r' => ∃ q : Lane, q.On s.value? s.machine r ∧ q.On t.value? t.machine r')
    s.queues[i]? t.queues[i]?

variable {s t : Scene} {st : Stage} {mv : Move} {m n : Machine} {p : Profile}

/-! ### Violations -/

/-- A move that ended with a fault of an initial class is a violation if that class is one. -/
theorem violates_of_error {f : Fault} {c : FaultClass} (ended : s.Ended mv (.error f))
    (cls : f.cls = .known (.fault c)) : s.violates mv = c.isA .violation := by
  obtain ⟨e, raised, cell⟩ := ended
  unfold violates
  rw [raised]
  dsimp only
  rw [Machine.faultClassAt_of_cell cell cls]

/-- A move that ended without a violation is none. -/
theorem violates_of_blameless {r : Except Fault Item} (ended : s.Ended mv r)
    (blameless : Blameless r) : s.violates mv = false := by
  cases r with
  | ok x =>
    obtain ⟨v, done, -⟩ := ended
    unfold violates
    rw [done]
  | error f =>
    obtain ⟨c, cls, none⟩ := blameless f rfl
    rw [violates_of_error ended cls, none]

theorem isLawful_append (s : Scene) (before after : List Move) :
    s.isLawful (before ++ after) = (s.isLawful before && (s.afterAll before).isLawful after) := by
  induction before generalizing s with
  | nil => rfl
  | cons mv rest ih =>
    simp only [List.cons_append, isLawful, ih, Bool.and_assoc]
    rfl

/-! ### One move -/

/-- Scenes that show one stage are alike. -/
theorem Shows.alike {p p' : Profile} (shows : s.Shows p st) (showsToo : t.Shows p' st) :
    s.Alike t := by
  constructor
  · intro i
    have same : s.bank.accounts[i]?.map s.machine.holding =
        t.bank.accounts[i]?.map t.machine.holding := by
      rw [← List.getElem?_map, ← List.getElem?_map, shows.accounts, showsToo.accounts]
    cases at_s : s.bank.accounts[i]? with
    | none =>
      rw [at_s] at same
      rw [Option.map_eq_none_iff.1 same.symm]
      exact .none
    | some r =>
      rw [at_s] at same
      obtain ⟨r', at_t, holds⟩ := Option.map_eq_some_iff.1 same.symm
      rw [at_t]
      have here := shows.orderly.held r (List.mem_of_getElem? at_s)
      have there := showsToo.orderly.held r' (List.mem_of_getElem? at_t)
      exact .some ⟨_, here, holds ▸ there⟩
  · intro i
    have rel := shows.queues i
    have relToo := showsToo.queues i
    generalize st.queues[i]? = q at rel relToo
    generalize s.queues[i]? = o at rel
    generalize t.queues[i]? = o' at relToo
    cases rel with
    | none =>
      cases relToo
      exact .none
    | some both =>
      cases relToo with
      | some bothToo => exact .some ⟨_, both.1, bothToo.1⟩

/-- No account of a process that checks has a negative balance. -/
theorem Shows.notNegative (shows : s.Shows .checked st) : ∀ h ∈ st.accounts, 0 ≤ h.balance := by
  intro h mem
  rw [← shows.accounts] at mem
  obtain ⟨r, held, rfl⟩ := List.mem_map.1 mem
  exact (shows.orderly.sound rfl r held).balance

/-- A move that is no violation in the process that checks ends in the same way in both, and leaves
scenes that show one stage. -/
theorem Shows.agree (shows : s.Shows .checked st) (showsToo : t.Shows .unchecked st)
    (lawful : s.violates mv = false) :
    (∃ r, s.Ended mv r ∧ t.Ended mv r) ∧
      ∃ after, (s.after mv).Shows .checked after ∧ (t.after mv).Shows .unchecked after := by
  have played := shows.plays mv
  obtain ⟨endedToo, showsAfter, -⟩ := showsToo.plays mv
  rcases Stage.play_tracks shows.notNegative mv with same | ⟨f, failed, c, cls, violation⟩
  · rw [← same] at endedToo showsAfter
    exact ⟨⟨_, played.ended, endedToo⟩, _, played.shows, showsAfter⟩
  · have ended := played.ended
    rw [failed] at ended
    rw [violates_of_error ended cls, violation] at lawful
    cases lawful

/-- In a process that does not check no move is a violation, and nothing is recorded. -/
theorem Shows.quiet (shows : t.Shows .unchecked st) (mv : Move) :
    t.violates mv = false ∧ (t.after mv).machine.trace = t.machine.trace := by
  obtain ⟨ended, -, quiet⟩ := shows.plays mv
  exact ⟨violates_of_blameless ended (st.play_blameless mv), quiet rfl⟩

/-! ### A run of moves -/

/-- After moves that are no violations in the process that checks, the two scenes show one stage. -/
theorem Shows.agree_run (shows : s.Shows .checked st) (showsToo : t.Shows .unchecked st)
    (moves : List Move) (lawful : s.isLawful moves = true) :
    ∃ after, (s.afterAll moves).Shows .checked after ∧
      (t.afterAll moves).Shows .unchecked after := by
  induction moves generalizing s t st with
  | nil => exact ⟨st, shows, showsToo⟩
  | cons mv rest ih =>
    simp only [isLawful, Bool.and_eq_true, Bool.not_eq_true'] at lawful
    obtain ⟨-, after, showsAfter, showsAfterToo⟩ := shows.agree showsToo lawful.1
    exact ih showsAfter showsAfterToo lawful.2

/-- A process that does not check records nothing over any number of moves. -/
theorem Shows.quiet_run (shows : t.Shows .unchecked st) (moves : List Move) :
    ∃ after, (t.afterAll moves).Shows .unchecked after ∧
      (t.afterAll moves).machine.trace = t.machine.trace := by
  induction moves generalizing t st with
  | nil => exact ⟨st, shows, rfl⟩
  | cons mv rest ih =>
    obtain ⟨after, showsAfter, same⟩ := ih (shows.plays mv).shows
    exact ⟨after, showsAfter, same.trans (shows.quiet mv).2⟩

/-- Where nothing has been made, the stage is empty. -/
theorem shows_empty (ready : m.Ready p) : (empty m).Shows p ⟨[], []⟩ :=
  ⟨Bank.orderly_empty ready, rfl, fun _ => .none, List.nodup_nil⟩

/-- The demos under the two profiles. The same moves are made in a process that checks and in one
that does not: accounts are opened and operated with integers, and queues are made from integers and
operated with any items, among them the accounts and the queues themselves. Up to the first move
that is the violation of a contract where it is checked, every move ends in the same way in both,
with the same result or the same fault, and leaves all objects with the same fields. In the process
that does not check, no move is ever the violation of a contract, and nothing is recorded. -/
theorem profiles_agree (checks : m.Ready .checked) (skips : n.Ready .unchecked)
    (before : List Move) (next : Move) :
    ((empty m).isLawful (before ++ [next]) = true →
      (∃ r, ((empty m).afterAll before).Ended next r ∧
        ((empty n).afterAll before).Ended next r) ∧
      ((empty m).afterAll (before ++ [next])).Alike ((empty n).afterAll (before ++ [next]))) ∧
    ((empty n).afterAll before).violates next = false ∧
    ((empty n).afterAll (before ++ [next])).machine.trace = n.trace := by
  refine ⟨fun lawful => ?_, ?_, ?_⟩
  · rw [isLawful_append, Bool.and_eq_true] at lawful
    obtain ⟨st, shows, showsToo⟩ :=
      (shows_empty checks).agree_run (shows_empty skips) before lawful.1
    have here : ((empty m).afterAll before).violates next = false := by
      simpa [isLawful] using lawful.2
    obtain ⟨ended, after, showsAfter, showsAfterToo⟩ := shows.agree showsToo here
    simp only [afterAll, List.foldl_append]
    exact ⟨ended, showsAfter.alike showsAfterToo⟩
  · obtain ⟨st, shows, -⟩ := (shows_empty skips).quiet_run before
    exact (shows.quiet next).1
  · obtain ⟨st, -, same⟩ := (shows_empty skips).quiet_run (before ++ [next])
    exact same

/-- An account that has been put into a queue and then operated is what is taken out in both
processes. -/
theorem profiles_agree_queued_account :
    (∃ r,
      ((empty Session.Launch.usualMachine).afterAll [.deal (.opening 7), .newQueue 1,
        .enqueue 0 (.account 0), .deal (.deposit 0 50)]).Ended (.dequeue 0) r ∧
      ((empty Session.Launch.uncheckingMachine).afterAll [.deal (.opening 7), .newQueue 1,
        .enqueue 0 (.account 0), .deal (.deposit 0 50)]).Ended (.dequeue 0) r) :=
  ((profiles_agree Session.Launch.ready_usual Session.Launch.ready_unchecking
    [.deal (.opening 7), .newQueue 1, .enqueue 0 (.account 0), .deal (.deposit 0 50)]
    (.dequeue 0)).1 (by decide +kernel)).1

end Scene

end Covenant
