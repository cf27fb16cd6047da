import Covenant.Proofs.Demo.Bank.Fold

/-!
# Closed accounts

In a process that checks, an account that has been closed takes part in nothing any more
(`Orderly.takesNothing`): deposits, withdrawals, batches and the transfers from it or to it are
refused by the violation of a precondition and change no account, and closing it again changes
nothing. What the account holds is therefore kept by every deal (`Closed.after`, one case for each
kind of deal), and so by every run of deals (`Closed.afterAll`), also by deals that were started on
other accounts and whose contracts do not look at this one.
-/

namespace Covenant

open Act

namespace Guard

variable {guards : List Guard}

/-- The first guard that is not met refuses by the violation of a precondition. -/
def RefusePlainly (guards : List Guard) : Prop :=
  ∃ f, firstUnmet guards = some f ∧ f.cls = Holding.plainly

/-- Guards that refuse are not all met. -/
theorem RefusePlainly.ne_none (refuse : RefusePlainly guards) : firstUnmet guards ≠ none := by
  obtain ⟨f, unmet, -⟩ := refuse
  simp [unmet]

/-- A guard in front that is not met is the one that refuses. -/
theorem refusePlainly_cons {g : Guard} (unmet : g.met = false)
    (plain : g.fault.cls = Holding.plainly) : RefusePlainly (g :: guards) :=
  ⟨g.fault, by simp [firstUnmet, unmet], plain⟩

/-- A guard in front that is met leaves it to the others. -/
theorem RefusePlainly.cons {g : Guard} (refuse : RefusePlainly guards) (met : g.met = true) :
    RefusePlainly (g :: guards) := by
  obtain ⟨f, unmet, plain⟩ := refuse
  refine ⟨f, ?_, plain⟩
  rw [← unmet]
  simp [firstUnmet, met]

end Guard

namespace Holding

variable {h k : Holding} {a : Int} {same : Bool}

theorem depositGuards_refuse (inactive : h.active = false) (a : Int) :
    Guard.RefusePlainly (h.depositGuards a) :=
  Guard.refusePlainly_cons inactive rfl

theorem withdrawGuards_refuse (inactive : h.active = false) (a : Int) :
    Guard.RefusePlainly (h.withdrawGuards a ++ [limitGuard a]) :=
  Guard.refusePlainly_cons inactive rfl

/-- A transfer is refused if one of its two sides is not active. -/
theorem transferGuards_refuse (inactive : h.active = false ∨ k.active = false) (same : Bool)
    (a : Int) : Guard.RefusePlainly (transferGuards same h k a ++ [limitGuard a]) := by
  cases sender : h.active with
  | false => exact Guard.refusePlainly_cons sender rfl
  | true =>
    have recipient : k.active = false := inactive.resolve_left (by simp [sender])
    exact .cons (Guard.refusePlainly_cons recipient rfl) sender

/-- A closed account is not active and empty. -/
structure IsClosed (h : Holding) : Prop where
  inactive : h.active = false
  empty : h.balance = 0

/-- Nothing keeps a closed account from being closed again, which leaves it as it is. -/
theorem IsClosed.again (closed : h.IsClosed) :
    Guard.firstUnmet h.closeGuards = none ∧ { h with active := false } = h := by
  obtain ⟨number, balance, active, count⟩ := h
  obtain ⟨rfl, rfl⟩ := closed
  exact ⟨rfl, rfl⟩

end Holding

namespace Bank

variable {b : Bank} {m : Machine} {d : Deal} {guards : List Guard}
  {effect : Ref → Holding → Holding} {i j : Nat} {s t : Ref} {h : Holding} {v : Value}

/-- A deal is refused by the violation of a precondition, and every account is as it was. -/
structure Refused (b : Bank) (d : Deal) : Prop where
  raises : b.Raises d .preconditionError
  unchanged : (b.after d).Alike b

/-- The account at a position is closed and holds `h`. -/
structure Closed (b : Bank) (i : Nat) (s : Ref) (h : Holding) : Prop where
  account : b.accounts[i]? = some s
  held : h.At b.machine s
  closed : h.IsClosed

/-- An account takes part in nothing: all that can be done with it is to close it once more, which
changes nothing. -/
structure TakesNothing (b : Bank) (i : Nat) : Prop where
  deposit : ∀ a, b.Refused (.deposit i a)
  withdraw : ∀ a, b.Refused (.withdraw i a)
  depositBatch : ∀ amounts, b.Refused (.depositBatch i amounts)
  sends : ∀ j t a, b.accounts[j]? = some t → b.Refused (.transfer i j a)
  receives : ∀ j t a, b.accounts[j]? = some t → b.Refused (.transfer j i a)
  close : b.outcome (.close i) = .done .null ∧ (b.after (.close i)).Alike b

/-! ## What can be done with a closed account -/

/-- A deal whose guards refuse is refused. -/
theorem Settled.refused (settled : b.Settled d guards effect) (refuse : Guard.RefusePlainly guards)
    (accounts : (b.after d).accounts = b.accounts) : b.Refused d := by
  obtain ⟨f, unmet, plain⟩ := refuse
  refine ⟨settled.raises_iff.2 ⟨f, unmet, plain⟩, accounts, fun r mem => ?_⟩
  unfold Settled at settled
  rw [unmet] at settled
  obtain ⟨e, -, -, cells⟩ := settled
  exact cells r (accounts ▸ mem)

/-- The account of a bank that is closed is not active there. -/
theorem Closed.inactive (closed : b.Closed i s h) : (b.machine.holding s).active = false := by
  rw [closed.held.holding]
  exact closed.closed.inactive

/-- A change that leaves one account as it is leaves all accounts as they are. -/
theorem onlyAt_of_same {change : Holding → Holding}
    (same : change (b.machine.holding s) = b.machine.holding s) (r : Ref) :
    onlyAt s change r (b.machine.holding r) = b.machine.holding r := by
  unfold onlyAt
  split
  · next mine => rw [mine, same]
  · rfl

/-- A deal that changes one account to what it is changes none. -/
theorem Orderly.alike_of_same {change : Holding → Holding} (orderly : b.Orderly .checked)
    (accounts : (b.after d).accounts = b.accounts)
    (left : ∀ r ∈ b.accounts,
      (onlyAt s change r (b.machine.holding r)).At (b.after d).machine r)
    (same : change (b.machine.holding s) = b.machine.holding s) : (b.after d).Alike b := by
  refine alike_of_at accounts (fun r mem => left r (accounts ▸ mem)) fun r mem => ?_
  rw [onlyAt_of_same same]
  exact orderly.held r (accounts ▸ mem)

/-- A closed account is as it was after it has been closed again. -/
theorem Closed.close_again (closed : b.Closed i s h) (orderly : b.Orderly .checked) :
    b.outcome (.close i) = .done .null ∧ (b.after (.close i)).Alike b := by
  have settled := orderly.settled_close closed.account
  obtain ⟨met, same⟩ := closed.closed.again
  rw [← closed.held.holding] at met same
  unfold Settled at settled
  rw [met] at settled
  exact ⟨settled.1, orderly.alike_of_same rfl settled.2 same⟩

/-- A closed account refuses batches, also empty ones. -/
theorem Closed.depositBatch_refused (closed : b.Closed i s h) (orderly : b.Orderly .checked)
    (amounts : List Int) : b.Refused (.depositBatch i amounts) := by
  have batched := orderly.batched closed.account amounts
  rw [Holding.batch_of_inactive closed.inactive] at batched
  exact ⟨(batched.fails_iff.2 rfl).raises_iff.2 rfl, orderly.alike_of_same rfl batched.held rfl⟩

/-- A closed account of an orderly bank takes part in nothing. -/
theorem Orderly.takesNothing (orderly : b.Orderly .checked) (closed : b.Closed i s h) :
    b.TakesNothing i where
  deposit a := (orderly.settled_deposit closed.account a).refused
    (Holding.depositGuards_refuse closed.inactive a) rfl
  withdraw a := (orderly.settled_withdraw closed.account a).refused
    (Holding.withdrawGuards_refuse closed.inactive a) rfl
  depositBatch := closed.depositBatch_refused orderly
  sends _ _ a at_j := (orderly.settled_transfer closed.account at_j a).refused
    (Holding.transferGuards_refuse (.inl closed.inactive) _ a) rfl
  receives _ _ a at_j := (orderly.settled_transfer at_j closed.account a).refused
    (Holding.transferGuards_refuse (.inr closed.inactive) _ a) rfl
  close := closed.close_again orderly

/-! ## What a closed account keeps -/

/-- An account on which a deal that has settled has no effect holds what it did. -/
theorem Settled.held (settled : b.Settled d guards effect) (mem : s ∈ b.accounts)
    (here : h.At b.machine s) (idle : Guard.firstUnmet guards = none → effect s h = h) :
    h.At (b.after d).machine s := by
  unfold Settled at settled
  cases unmet : Guard.firstUnmet guards with
  | some f =>
    rw [unmet] at settled
    obtain ⟨e, -, -, cells⟩ := settled
    exact (cells s mem).trans here
  | none =>
    rw [unmet] at settled
    have left := settled.2 s mem
    rwa [here.holding, idle unmet] at left

/-- A deal with an account that there is not leaves every account as it was. -/
theorem Orderly.held_of_none {g : Value → Act Value} (orderly : b.Orderly .checked)
    (none : b.accounts[j]? = none) (ran : b.perform d b.machine = (b.account j >>= g) b.machine)
    (here : h.At b.machine s) : h.At (b.after d).machine s := by
  have raised := ran.trans (bind_of_raised (account_of_none none orderly.ready.free) g)
  have machine : (b.after d).machine = _ := congrArg Prod.snd raised
  rw [machine]
  exact here.kept (.push [] _ _)

/-- An account stays where it is. -/
theorem Orderly.account_after (orderly : b.Orderly .checked) (at_i : b.accounts[i]? = some s)
    (d : Deal) : (b.after d).accounts[i]? = some s := by
  rcases orderly.accounts_after d with same | ⟨r, opened⟩
  · rw [same]
    exact at_i
  · rw [opened.accounts, List.getElem?_append_left (List.getElem?_eq_some_iff.1 at_i).1]
    exact at_i

/-- Opening another account leaves the closed one as it was. -/
theorem Closed.held_opening (closed : b.Closed i s h) (orderly : b.Orderly .checked)
    (number : Int) : h.At (b.after (.opening number)).machine s := by
  have agrees := makeAccount_agrees orderly.ready number
  cases result : Holding.opening .checked number with
  | ok fresh =>
    rw [result] at agrees
    obtain ⟨v, n, done, grew, -⟩ := agrees
    have machine : (b.after (.opening number)).machine = n := congrArg Prod.snd done
    exact machine ▸ closed.held.kept grew
  | error f =>
    rw [result] at agrees
    obtain ⟨e, n, raised, grew, -⟩ := agrees
    have machine : (b.after (.opening number)).machine = n := congrArg Prod.snd raised
    exact machine ▸ closed.held.kept grew

/-- A deal that changes one account keeps what a closed one holds, if it has no effect on it should
it be that one. -/
theorem Closed.held_single {change : Holding → Holding} (closed : b.Closed i s h)
    (settled : b.Settled d guards (onlyAt t change))
    (idle : s = t → Guard.firstUnmet guards = none → change h = h) :
    h.At (b.after d).machine s := by
  refine settled.held (List.mem_of_getElem? closed.account) closed.held fun met => ?_
  unfold onlyAt
  split
  · next mine => exact idle mine met
  · rfl

/-- A transfer that was done has been made between other accounts than a closed one. -/
theorem Closed.held_transfer {u : Ref} (closed : b.Closed i s h) (orderly : b.Orderly .checked)
    {k : Nat} (at_j : b.accounts[j]? = some t) (at_k : b.accounts[k]? = some u) (a : Int) :
    h.At (b.after (.transfer j k a)).machine s := by
  refine (orderly.settled_transfer at_j at_k a).held (List.mem_of_getElem? closed.account)
    closed.held fun met => ?_
  have notSender : s ≠ t := by
    rintro rfl
    exact (Holding.transferGuards_refuse (.inl closed.inactive) _ a).ne_none met
  have notRecipient : s ≠ u := by
    rintro rfl
    exact (Holding.transferGuards_refuse (.inr closed.inactive) _ a).ne_none met
  simp [onlyAt, notSender, notRecipient]

/-- A batch on another account leaves the closed one as it was, and so does one that it refuses. -/
theorem Closed.held_depositBatch (closed : b.Closed i s h) (orderly : b.Orderly .checked)
    (at_j : b.accounts[j]? = some t) (amounts : List Int) :
    h.At (b.after (.depositBatch j amounts)).machine s := by
  have left := (orderly.batched at_j amounts).held s (List.mem_of_getElem? closed.account)
  unfold onlyAt at left
  split at left
  · next mine =>
    subst mine
    rw [Holding.batch_of_inactive closed.inactive, closed.held.holding] at left
    exact left
  · rwa [closed.held.holding] at left

/-- Every deal leaves a closed account closed and as it was. -/
theorem Closed.after (closed : b.Closed i s h) (orderly : b.Orderly .checked) (d : Deal) :
    (b.after d).Closed i s h := by
  refine ⟨orderly.account_after closed.account d, ?_, closed.closed⟩
  cases d with
  | opening number => exact closed.held_opening orderly number
  | deposit j a =>
    cases at_j : b.accounts[j]? with
    | none => exact orderly.held_of_none at_j rfl closed.held
    | some t =>
      refine closed.held_single (orderly.settled_deposit at_j a) ?_
      rintro rfl met
      exact absurd met (Holding.depositGuards_refuse closed.inactive a).ne_none
  | withdraw j a =>
    cases at_j : b.accounts[j]? with
    | none => exact orderly.held_of_none at_j rfl closed.held
    | some t =>
      refine closed.held_single (orderly.settled_withdraw at_j a) ?_
      rintro rfl met
      exact absurd met (Holding.withdrawGuards_refuse closed.inactive a).ne_none
  | transfer j k a =>
    cases at_j : b.accounts[j]? with
    | none => exact orderly.held_of_none at_j rfl closed.held
    | some t =>
      cases at_k : b.accounts[k]? with
      | none =>
        exact orderly.held_of_none at_k (bind_of_done (account_of_some at_j _) _) closed.held
      | some u => exact closed.held_transfer orderly at_j at_k a
  | close j =>
    cases at_j : b.accounts[j]? with
    | none => exact orderly.held_of_none at_j rfl closed.held
    | some t =>
      exact closed.held_single (orderly.settled_close at_j) fun _ _ => closed.closed.again.2
  | depositBatch j amounts =>
    cases at_j : b.accounts[j]? with
    | none => exact orderly.held_of_none at_j rfl closed.held
    | some t => exact closed.held_depositBatch orderly at_j amounts

/-- An account that has been closed stays as it was over any number of deals. -/
theorem Closed.afterAll (closed : b.Closed i s h) (orderly : b.Orderly .checked)
    (deals : List Deal) : (b.afterAll deals).Closed i s h := by
  induction deals generalizing b with
  | nil => exact closed
  | cons d deals ih => exact ih (closed.after orderly d) (orderly.after d)

/-! ## Closing -/

/-- An account whose closing has succeeded is closed, and holds what it did but for being active. -/
theorem Orderly.closed_of_done (orderly : b.Orderly .checked) (at_i : b.accounts[i]? = some s)
    (done : b.outcome (.close i) = .done v) :
    (b.after (.close i)).Closed i s { b.machine.holding s with active := false } := by
  have settled := orderly.settled_close at_i
  unfold Settled at settled
  cases unmet : Guard.firstUnmet (b.machine.holding s).closeGuards with
  | some f =>
    rw [unmet] at settled
    obtain ⟨e, raised, -⟩ := settled
    cases done.symm.trans raised
  | none =>
    rw [unmet] at settled
    have left := settled.2 s (List.mem_of_getElem? at_i)
    rw [onlyAt, if_pos rfl] at left
    have met := Guard.firstUnmet_eq_none_iff.1 unmet _ List.mem_cons_self
    exact ⟨at_i, left, rfl, of_decide_eq_true met⟩

/-- An empty account can be closed. -/
theorem Orderly.close_done (orderly : b.Orderly .checked) (at_i : b.accounts[i]? = some s)
    (empty : (b.machine.holding s).balance = 0) : b.outcome (.close i) = .done .null := by
  have settled := orderly.settled_close at_i
  have met : Guard.firstUnmet (b.machine.holding s).closeGuards = none := by
    simp [Guard.firstUnmet, Holding.closeGuards, empty]
  unfold Settled at settled
  rw [met] at settled
  exact settled.1

/-- In a process that checks, an account on which a closing has succeeded stays closed. After any
number of further deals with any accounts it is not active and empty, it has the number of
transactions that it had, and it takes part in nothing: every deposit, withdrawal or batch on it and
every transfer from it or to it is refused by the violation of a precondition and changes no
account, and closing it once more succeeds and changes nothing. -/
theorem closed_account_stays_closed (ready : m.Ready .checked) (before later : List Deal) {i : Nat}
    {v : Value} (done : ((Bank.mk m []).afterAll before).outcome (.close i) = .done v) :
    ∃ s, ((Bank.mk m []).afterAll before).accounts[i]? = some s ∧
      let b := (((Bank.mk m []).afterAll before).after (.close i)).afterAll later
      b.Closed i s { ((Bank.mk m []).afterAll before).machine.holding s with active := false } ∧
        b.TakesNothing i := by
  have orderly := (orderly_empty ready).afterAll before
  obtain ⟨s, at_i⟩ := orderly.exists_of_done rfl done
  have orderlyToo := orderly.after (.close i)
  have closed := (orderly.closed_of_done at_i done).afterAll orderlyToo later
  exact ⟨s, at_i, closed, (orderlyToo.afterAll later).takesNothing closed⟩

/-- After a transfer to a closed account, which was refused, and an empty batch, which was refused
as well, the account still has no transaction, and another transfer to it is refused. -/
theorem closed_account_stays_closed_second_account :
    let b := (((Bank.mk Session.Launch.usualMachine []).afterAll
      [.opening 1, .opening 2, .deposit 1 100]).after (.close 0)).afterAll
        [.transfer 1 0 50, .depositBatch 0 []]
    (b.machine.holding 1).active = false ∧ (b.machine.holding 1).count = 0 ∧
      b.Refused (.transfer 1 0 50) := by
  intro b
  have opened := (orderly_empty Session.Launch.ready_usual).afterAll
    [.opening 1, .opening 2, .deposit 1 100]
  have done := opened.close_done (i := 0) (s := 1) (by decide +kernel) (by decide +kernel)
  obtain ⟨s, at_0, closed, nothing⟩ := closed_account_stays_closed Session.Launch.ready_usual
    [.opening 1, .opening 2, .deposit 1 100] [.transfer 1 0 50, .depositBatch 0 []] done
  obtain ⟨t, at_1⟩ : ∃ t, b.accounts[1]? = some t := Option.isSome_iff_exists.1 (by decide +kernel)
  cases at_0.symm.trans (show _ = some 1 by decide +kernel)
  have held : b.machine.holding 1 = _ := closed.held.holding
  rw [held]
  exact ⟨rfl, by decide +kernel, nothing.receives 1 t 50 at_1⟩

end Bank

end Covenant
