import Covenant.Proofs.Demo.Bank.Batch

/-!
# Deals of a bank

A bank is a machine and the accounts that have been opened on it. Deals are made with them one after
the other, and their faults are caught (`Bank.afterAll`). What a deal does to the accounts is told
by the amounts that it books to each of them (`Bank.booked`): their sum is added to the balance and
their number to the number of transactions. For a deposit, a withdrawal or a transfer it is enough
to know whether the deal was done; a batch also books what it took before it stopped.

`Bank.Orderly` is what every deal relies on and keeps: the accounts are different objects, each with
the fields of a holding, which is sound if the process checks. `Orderly.deal` says of any deal on an
orderly bank that it ends with a result or with a refusal, that it books the amounts to the accounts
as it should, and that the bank stays orderly.
-/

namespace Covenant

open Act

/-- What can be done with the accounts of a bank, which are named by their position. -/
inductive Deal where
  | opening (number : Int)
  | deposit (i : Nat) (amount : Int)
  | withdraw (i : Nat) (amount : Int)
  | transfer (i j : Nat) (amount : Int)
  | close (i : Nat)
  | depositBatch (i : Nat) (amounts : List Int)

/-- A machine and the accounts that have been opened on it. -/
structure Bank where
  machine : Machine
  accounts : List Ref

namespace Bank

/-- The account at a position. -/
def account (b : Bank) (i : Nat) : Act Value :=
  match b.accounts[i]? with
  | some r => return .ref r
  | none => failWith .keyError [.int i]

/-- Makes a deal. -/
def perform (b : Bank) : Deal → Act Value
  | .opening number => Act.call (.cls (.known .account)) [.int number] []
  | .deposit i amount => do Session.operate (← b.account i) "deposit" [.int amount] []
  | .withdraw i amount => do Session.operate (← b.account i) "withdraw" [.int amount] []
  | .transfer i j amount => do
    let sender ← b.account i
    Session.operate sender "transfer" [← b.account j, .int amount] []
  | .close i => do Session.operate (← b.account i) "close" [] []
  | .depositBatch i amounts => do
    let v ← b.account i
    Session.operate v "deposit_batch" [← allocValue (.list (amounts.map .int))] []

/-- How a deal ends. -/
def outcome (b : Bank) (d : Deal) : Outcome Value :=
  (b.perform d b.machine).1

/-- The bank after a deal. A fault of the deal is caught. -/
def after (b : Bank) (d : Deal) : Bank where
  machine := (b.perform d b.machine).2
  accounts :=
    match d, b.outcome d with
    | .opening _, .done (.ref r) => b.accounts ++ [r]
    | _, _ => b.accounts

/-- The bank after some deals. -/
def afterAll (b : Bank) (deals : List Deal) : Bank :=
  deals.foldl after b

/-- The amounts that a deal books to an account, which come in if they are positive and go out if
they are negative. -/
def booked (p : Profile) (b : Bank) (d : Deal) (r : Ref) : List Int :=
  match d, b.outcome d with
  | .deposit i amount, .done _ => if b.accounts[i]? = some r then [amount] else []
  | .withdraw i amount, .done _ => if b.accounts[i]? = some r then [-amount] else []
  | .transfer i j amount, .done _ =>
    (if b.accounts[i]? = some r then [-amount] else []) ++
      if b.accounts[j]? = some r then [amount] else []
  | .depositBatch i amounts, _ =>
    if b.accounts[i]? = some r then (b.machine.holding r).taken p amounts else []
  | _, _ => []

/-- A bank whose accounts are different objects, each with the fields of a holding, which is sound
if the process checks. -/
structure Orderly (p : Profile) (b : Bank) : Prop where
  ready : b.machine.Ready p
  apart : b.accounts.Nodup
  held : ∀ r ∈ b.accounts, (b.machine.holding r).At b.machine r
  sound : p = .checked → ∀ r ∈ b.accounts, (b.machine.holding r).Sound

/-- An account after some amounts have been booked to it. -/
structure Posted (p : Profile) (m n : Machine) (r : Ref) (amounts : List Int) : Prop where
  held : (n.holding r).At n r
  balance : (n.holding r).balance = (m.holding r).balance + amounts.sum
  count : (n.holding r).count = (m.holding r).count + amounts.length
  sound : p = .checked → (n.holding r).Sound

end Bank

/-- A fault that is neither the violation of an invariant nor that of a postcondition. -/
def Fault.IsHarmless (f : Fault) : Prop :=
  ∃ c, f.cls = .known (.fault c) ∧ c.isA .invariantError = false ∧
    c.isA .postconditionError = false

/-- A refusal is harmless. -/
theorem Holding.IsRefusal.isHarmless {f : Fault} (h : Holding.IsRefusal f) : f.IsHarmless := by
  rcases h with pre | limit | value
  · exact ⟨_, pre, rfl, rfl⟩
  · exact ⟨_, limit, rfl, rfl⟩
  · exact ⟨_, value, rfl, rfl⟩

/-- A run has ended with a result or with a harmless fault. -/
def Act.EndsWell (run : Outcome Value × Machine) : Prop :=
  (∃ v n, run = (.done v, n)) ∨ ∃ e n f, run = (.raised e, n) ∧ n.cell e = .fault f ∧ f.IsHarmless

namespace Bank

variable {p : Profile} {b : Bank} {m n : Machine} {r s : Ref} {h : Holding} {i : Nat}

/-! ## Booking to one account -/

/-- An account to which a holding has been written. -/
theorem posted_of_at {amounts : List Int} (here : h.At n r)
    (balance : h.balance = (m.holding r).balance + amounts.sum)
    (count : h.count = (m.holding r).count + amounts.length)
    (sound : p = .checked → h.Sound) : Posted p m n r amounts := by
  have holding := here.holding
  exact ⟨holding ▸ here, holding ▸ balance, holding ▸ count, holding ▸ sound⟩

/-- An account that has not been written to. -/
theorem Orderly.posted_nil {written : List Ref} (orderly : b.Orderly p)
    (grew : b.machine.Grows written n) (mem : r ∈ b.accounts) (kept : r ∉ written) :
    Posted p b.machine n r [] := by
  refine posted_of_at ((orderly.held r mem).grows grew kept) ?_ ?_ fun checked =>
    orderly.sound checked r mem
  · simp
  · simp

/-- Where one account has been written to, the amounts have been booked to it and none to the
others. -/
theorem Orderly.posted_single {amounts : List Int} (orderly : b.Orderly p)
    (at_i : b.accounts[i]? = some s) (grew : b.machine.Grows [s] n) (here : h.At n s)
    (balance : h.balance = (b.machine.holding s).balance + amounts.sum)
    (count : h.count = (b.machine.holding s).count + amounts.length)
    (sound : p = .checked → h.Sound) (r : Ref) (mem : r ∈ b.accounts) :
    Posted p b.machine n r (if b.accounts[i]? = some r then amounts else []) := by
  rw [at_i]
  by_cases same : s = r
  · subst same
    rw [if_pos rfl]
    exact posted_of_at here balance count sound
  · have other : some s ≠ some r := fun eq => same (Option.some.inj eq)
    rw [if_neg other]
    exact orderly.posted_nil grew mem fun eq => same (List.mem_singleton.1 eq).symm

/-! ## One deal -/

/-- A deal has been made as it should: it ended with a result or a harmless fault, and it booked to
every account the amounts that it had to. -/
structure Dealt (p : Profile) (b : Bank) (d : Deal) : Prop where
  ended : EndsWell (b.perform d b.machine)
  ready : (b.after d).machine.Ready p
  posted : ∀ r ∈ b.accounts, Posted p b.machine (b.after d).machine r (b.booked p d r)

/-- What a deal ended with says whether it was made as it should. -/
theorem Dealt.of_eq {o : Outcome Value} {d : Deal} (ran : b.perform d b.machine = (o, n))
    (ended : EndsWell (o, n)) (ready : n.Ready p)
    (posted : b.outcome d = o → ∀ r ∈ b.accounts, Posted p b.machine n r (b.booked p d r)) :
    Dealt p b d := by
  have machine : (b.after d).machine = n := congrArg Prod.snd ran
  exact ⟨ran ▸ ended, machine ▸ ready, machine ▸ posted (congrArg Prod.fst ran)⟩

/-- A deal that is refused before anything is written books nothing. -/
theorem Orderly.refused {d : Deal} {e : Ref} {f : Fault} (orderly : b.Orderly p)
    (ran : b.perform d b.machine = (.raised e, n)) (grew : b.machine.Grows [] n)
    (cell : n.cell e = .fault f) (harmless : f.IsHarmless)
    (books : b.outcome d = .raised e → ∀ r, b.booked p d r = []) : Dealt p b d := by
  refine .of_eq ran (.inr ⟨e, n, f, rfl, cell, harmless⟩) (orderly.ready.grows grew) ?_
  intro raised r mem
  rw [books raised r]
  exact orderly.posted_nil grew mem List.not_mem_nil

/-- A fault books nothing, unless it stopped a batch. -/
theorem booked_of_raised {d : Deal} {e : Ref} (raised : b.outcome d = .raised e)
    (whole : ∀ i amounts, d ≠ .depositBatch i amounts) (r : Ref) : b.booked p d r = [] := by
  unfold booked
  rw [raised]
  cases d with
  | depositBatch i amounts => exact absurd rfl (whole i amounts)
  | _ => rfl

section Booked

variable {j : Nat} {amount : Int} {v : Value}

theorem booked_deposit (done : b.outcome (.deposit i amount) = .done v) (r : Ref) :
    b.booked p (.deposit i amount) r = if b.accounts[i]? = some r then [amount] else [] := by
  unfold booked
  rw [done]

theorem booked_withdraw (done : b.outcome (.withdraw i amount) = .done v) (r : Ref) :
    b.booked p (.withdraw i amount) r = if b.accounts[i]? = some r then [-amount] else [] := by
  unfold booked
  rw [done]

theorem booked_transfer (done : b.outcome (.transfer i j amount) = .done v) (r : Ref) :
    b.booked p (.transfer i j amount) r = (if b.accounts[i]? = some r then [-amount] else []) ++
      if b.accounts[j]? = some r then [amount] else [] := by
  unfold booked
  rw [done]

end Booked

theorem account_of_some (h : b.accounts[i]? = some r) (m : Machine) :
    b.account i m = (.done (.ref r), m) := by
  simp [account, h]

/-- Where there is no account, looking it up fails. -/
theorem account_of_none (h : b.accounts[i]? = none) (free : m.handling = none) :
    b.account i m = (.raised m.heap.size,
      m.push (.fault (.fresh (.known (.fault .keyError)) [.int i] []))) := by
  unfold account
  rw [h]
  exact failWith_of_handling free .keyError [.int i]

/-- A deal that was done was made with an account that there is. -/
theorem Orderly.exists_of_done {d : Deal} {v : Value} {g : Value → Act Value}
    (orderly : b.Orderly p) (ran : b.perform d b.machine = (b.account i >>= g) b.machine)
    (done : b.outcome d = .done v) : ∃ s, b.accounts[i]? = some s := by
  cases at_i : b.accounts[i]? with
  | some s => exact ⟨s, rfl⟩
  | none =>
    have raised := ran.trans (bind_of_raised (account_of_none at_i orderly.ready.free) g)
    cases done.symm.trans (congrArg Prod.fst raised)

theorem isHarmless_keyError (i : Nat) :
    (Fault.fresh (.known (.fault .keyError)) [.int i] []).IsHarmless :=
  ⟨_, rfl, rfl, rfl⟩

/-- A deal with an account that there is not is refused. -/
theorem Orderly.missing {d : Deal} {g : Value → Act Value} (orderly : b.Orderly p)
    (none : b.accounts[i]? = none) (ran : b.perform d b.machine = (b.account i >>= g) b.machine)
    (books : ∀ e, b.outcome d = .raised e → ∀ r, b.booked p d r = []) : Dealt p b d := by
  have raised := ran.trans (bind_of_raised (account_of_none none orderly.ready.free) g)
  exact orderly.refused raised (.push [] _ _) (Machine.cell_push_size _ _) (isHarmless_keyError i)
    (books _)

/-- A deal with one account that agrees with a calculation on what it holds. -/
theorem Orderly.single {d : Deal} {run : Outcome Value × Machine}
    {calculation : Except Fault Holding} (orderly : b.Orderly p) (amounts : List Int)
    (at_i : b.accounts[i]? = some s) (ran : b.perform d b.machine = run)
    (agrees : Agrees b.machine [s] run calculation fun after v n => v = .null ∧ after.At n s)
    (refuses : Holding.Refuses calculation)
    (effect : ∀ after, calculation = .ok after →
      after.balance = (b.machine.holding s).balance + amounts.sum ∧
        after.count = (b.machine.holding s).count + amounts.length ∧
        (p = .checked → after.Sound))
    (whole : ∀ i amounts, d ≠ .depositBatch i amounts)
    (books : ∀ v, b.outcome d = .done v →
      ∀ r, b.booked p d r = if b.accounts[i]? = some r then amounts else []) : Dealt p b d := by
  cases calculation with
  | ok after =>
    obtain ⟨v, n, rfl, grew, -, here⟩ := agrees
    obtain ⟨balance, count, sound⟩ := effect after rfl
    refine .of_eq ran (.inl ⟨v, n, rfl⟩) (orderly.ready.grows grew) ?_
    intro done r mem
    rw [books v done r]
    exact orderly.posted_single at_i grew here balance count sound r mem
  | error f =>
    obtain ⟨e, n, rfl, grew, cell⟩ := agrees
    exact orderly.refused ran grew cell (refuses f rfl).isHarmless
      fun raised => booked_of_raised raised whole

/-- The account at a position holds what the machine says. -/
theorem Orderly.at (orderly : b.Orderly p) (at_i : b.accounts[i]? = some s) :
    (b.machine.holding s).At b.machine s ∧ (p = .checked → (b.machine.holding s).Sound) :=
  have mem := List.mem_of_getElem? at_i
  ⟨orderly.held s mem, fun checked => orderly.sound checked s mem⟩

theorem Orderly.deposit (orderly : b.Orderly p) (i : Nat) (amount : Int) :
    Dealt p b (.deposit i amount) := by
  cases at_i : b.accounts[i]? with
  | none => exact orderly.missing at_i rfl fun e raised => booked_of_raised raised nofun
  | some s =>
    obtain ⟨here, sound⟩ := orderly.at at_i
    refine orderly.single [amount] at_i (bind_of_done (account_of_some at_i _) _)
      (operate_deposit_agrees orderly.ready here sound amount) (Holding.deposit_refuses _ _ _)
      ?_ nofun ?_
    · intro after ok
      obtain ⟨-, rfl⟩ := Holding.deposit_eq_ok_iff.1 ok
      refine ⟨by simp [Holding.receive], by simp [Holding.receive], ?_⟩
      rintro rfl
      exact Holding.deposit_sound (sound rfl) ok
    · exact fun v done => booked_deposit done

theorem Orderly.withdraw (orderly : b.Orderly p) (i : Nat) (amount : Int) :
    Dealt p b (.withdraw i amount) := by
  cases at_i : b.accounts[i]? with
  | none => exact orderly.missing at_i rfl fun e raised => booked_of_raised raised nofun
  | some s =>
    obtain ⟨here, sound⟩ := orderly.at at_i
    refine orderly.single [-amount] at_i (bind_of_done (account_of_some at_i _) _)
      (operate_withdraw_agrees orderly.ready here sound amount) (Holding.withdraw_refuses _ _ _)
      ?_ nofun ?_
    · intro after ok
      obtain ⟨-, -, rfl⟩ := Holding.withdraw_eq_ok_iff.1 ok
      refine ⟨by simp [Holding.pay, Int.sub_eq_add_neg], by simp [Holding.pay], ?_⟩
      rintro rfl
      exact Holding.withdraw_sound (sound rfl) ok
    · exact fun v done => booked_withdraw done

theorem Orderly.close (orderly : b.Orderly p) (i : Nat) : Dealt p b (.close i) := by
  cases at_i : b.accounts[i]? with
  | none => exact orderly.missing at_i rfl fun e raised => booked_of_raised raised nofun
  | some s =>
    obtain ⟨here, sound⟩ := orderly.at at_i
    refine orderly.single [] at_i (bind_of_done (account_of_some at_i _) _)
      (operate_close_agrees orderly.ready here sound) (Holding.close_refuses _ _) ?_ nofun ?_
    · intro after ok
      obtain ⟨-, rfl⟩ := Holding.close_eq_ok_iff.1 ok
      refine ⟨by simp, by simp, ?_⟩
      rintro rfl
      exact Holding.close_sound (sound rfl) ok
    · intro v done r
      exact (ite_self _).symm

/-- A batch books what its account took of it, and nothing to the others. -/
theorem booked_depositBatch (at_i : b.accounts[i]? = some s) (amounts : List Int) (r : Ref) :
    b.booked p (.depositBatch i amounts) r =
      if b.accounts[i]? = some r then (b.machine.holding s).taken p amounts else [] := by
  unfold booked
  by_cases same : b.accounts[i]? = some r
  · cases at_i.symm.trans same
    rfl
  · rw [if_neg same]
    exact if_neg same

/-- A batch books what was taken of it, also if it stopped midway. -/
theorem Orderly.depositBatch (orderly : b.Orderly p) (i : Nat) (amounts : List Int) :
    Dealt p b (.depositBatch i amounts) := by
  cases at_i : b.accounts[i]? with
  | none =>
    refine orderly.missing at_i rfl fun e raised r => ?_
    exact if_neg (by simp [at_i])
  | some s =>
    obtain ⟨here, sound⟩ := orderly.at at_i
    have grew := Machine.Grows.push [] b.machine (.list (amounts.map .int))
    obtain ⟨n, grows, left, ended⟩ := operate_depositBatch_stopped (orderly.ready.grows grew)
      (here.kept grew) sound (by simp) (Machine.cell_push_size _ _)
    have ran : b.perform (.depositBatch i amounts) b.machine =
        Session.operate (.ref s) "deposit_batch" [.ref b.machine.heap.size] []
          (b.machine.push (.list (amounts.map .int))) :=
      bind_of_done (account_of_some at_i _) _
    have all := grew.weaken.trans grows
    have effect := Holding.batch_fst p (b.machine.holding s) amounts
    have posted : ∀ r ∈ b.accounts,
        Posted p b.machine n r (b.booked p (.depositBatch i amounts) r) := by
      intro r mem
      rw [booked_depositBatch at_i]
      refine orderly.posted_single at_i all left ?_ ?_ ?_ r mem
      · rw [effect]
      · rw [effect]
      · rintro rfl
        exact Holding.batch_sound (sound rfl)
    cases result : ((b.machine.holding s).batch p amounts).2 with
    | ok total =>
      rw [result] at ended
      exact .of_eq (ran.trans ended) (.inl ⟨_, n, rfl⟩) (orderly.ready.grows all)
        fun _ => posted
    | error f =>
      rw [result] at ended
      obtain ⟨e, raised, cell⟩ := ended
      have harmless := (Holding.batch_refuses p _ amounts f result).isHarmless
      exact .of_eq (ran.trans raised) (.inr ⟨e, n, f, rfl, cell, harmless⟩)
        (orderly.ready.grows all) fun _ => posted

/-- A transfer of an account to itself books the amount to it twice, out and in. A process that
checks refuses it. -/
theorem posted_toSelf {amount : Int}
    (ok : Holding.transfer p (s = s) (m.holding s) (m.holding s) amount = .ok ())
    (here : (((m.holding s).pay amount).receive amount).At n s) :
    Posted p m n s ([-amount] ++ [amount]) := by
  have nothing : ([-amount] ++ [amount]).sum = 0 := by
    simp only [List.cons_append, List.nil_append, List.sum_cons, List.sum_nil]
    omega
  refine posted_of_at here ?_ ?_ ?_
  · rw [nothing]
    simp only [Holding.pay, Holding.receive]
    omega
  · simp only [Holding.pay, Holding.receive, List.length_append, List.length_singleton]
    omega
  · rintro rfl
    have distinct := ((Holding.transfer_eq_ok_iff.1 ok).1 rfl).2.2.1
    simp at distinct

/-- A transfer between two accounts books the amount to both. -/
theorem posted_sides {t : Ref} {same : Bool} {amount : Int}
    (sound : p = .checked → (m.holding s).Sound ∧ (m.holding t).Sound)
    (ok : Holding.transfer p same (m.holding s) (m.holding t) amount = .ok ())
    (left : ((m.holding s).pay amount).At n s) (right : ((m.holding t).receive amount).At n t) :
    Posted p m n s [-amount] ∧ Posted p m n t [amount] := by
  have sounds : p = .checked → ((m.holding s).pay amount).Sound ∧
      ((m.holding t).receive amount).Sound := by
    rintro rfl
    obtain ⟨mine, yours⟩ := sound rfl
    exact Holding.transfer_sound mine yours ok
  constructor
  · exact posted_of_at left (by simp [Holding.pay, Int.sub_eq_add_neg]) (by simp [Holding.pay])
      fun checked => (sounds checked).1
  · exact posted_of_at right (by simp [Holding.receive]) (by simp [Holding.receive])
      fun checked => (sounds checked).2

/-- What a transfer that was done has booked to an account, be it on one side, on both or on
none. -/
theorem Orderly.posted_moved {i j : Nat} {s t : Ref} {amount : Int} (orderly : b.Orderly p)
    (at_i : b.accounts[i]? = some s) (at_j : b.accounts[j]? = some t)
    (grew : b.machine.Grows [s, t] n)
    (ok : Holding.transfer p (s = t) (b.machine.holding s) (b.machine.holding t) amount = .ok ())
    (moved : Moved (b.machine.holding s) (b.machine.holding t) amount s t n) (r : Ref)
    (mem : r ∈ b.accounts) :
    Posted p b.machine n r ((if b.accounts[i]? = some r then [-amount] else []) ++
      if b.accounts[j]? = some r then [amount] else []) := by
  unfold Moved at moved
  simp only [at_i, at_j, Option.some.injEq]
  by_cases one : s = t
  · subst one
    rw [if_pos rfl] at moved
    by_cases mine : s = r
    · subst mine
      rw [if_pos rfl, if_pos rfl]
      exact posted_toSelf ok moved
    · rw [if_neg mine, if_neg mine]
      exact orderly.posted_nil grew mem (by simp [Ne.symm mine])
  · rw [if_neg one] at moved
    have sound (checked : p = .checked) :=
      And.intro ((orderly.at at_i).2 checked) ((orderly.at at_j).2 checked)
    obtain ⟨sender, recipient⟩ := posted_sides sound ok moved.1 moved.2
    by_cases mine : s = r
    · subst mine
      rw [if_pos rfl, if_neg (Ne.symm one)]
      exact sender
    · rw [if_neg mine]
      by_cases yours : t = r
      · subst yours
        rw [if_pos rfl]
        exact recipient
      · rw [if_neg yours]
        exact orderly.posted_nil grew mem (by simp [Ne.symm mine, Ne.symm yours])

theorem Orderly.transfer (orderly : b.Orderly p) (i j : Nat) (amount : Int) :
    Dealt p b (.transfer i j amount) := by
  cases at_i : b.accounts[i]? with
  | none => exact orderly.missing at_i rfl fun e raised => booked_of_raised raised nofun
  | some s =>
    have sender := account_of_some at_i b.machine
    cases at_j : b.accounts[j]? with
    | none =>
      exact orderly.missing at_j (bind_of_done sender _) fun e raised =>
        booked_of_raised raised nofun
    | some t =>
      obtain ⟨here, sound⟩ := orderly.at at_i
      obtain ⟨recipient, other⟩ := orderly.at at_j
      have ran : b.perform (.transfer i j amount) b.machine =
          Session.operate (.ref s) "transfer" [.ref t, .int amount] [] b.machine :=
        (bind_of_done sender _).trans (bind_of_done (account_of_some at_j _) _)
      have agrees := operate_transfer_agrees orderly.ready here recipient
        (fun checked => ⟨sound checked, other checked⟩) amount
      cases result : Holding.transfer p (s = t) (b.machine.holding s) (b.machine.holding t)
          amount with
      | ok u =>
        rw [result] at agrees
        obtain ⟨v, n, done, grew, -, moved⟩ := agrees
        refine .of_eq (ran.trans done) (.inl ⟨v, n, rfl⟩) (orderly.ready.grows grew) ?_
        intro done r mem
        rw [booked_transfer done]
        exact orderly.posted_moved at_i at_j grew result moved r mem
      | error f =>
        rw [result] at agrees
        obtain ⟨e, n, raised, grew, cell⟩ := agrees
        exact orderly.refused (ran.trans raised) grew cell
          (Holding.transfer_refuses _ _ _ _ _ f result).isHarmless
          fun raised => booked_of_raised raised nofun

/-- Opening an account books nothing to the others. -/
theorem Orderly.opening (orderly : b.Orderly p) (number : Int) : Dealt p b (.opening number) := by
  have agrees := makeAccount_agrees orderly.ready number
  cases result : Holding.opening p number with
  | ok fresh =>
    rw [result] at agrees
    obtain ⟨v, n, done, grew, -, -⟩ := agrees
    refine .of_eq done (.inl ⟨v, n, rfl⟩) (orderly.ready.grows grew) ?_
    intro done r mem
    exact orderly.posted_nil grew mem List.not_mem_nil
  | error f =>
    rw [result] at agrees
    obtain ⟨e, n, raised, grew, cell⟩ := agrees
    exact orderly.refused raised grew cell
      (Holding.opening_refuses _ _ f result).isHarmless
      fun raised => booked_of_raised raised nofun

/-- Every deal with an orderly bank is made as it should. -/
theorem Orderly.deal (orderly : b.Orderly p) (d : Deal) : Dealt p b d := by
  cases d with
  | opening number => exact orderly.opening number
  | deposit i amount => exact orderly.deposit i amount
  | withdraw i amount => exact orderly.withdraw i amount
  | transfer i j amount => exact orderly.transfer i j amount
  | close i => exact orderly.close i
  | depositBatch i amounts => exact orderly.depositBatch i amounts

/-! ## The accounts after a deal -/

/-- An account that has just been opened: its object is a new one, and it holds nothing yet. -/
structure Opened (p : Profile) (b : Bank) (d : Deal) (r : Ref) : Prop where
  accounts : (b.after d).accounts = b.accounts ++ [r]
  new : r ∉ b.accounts
  held : ((b.after d).machine.holding r).At (b.after d).machine r
  balance : ((b.after d).machine.holding r).balance = 0
  count : ((b.after d).machine.holding r).count = 0
  sound : p = .checked → ((b.after d).machine.holding r).Sound

/-- A deal adds at most one account. -/
theorem Orderly.accounts_after (orderly : b.Orderly p) (d : Deal) :
    (b.after d).accounts = b.accounts ∨ ∃ r, Opened p b d r := by
  cases d with
  | opening number =>
    have agrees := makeAccount_agrees orderly.ready number
    cases result : Holding.opening p number with
    | ok fresh =>
      rw [result] at agrees
      obtain ⟨v, n, done, -, rfl, here⟩ := agrees
      obtain ⟨-, rfl⟩ := Holding.opening_eq_ok_iff.1 result
      have ended : b.outcome (.opening number) = .done (.ref b.machine.heap.size) :=
        congrArg Prod.fst done
      have machine : (b.after (.opening number)).machine = n := congrArg Prod.snd done
      have holding := here.holding
      right
      refine ⟨b.machine.heap.size, ?_, ?_, ?_, ?_, ?_, ?_⟩
      · simp only [after, ended]
      · intro mem
        exact Nat.lt_irrefl _ (orderly.held _ mem).lt_size
      · rw [machine, holding]
        exact here
      · rw [machine, holding]
      · rw [machine, holding]
      · rintro rfl
        rw [machine, holding]
        exact Holding.opening_sound result
    | error f =>
      rw [result] at agrees
      obtain ⟨e, n, raised, -⟩ := agrees
      have ended : b.outcome (.opening number) = .raised e := congrArg Prod.fst raised
      left
      simp only [after, ended]
  | _ => exact .inl rfl

/-- Every deal leaves an orderly bank orderly. -/
theorem Orderly.after (orderly : b.Orderly p) (d : Deal) : (b.after d).Orderly p := by
  obtain ⟨-, ready, posted⟩ := orderly.deal d
  rcases orderly.accounts_after d with same | ⟨s, opened⟩
  · refine ⟨ready, same ▸ orderly.apart, ?_, ?_⟩
    · intro r mem
      exact (posted r (same ▸ mem)).held
    · intro checked r mem
      exact (posted r (same ▸ mem)).sound checked
  · refine ⟨ready, ?_, ?_, ?_⟩
    · rw [opened.accounts]
      refine List.nodup_append.2 ⟨orderly.apart, by simp, ?_⟩
      rintro r mem t new rfl
      exact opened.new (List.mem_singleton.1 new ▸ mem)
    · intro r mem
      rw [opened.accounts] at mem
      rcases List.mem_append.1 mem with old | new
      · exact (posted r old).held
      · rw [List.mem_singleton.1 new]
        exact opened.held
    · intro checked r mem
      rw [opened.accounts] at mem
      rcases List.mem_append.1 mem with old | new
      · exact (posted r old).sound checked
      · rw [List.mem_singleton.1 new]
        exact opened.sound checked

/-- A bank without accounts is orderly. -/
theorem orderly_empty (ready : m.Ready p) : (Bank.mk m []).Orderly p :=
  ⟨ready, List.nodup_nil, fun _ mem => absurd mem List.not_mem_nil,
    fun _ _ mem => absurd mem List.not_mem_nil⟩

/-- A bank stays orderly over any number of deals. -/
theorem Orderly.afterAll (orderly : b.Orderly p) (deals : List Deal) :
    (b.afterAll deals).Orderly p := by
  induction deals generalizing b with
  | nil => exact orderly
  | cons d deals ih => exact ih (orderly.after d)

end Bank

end Covenant
