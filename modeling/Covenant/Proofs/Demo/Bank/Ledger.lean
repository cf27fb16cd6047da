import Covenant.Proofs.Demo.Bank.Deal
import Covenant.Proofs.Session.Launch
import Mathlib.Algebra.BigOperators.Group.List.Basic
import Mathlib.Data.List.Nodup

/-!
# The ledger of a bank

What the accounts of a bank hold is what has been booked to them, whether the process checks or not.
Every deal changes the sum of all balances by what came in from outside or went out with it
(`Bank.income`, `total_after`), which is nothing for a transfer, and every account by what the deal
booked to it. Over a run of deals this adds up (`bank_ledger`): the sum of all balances is the sum
of the incomes, each balance the sum of the amounts booked to the account, and each number of
transactions the number of these amounts.
-/

namespace Covenant

namespace Bank

open Act

/-- The sum of all balances. -/
def total (b : Bank) : Int :=
  (b.accounts.map fun r => (b.machine.holding r).balance).sum

/-- What comes in with a deal: the amount of a deposit that was done, less that of a withdrawal that
was done, and what was taken of a batch, be it done or stopped. -/
def income (p : Profile) (b : Bank) (d : Deal) : Int :=
  match d, b.outcome d with
  | .deposit _ amount, .done _ => amount
  | .withdraw _ amount, .done _ => -amount
  | .depositBatch i amounts, _ =>
    match b.accounts[i]? with
    | some r => ((b.machine.holding r).taken p amounts).sum
    | none => 0
  | _, _ => 0

/-- What comes in with some deals, one after the other. -/
def incomes (p : Profile) : Bank → List Deal → Int
  | _, [] => 0
  | b, d :: deals => b.income p d + incomes p (b.after d) deals

/-- The amounts that some deals book to an account, one after the other. -/
def bookings (p : Profile) : Bank → List Deal → Ref → List Int
  | _, [], _ => []
  | b, d :: deals, r => b.booked p d r ++ bookings p (b.after d) deals r

variable {p : Profile} {b : Bank} {m : Machine} {r s : Ref} {i : Nat}

/-! ## The sum of all balances -/

/-- Amounts that are booked to the account at one position are booked once. -/
theorem Orderly.sum_at (orderly : b.Orderly p) (at_i : b.accounts[i]? = some s)
    (amounts : Ref → List Int) :
    (b.accounts.map fun r => (if b.accounts[i]? = some r then amounts r else []).sum).sum =
      (amounts s).sum := by
  have elsewhere : ∀ r, r ≠ s → r ∈ b.accounts →
      (if b.accounts[i]? = some r then amounts r else []).sum = 0 := by
    intro r ne _
    have other : ¬ some s = some r := fun eq => ne (Option.some.inj eq).symm
    rw [at_i, if_neg other, List.sum_nil]
  rw [List.sum_map_eq_nsmul_single s _ elsewhere,
    List.count_eq_one_of_mem orderly.apart (List.mem_of_getElem? at_i), one_nsmul, if_pos at_i]

/-- What a transfer that was done books to its two sides makes up for itself. -/
theorem Orderly.sum_transfer {j : Nat} {amount : Int} {v : Value} (orderly : b.Orderly p)
    (done : b.outcome (.transfer i j amount) = .done v) :
    (b.accounts.map fun r => ((if b.accounts[i]? = some r then [-amount] else []) ++
      if b.accounts[j]? = some r then [amount] else []).sum).sum = 0 := by
  obtain ⟨s, at_i⟩ := orderly.exists_of_done rfl done
  obtain ⟨t, at_j⟩ := orderly.exists_of_done (bind_of_done (account_of_some at_i _) _) done
  have out := orderly.sum_at at_i fun _ => [-amount]
  have back := orderly.sum_at at_j fun _ => [amount]
  simp only [List.sum_append, List.sum_map_add]
  rw [out, back]
  simp

/-- What a deal books to all accounts is what comes in with it. -/
theorem Orderly.sum_booked (orderly : b.Orderly p) (d : Deal) :
    (b.accounts.map fun r => (b.booked p d r).sum).sum = b.income p d := by
  unfold booked income
  cases d with
  | opening number => simp
  | close i => simp
  | deposit i amount =>
    cases done : b.outcome (.deposit i amount) with
    | done v =>
      obtain ⟨s, at_i⟩ := orderly.exists_of_done rfl done
      exact (orderly.sum_at at_i fun _ => [amount]).trans List.sum_singleton
    | _ => simp
  | withdraw i amount =>
    cases done : b.outcome (.withdraw i amount) with
    | done v =>
      obtain ⟨s, at_i⟩ := orderly.exists_of_done rfl done
      exact (orderly.sum_at at_i fun _ => [-amount]).trans List.sum_singleton
    | _ => simp
  | transfer i j amount =>
    cases done : b.outcome (.transfer i j amount) with
    | done v => exact orderly.sum_transfer done
    | _ => simp
  | depositBatch i amounts =>
    cases at_i : b.accounts[i]? with
    | none => simp [at_i]
    | some s =>
      have at_s := orderly.sum_at at_i fun r => (b.machine.holding r).taken p amounts
      dsimp only
      rw [at_s, at_i]

/-- A deal changes the sum of all balances by what comes in with it. -/
theorem Orderly.total_after (orderly : b.Orderly p) (d : Deal) :
    (b.after d).total = b.total + b.income p d := by
  have posted := (orderly.deal d).posted
  have old : (b.accounts.map fun r => ((b.after d).machine.holding r).balance).sum =
      b.total + b.income p d := by
    rw [← orderly.sum_booked d, total, ← List.sum_map_add]
    exact congrArg List.sum (List.map_congr_left fun r mem => (posted r mem).balance)
  unfold total
  rcases orderly.accounts_after d with same | ⟨s, opened⟩
  · rw [same]
    exact old
  · rw [opened.accounts, List.map_append, List.sum_append, old, List.map_singleton,
      List.sum_singleton, opened.balance, Int.add_zero]
    rfl

/-- Some deals change the sum of all balances by what comes in with them. -/
theorem Orderly.total_afterAll (orderly : b.Orderly p) (deals : List Deal) :
    (b.afterAll deals).total = b.total + b.incomes p deals := by
  induction deals generalizing b with
  | nil => exact (Int.add_zero _).symm
  | cons d deals ih =>
    have rest := ih (orderly.after d)
    rw [orderly.total_after d] at rest
    rw [incomes, ← Int.add_assoc]
    exact rest

/-! ## One account -/

/-- The balance of an account of a bank, and zero for what is none. -/
def balanceOf (b : Bank) (r : Ref) : Int :=
  if r ∈ b.accounts then (b.machine.holding r).balance else 0

/-- The number of transactions of an account of a bank, and zero for what is none. -/
def countOf (b : Bank) (r : Ref) : Int :=
  if r ∈ b.accounts then (b.machine.holding r).count else 0

/-- Nothing is booked to what is no account. -/
theorem booked_of_not_mem (missing : r ∉ b.accounts) (d : Deal) : b.booked p d r = [] := by
  have nowhere (i : Nat) : ¬ b.accounts[i]? = some r :=
    fun at_i => missing (List.mem_of_getElem? at_i)
  unfold booked
  split <;> simp [nowhere]

/-- A deal changes what is known of an account by what it books to it. -/
theorem Orderly.of_after (orderly : b.Orderly p) (d : Deal) (r : Ref) :
    (b.after d).balanceOf r = b.balanceOf r + (b.booked p d r).sum ∧
      (b.after d).countOf r = b.countOf r + (b.booked p d r).length := by
  unfold balanceOf countOf
  by_cases mem : r ∈ b.accounts
  · obtain ⟨-, balance, count, -⟩ := (orderly.deal d).posted r mem
    have still : r ∈ (b.after d).accounts := by
      rcases orderly.accounts_after d with same | ⟨s, opened⟩
      · exact same ▸ mem
      · rw [opened.accounts]
        exact List.mem_append_left _ mem
    simp only [if_pos mem, if_pos still]
    exact ⟨balance, count⟩
  · rw [booked_of_not_mem mem d, if_neg mem, if_neg mem]
    rcases orderly.accounts_after d with same | ⟨s, opened⟩
    · rw [same, if_neg mem, if_neg mem]
      exact ⟨rfl, rfl⟩
    -- What has just been opened holds nothing, so it makes no difference that it is counted now.
    · by_cases new : r = s
      · subst new
        rw [opened.balance, opened.count]
        simp
      · have outside : r ∉ (b.after d).accounts := by
          rw [opened.accounts]
          simp [mem, new]
        rw [if_neg outside, if_neg outside]
        exact ⟨rfl, rfl⟩

/-- Some deals change what is known of an account by what they book to it. -/
theorem Orderly.of_afterAll (orderly : b.Orderly p) (deals : List Deal) (r : Ref) :
    (b.afterAll deals).balanceOf r = b.balanceOf r + (b.bookings p deals r).sum ∧
      (b.afterAll deals).countOf r = b.countOf r + (b.bookings p deals r).length := by
  induction deals generalizing b with
  | nil => exact ⟨(Int.add_zero _).symm, (Int.add_zero _).symm⟩
  | cons d deals ih =>
    obtain ⟨balance, count⟩ := ih (orderly.after d)
    obtain ⟨first, firstToo⟩ := orderly.of_after d r
    rw [first] at balance
    rw [firstToo] at count
    rw [bookings, List.sum_append, List.length_append, ← Int.add_assoc, Int.natCast_add,
      ← Int.add_assoc]
    exact ⟨balance, count⟩

/-! ## A run of deals -/

/-- The ledger of a bank, in a process that checks as in one that does not. After any number of
deals the sum of all balances is what came in with the deposits that were done and with the batches,
be they done or stopped midway, less what went out with the withdrawals that were done; another
transfer leaves it as it is. The number of transactions of an account is the number of amounts that
were booked to it, and its balance is their sum: one amount for every deposit, withdrawal or side of
a transfer that was done, and one for every amount that was taken of a batch. -/
theorem bank_ledger (ready : m.Ready p) (deals : List Deal) :
    ((Bank.mk m []).afterAll deals).total = (Bank.mk m []).incomes p deals ∧
    (∀ i j amount, (((Bank.mk m []).afterAll deals).after (.transfer i j amount)).total =
      ((Bank.mk m []).afterAll deals).total) ∧
    ∀ r ∈ ((Bank.mk m []).afterAll deals).accounts,
      ∃ h : Holding, h.At ((Bank.mk m []).afterAll deals).machine r ∧
        h.count = ((Bank.mk m []).bookings p deals r).length ∧
        h.balance = ((Bank.mk m []).bookings p deals r).sum := by
  have empty := orderly_empty ready
  have orderly := empty.afterAll deals
  refine ⟨?_, ?_, ?_⟩
  · rw [empty.total_afterAll deals]
    exact Int.zero_add _
  · intro i j amount
    rw [orderly.total_after]
    exact Int.add_zero _
  · intro r mem
    obtain ⟨balance, count⟩ := empty.of_afterAll deals r
    have none : r ∉ (Bank.mk m []).accounts := List.not_mem_nil
    unfold balanceOf at balance
    unfold countOf at count
    rw [if_pos mem, if_neg none, Int.zero_add] at balance count
    exact ⟨_, orderly.held r mem, count, balance⟩

/-- In a process that does not check, a transfer of an account to itself changes nothing but the
number of transactions, and a batch keeps what it took before it stopped. -/
theorem bank_ledger_unchecked :
    ((Bank.mk Session.Launch.uncheckingMachine []).afterAll
      [.opening 1, .deposit 0 100, .transfer 0 0 (-7), .depositBatch 0 [5, 60000]]).total = 105 ∧
    ∃ h : Holding, h.At ((Bank.mk Session.Launch.uncheckingMachine []).afterAll
      [.opening 1, .deposit 0 100, .transfer 0 0 (-7), .depositBatch 0 [5, 60000]]).machine 1 ∧
      h.count = 4 := by
  obtain ⟨total, -, accounts⟩ := bank_ledger Session.Launch.ready_unchecking
    [.opening 1, .deposit 0 100, .transfer 0 0 (-7), .depositBatch 0 [5, 60000]]
  obtain ⟨h, here, count, -⟩ := accounts 1 (by decide +kernel)
  exact ⟨total.trans (by decide +kernel), h, here, count.trans (by decide +kernel)⟩

end Bank

end Covenant
