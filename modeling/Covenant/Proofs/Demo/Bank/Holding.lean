import Covenant.Demo.Account
import Covenant.Proofs.Contract.Agreement
import Mathlib.Algebra.Ring.Int.Defs

/-!
# What an account holds

What the operations of an account come to is a calculation on what its fields hold (`Holding`): a
list of demands and then a change. Each calculation has one lemma that says when it gives a result
and which (`Holding.deposit_eq_ok_iff` and its like), from which it follows that a sound account
stays sound in a process that checks (`Holding.deposit_sound` and its like). What a calculation
gives otherwise is a refusal, which is neither the violation of an invariant nor of a
postcondition (`Holding.deposit_refuses` and its like).

A batch is a walk over its amounts that stops at the first one that is not taken, and keeps what
came before it (`Holding.batch_fst`).
-/

namespace Covenant

open Act

/-- What the fields of an account hold. -/
structure Holding where
  number : Int
  balance : Int
  active : Bool
  /-- The number of transactions. -/
  count : Int

namespace Holding

/-- The fault of an amount above the daily limit; one with too many digits cannot be shown in it. -/
def aboveLimit (a : Int) : Fault :=
  if isWritable a then
    .fresh (.known (.fault .dailyLimitExceeded))
      [.text ("Amount " ++ toString a ++ " exceeds the daily limit of " ++ toString dailyLimit)]
      [("amount", .int a), ("limit", .int dailyLimit)]
  else unwritable

/-- Refuses an amount above the daily limit, whether the process checks or not. -/
def withinLimit (a : Int) : Except Fault Unit :=
  if dailyLimit < a then .error (aboveLimit a) else .ok ()

/-- The fault of a precondition that shows two integers; one with too many digits cannot be
shown. -/
def shortage (before between : String) (a b : Int) : Fault :=
  if isWritable a && isWritable b then
    Side.pre.violation (before ++ toString a ++ between ++ toString b)
  else unwritable

/-- An account after an amount has come in. -/
def receive (h : Holding) (a : Int) : Holding :=
  { h with balance := h.balance + a, count := h.count + 1 }

/-- An account after an amount has gone out. -/
def pay (h : Holding) (a : Int) : Holding :=
  { h with balance := h.balance - a, count := h.count + 1 }

/-- What opening an account comes to. -/
def opening (p : Profile) (number : Int) : Except Fault Holding := do
  demand p (0 < number) (Side.pre.violation "Account number must be positive")
  return ⟨number, 0, true, 0⟩

/-- What a deposit comes to. -/
def deposit (p : Profile) (h : Holding) (a : Int) : Except Fault Holding := do
  demand p h.active (Side.pre.violation "Account must be active for deposits")
  demand p (0 < a) (Side.pre.violation "Deposit amount must be positive")
  demand p (a ≤ depositLimit) (Side.pre.violation
    (Side.pre.title ++ " failed: " ++ "amount <= DEPOSIT_LIMIT"))
  return h.receive a

/-- What a withdrawal comes to. -/
def withdraw (p : Profile) (h : Holding) (a : Int) : Except Fault Holding := do
  demand p h.active (Side.pre.violation "Cannot withdraw from inactive account")
  demand p (0 < a) (Side.pre.violation "Withdrawal amount must be positive")
  demand p (a ≤ h.balance)
    (shortage "Insufficient funds: requested " ", available " a h.balance)
  withinLimit a
  return h.pay a

/-- Whether an amount can be transferred between two accounts; `same` says whether they are one
account. -/
def transfer (p : Profile) (same : Bool) (sender recipient : Holding) (a : Int) :
    Except Fault Unit := do
  demand p sender.active (Side.pre.violation "Sender account must be active")
  demand p recipient.active (Side.pre.violation "Recipient account must be active")
  demand p (!same) (Side.pre.violation "Cannot transfer to the same account")
  demand p (0 < a) (Side.pre.violation "Transfer amount must be positive")
  demand p (a ≤ sender.balance)
    (shortage "Insufficient funds for transfer: need " ", have " a sender.balance)
  withinLimit a

/-- What closing an account comes to. -/
def close (p : Profile) (h : Holding) : Except Fault Holding := do
  demand p (h.balance = 0) (Side.pre.violation
    (Side.pre.title ++ " failed: " ++ "self.balance == 0"))
  return { h with active := false }

/-- Whether an amount of a batch is taken. -/
def accept (p : Profile) (a : Int) : Except Fault Unit := do
  demand p (0 < a) (Side.pre.violation "Deposit amount must be positive")
  withinLimit a

/-- What a batch comes to once it has begun: the account after the amounts that were taken, and
their sum or the fault of the first one that was not. -/
def walk (p : Profile) (h : Holding) (applied : Int) : List Int → Holding × Except Fault Int
  | [] => (h, .ok applied)
  | a :: rest =>
    match accept p a with
    | .ok () => walk p (h.receive a) (applied + a) rest
    | .error f => (h, .error f)

/-- What a batch comes to. -/
def batch (p : Profile) (h : Holding) (amounts : List Int) : Holding × Except Fault Int :=
  match demand p h.active (Side.pre.violation "Account must be active for deposits") with
  | .ok () => walk p h 0 amounts
  | .error f => (h, .error f)

variable {p : Profile} {h k after : Holding} {a : Int} {same : Bool} {f : Fault}

/-! ## When there is a result -/

theorem withinLimit_bind_eq_ok_iff {β : Type} {next : Unit → Except Fault β} {b : β} :
    (withinLimit a >>= next) = .ok b ↔ a ≤ dailyLimit ∧ next () = .ok b := by
  unfold withinLimit
  by_cases above : dailyLimit < a
  · simp only [above, if_true, bind, Except.bind]
    constructor
    · rintro ⟨⟩
    · intro below
      omega
  · simp only [above, if_false, bind, Except.bind]
    constructor
    · exact fun next => ⟨by omega, next⟩
    · exact fun both => both.2

theorem withinLimit_eq_ok_iff : withinLimit a = .ok () ↔ a ≤ dailyLimit := by
  have same : withinLimit a = (withinLimit a >>= fun _ => .ok ()) := by
    cases withinLimit a <;> rfl
  rw [same, withinLimit_bind_eq_ok_iff]
  simp

theorem opening_eq_ok_iff {number : Int} :
    opening p number = .ok after ↔ (p = .checked → 0 < number) ∧ after = ⟨number, 0, true, 0⟩ := by
  unfold opening
  simp only [demand_bind_eq_ok_iff, decide_eq_true_eq, pure, Except.pure, Except.ok.injEq]
  exact and_congr_right fun _ => eq_comm

theorem deposit_eq_ok_iff :
    h.deposit p a = .ok after ↔
      (p = .checked → h.active = true ∧ 0 < a ∧ a ≤ depositLimit) ∧ after = h.receive a := by
  unfold deposit
  simp only [demand_bind_eq_ok_iff, decide_eq_true_eq, pure, Except.pure, Except.ok.injEq]
  rw [eq_comm (a := after), imp_and, imp_and, and_assoc, and_assoc]

theorem withdraw_eq_ok_iff :
    h.withdraw p a = .ok after ↔
      (p = .checked → h.active = true ∧ 0 < a ∧ a ≤ h.balance) ∧ a ≤ dailyLimit ∧
        after = h.pay a := by
  unfold withdraw
  simp only [demand_bind_eq_ok_iff, withinLimit_bind_eq_ok_iff, decide_eq_true_eq, pure,
    Except.pure, Except.ok.injEq]
  rw [eq_comm (a := after), imp_and, imp_and, and_assoc, and_assoc]

theorem transfer_eq_ok_iff :
    transfer p same h k a = .ok () ↔
      (p = .checked → h.active = true ∧ k.active = true ∧ same = false ∧ 0 < a ∧
        a ≤ h.balance) ∧ a ≤ dailyLimit := by
  unfold transfer
  simp only [demand_bind_eq_ok_iff, withinLimit_eq_ok_iff, decide_eq_true_eq,
    Bool.not_eq_true', imp_and, and_assoc]

theorem close_eq_ok_iff :
    h.close p = .ok after ↔
      (p = .checked → h.balance = 0) ∧ after = { h with active := false } := by
  unfold close
  simp only [demand_bind_eq_ok_iff, decide_eq_true_eq, pure, Except.pure, Except.ok.injEq]
  exact and_congr_right fun _ => eq_comm

theorem accept_eq_ok_iff : accept p a = .ok () ↔ (p = .checked → 0 < a) ∧ a ≤ dailyLimit := by
  unfold accept
  simp only [demand_bind_eq_ok_iff, withinLimit_eq_ok_iff, decide_eq_true_eq]

/-! ## Sound accounts -/

/-- The invariant of accounts: the number is positive, the balance is not negative, and an account
that is not active is empty. -/
structure Sound (h : Holding) : Prop where
  number : 0 < h.number
  balance : 0 ≤ h.balance
  empty : h.active = true ∨ h.balance = 0

/-- An active account takes an amount that is not negative. -/
theorem Sound.receive (sound : h.Sound) (active : h.active = true) (positive : 0 < a) :
    (h.receive a).Sound := by
  refine ⟨sound.number, ?_, .inl active⟩
  have := sound.balance
  simp only [Holding.receive]
  omega

/-- An active account gives what it has. -/
theorem Sound.pay (sound : h.Sound) (active : h.active = true) (covered : a ≤ h.balance) :
    (h.pay a).Sound := by
  refine ⟨sound.number, ?_, .inl active⟩
  simp only [Holding.pay]
  omega

/-- An account that a process that checks has opened is sound. -/
theorem opening_sound {number : Int} (ok : opening .checked number = .ok after) : after.Sound := by
  obtain ⟨met, rfl⟩ := opening_eq_ok_iff.1 ok
  exact ⟨met rfl, Int.le_refl 0, .inl rfl⟩

theorem deposit_sound (sound : h.Sound) (ok : h.deposit .checked a = .ok after) :
    after.Sound := by
  obtain ⟨met, rfl⟩ := deposit_eq_ok_iff.1 ok
  obtain ⟨active, positive, -⟩ := met rfl
  exact sound.receive active positive

theorem withdraw_sound (sound : h.Sound) (ok : h.withdraw .checked a = .ok after) :
    after.Sound := by
  obtain ⟨met, -, rfl⟩ := withdraw_eq_ok_iff.1 ok
  obtain ⟨active, -, covered⟩ := met rfl
  exact sound.pay active covered

theorem close_sound (sound : h.Sound) (ok : h.close .checked = .ok after) : after.Sound := by
  obtain ⟨met, rfl⟩ := close_eq_ok_iff.1 ok
  exact ⟨sound.number, sound.balance, .inr (met rfl)⟩

/-- Both sides of a transfer stay sound. The runner checks the sender only. -/
theorem transfer_sound (sound : h.Sound) (other : k.Sound)
    (ok : transfer .checked same h k a = .ok ()) : (h.pay a).Sound ∧ (k.receive a).Sound := by
  obtain ⟨met, -⟩ := transfer_eq_ok_iff.1 ok
  obtain ⟨active, activeToo, -, positive, covered⟩ := met rfl
  exact ⟨sound.pay active covered, other.receive activeToo positive⟩

/-! ## Batches -/

/-- Whether an amount of a batch is taken. -/
def isTaken (p : Profile) (a : Int) : Bool :=
  (p = .unchecked || 0 < a) && a ≤ dailyLimit

/-- The amounts of a batch that are taken: those before the first bad one, if the account takes
any. -/
def taken (p : Profile) (h : Holding) (amounts : List Int) : List Int :=
  if p = .checked && !h.active then [] else amounts.takeWhile (isTaken p)

theorem accept_eq_ok_iff_isTaken : accept p a = .ok () ↔ isTaken p a = true := by
  rw [accept_eq_ok_iff]
  cases p <;> simp [isTaken]

/-- What has been taken of a batch has come in. -/
theorem walk_fst (p : Profile) (h : Holding) (applied : Int) (amounts : List Int) :
    (walk p h applied amounts).1 =
      { h with
        balance := h.balance + (amounts.takeWhile (isTaken p)).sum
        count := h.count + (amounts.takeWhile (isTaken p)).length } := by
  induction amounts generalizing h applied with
  | nil => simp [walk]
  | cons a rest ih =>
    unfold walk
    cases accepted : accept p a with
    | ok u =>
      have some : isTaken p a = true := accept_eq_ok_iff_isTaken.1 accepted
      simp only [ih, receive, List.takeWhile_cons, some, if_true, List.sum_cons, List.length_cons,
        Holding.mk.injEq, true_and]
      omega
    | error f =>
      have none : isTaken p a = false := by
        rw [← Bool.not_eq_true, ← accept_eq_ok_iff_isTaken, accepted]
        exact nofun
      simp [none]

/-- A batch that comes to its end gives the sum of what came in. -/
theorem walk_balance {applied total : Int} {amounts : List Int}
    (ok : (walk p h applied amounts).2 = .ok total) :
    (walk p h applied amounts).1.balance - h.balance = total - applied := by
  induction amounts generalizing h applied with
  | nil =>
    cases ok
    simp [walk]
  | cons a rest ih =>
    unfold walk at ok ⊢
    cases accepted : accept p a with
    | ok u =>
      rw [accepted] at ok
      have rest := ih ok
      simp only [receive] at rest ⊢
      omega
    | error f => rw [accepted] at ok; cases ok

/-- A batch leaves a sound account sound, also if it stops midway. -/
theorem walk_sound {applied : Int} {amounts : List Int} (sound : h.Sound)
    (active : h.active = true) : (walk .checked h applied amounts).1.Sound := by
  induction amounts generalizing h applied with
  | nil => exact sound
  | cons a rest ih =>
    unfold walk
    cases accepted : accept .checked a with
    | ok u =>
      obtain ⟨positive, -⟩ := accept_eq_ok_iff.1 accepted
      exact ih (sound.receive active (positive rfl)) active
    | error f => exact sound

/-- What a batch adds to the balance and to the number of transactions is what was taken of it. -/
theorem batch_fst (p : Profile) (h : Holding) (amounts : List Int) :
    (h.batch p amounts).1 =
      { h with
        balance := h.balance + (h.taken p amounts).sum
        count := h.count + (h.taken p amounts).length } := by
  unfold batch taken
  cases p with
  | unchecked =>
    rw [demand_unchecked]
    exact walk_fst _ _ _ _
  | checked =>
    obtain ⟨number, balance, active, count⟩ := h
    cases active with
    | true => exact walk_fst _ _ _ _
    | false => simp

theorem batch_sound {amounts : List Int} (sound : h.Sound) :
    (h.batch .checked amounts).1.Sound := by
  unfold batch
  cases active : h.active with
  | true => exact walk_sound sound active
  | false => exact sound

/-! ## Refusals -/

/-- A fault by which an account refuses something: the violation of a precondition, an amount above
the limit, or a number that cannot be shown in the message about it. -/
def IsRefusal (f : Fault) : Prop :=
  f.cls = .known (.fault .preconditionError) ∨ f.cls = .known (.fault .dailyLimitExceeded) ∨
    f.cls = .known (.fault .valueError)

/-- A calculation that gives no other faults than refusals. -/
def Refuses {β : Type} (calculation : Except Fault β) : Prop :=
  ∀ f, calculation = .error f → IsRefusal f

theorem isRefusal_violation (message : String) : IsRefusal (Side.pre.violation message) :=
  .inl rfl

theorem isRefusal_shortage (before between : String) (a b : Int) :
    IsRefusal (shortage before between a b) := by
  unfold shortage
  split
  · exact .inl rfl
  · exact .inr (.inr rfl)

theorem refuses_ok {β : Type} (b : β) : Refuses (.ok b) := by
  intro f failed
  cases failed

theorem refuses_pure {β : Type} (b : β) : Refuses (pure b : Except Fault β) :=
  refuses_ok b

theorem isRefusal_aboveLimit (a : Int) : IsRefusal (aboveLimit a) := by
  unfold aboveLimit
  split
  · exact .inr (.inl rfl)
  · exact .inr (.inr rfl)

theorem refuses_withinLimit (a : Int) : Refuses (withinLimit a) := by
  intro f failed
  unfold withinLimit at failed
  split at failed
  · rw [← Except.error.inj failed]
    exact isRefusal_aboveLimit a
  · cases failed

theorem refuses_demand (p : Profile) (ok : Bool) (refusal : IsRefusal f) :
    Refuses (demand p ok f) := by
  intro g failed
  obtain ⟨-, -, rfl⟩ := eq_of_demand_eq_error failed
  exact refusal

theorem Refuses.bind {β γ : Type} {x : Except Fault β} {next : β → Except Fault γ}
    (first : Refuses x) (second : ∀ b, Refuses (next b)) : Refuses (x >>= next) := by
  intro f failed
  cases x with
  | ok b => exact second b f failed
  | error g => cases failed; exact first _ rfl

theorem opening_refuses (p : Profile) (number : Int) : Refuses (opening p number) := by
  unfold opening
  exact (refuses_demand _ _ (isRefusal_violation _)).bind fun _ => refuses_pure _

theorem deposit_refuses (p : Profile) (h : Holding) (a : Int) : Refuses (h.deposit p a) := by
  unfold deposit
  refine (refuses_demand _ _ (isRefusal_violation _)).bind fun _ => ?_
  refine (refuses_demand _ _ (isRefusal_violation _)).bind fun _ => ?_
  exact (refuses_demand _ _ (isRefusal_violation _)).bind fun _ => refuses_pure _

theorem withdraw_refuses (p : Profile) (h : Holding) (a : Int) : Refuses (h.withdraw p a) := by
  unfold withdraw
  refine (refuses_demand _ _ (isRefusal_violation _)).bind fun _ => ?_
  refine (refuses_demand _ _ (isRefusal_violation _)).bind fun _ => ?_
  refine (refuses_demand _ _ (isRefusal_shortage _ _ _ _)).bind fun _ => ?_
  exact (refuses_withinLimit a).bind fun _ => refuses_pure _

theorem transfer_refuses (p : Profile) (same : Bool) (h k : Holding) (a : Int) :
    Refuses (transfer p same h k a) := by
  unfold transfer
  refine (refuses_demand _ _ (isRefusal_violation _)).bind fun _ => ?_
  refine (refuses_demand _ _ (isRefusal_violation _)).bind fun _ => ?_
  refine (refuses_demand _ _ (isRefusal_violation _)).bind fun _ => ?_
  refine (refuses_demand _ _ (isRefusal_violation _)).bind fun _ => ?_
  refine (refuses_demand _ _ (isRefusal_shortage _ _ _ _)).bind fun _ => ?_
  exact refuses_withinLimit a

theorem close_refuses (p : Profile) (h : Holding) : Refuses (h.close p) := by
  unfold close
  exact (refuses_demand _ _ (isRefusal_violation _)).bind fun _ => refuses_pure _

theorem accept_refuses (p : Profile) (a : Int) : Refuses (accept p a) := by
  unfold accept
  exact (refuses_demand _ _ (isRefusal_violation _)).bind fun _ => refuses_withinLimit a

theorem walk_refuses (p : Profile) (h : Holding) (applied : Int) (amounts : List Int) :
    Refuses (walk p h applied amounts).2 := by
  induction amounts generalizing h applied with
  | nil => exact refuses_ok applied
  | cons a rest ih =>
    unfold walk
    cases accepted : accept p a with
    | ok u => exact ih (h.receive a) (applied + a)
    | error f =>
      rintro g ⟨⟩
      exact accept_refuses p a f accepted

theorem batch_refuses (p : Profile) (h : Holding) (amounts : List Int) :
    Refuses (h.batch p amounts).2 := by
  unfold batch
  cases met : demand p h.active (Side.pre.violation "Account must be active for deposits") with
  | ok u => exact walk_refuses p h 0 amounts
  | error f =>
    rintro g ⟨⟩
    exact refuses_demand p h.active (isRefusal_violation _) f met

end Holding

end Covenant
