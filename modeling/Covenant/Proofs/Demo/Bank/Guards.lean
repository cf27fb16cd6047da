import Covenant.Proofs.Demo.Bank.Deal
import Covenant.Proofs.Session.Launch

/-!
# The guards of single operations

In a process that checks, an operation on accounts is a list of guards and then an effect. It comes
to the fault of the first guard that is not met, or to the effect (`Guard.settle`); what the guards
of each operation are, in which order, and by which fault each one refuses is laid down in
`Holding.depositGuards` and its like, and each calculation on holdings is that list of guards and
that effect (`Holding.deposit_eq_settle` and its like).

On the machine an operation is therefore exact and atomic (`Bank.Settled`): with all guards met it
gives `None` and every account holds what the effect says; else it raises the fault of the first one
that is not, and no account has been written to.

A guard whose message has to show an integer of more digits than can be written refuses by the
`ValueError` of writing it (`withdraw_of_many_digits`).
-/

namespace Covenant

open Act

/-- A guard of an operation: whether it is met, and the fault by which it refuses if not. -/
structure Guard where
  met : Bool
  fault : Fault

namespace Guard

/-- The fault of the first of some guards that is not met. -/
def firstUnmet (guards : List Guard) : Option Fault :=
  (guards.find? (!·.met)).map (·.fault)

/-- What comes of some guards and then an effect. -/
def settle {β : Type} (guards : List Guard) (effect : β) : Except Fault β :=
  match firstUnmet guards with
  | some f => .error f
  | none => .ok effect

/-- The classes of the faults by which some guards refuse. -/
def classes (guards : List Guard) : List ClassRef :=
  guards.map (·.fault.cls)

variable {β : Type} {guards : List Guard} {f : Fault}

theorem settle_nil (effect : β) : settle [] effect = .ok effect :=
  rfl

/-- The first guard comes before the others. -/
theorem settle_cons (g : Guard) (guards : List Guard) (effect : β) :
    settle (g :: guards) effect =
      (demand .checked g.met g.fault >>= fun _ => settle guards effect) := by
  obtain ⟨met, fault⟩ := g
  cases met with
  | false => rw [demand_false]; rfl
  | true => rw [demand_true]; rfl

/-- No guard is unmet exactly if all are met. -/
theorem firstUnmet_eq_none_iff : firstUnmet guards = none ↔ ∀ g ∈ guards, g.met = true := by
  simp [firstUnmet]

/-- If only the last of some guards can refuse by a fault of a class, the first unmet one does so
exactly if all before the last are met and the last is not. -/
theorem firstUnmet_last {g : Guard} {c : ClassRef} (others : c ∉ classes guards) :
    (∃ f, firstUnmet (guards ++ [g]) = some f ∧ f.cls = c) ↔
      (∀ g' ∈ guards, g'.met = true) ∧ g.met = false ∧ g.fault.cls = c := by
  cases found : guards.find? (!·.met) with
  | some g' =>
    have mem := List.mem_of_find?_eq_some found
    have unmet := List.find?_some found
    have first : firstUnmet (guards ++ [g]) = some g'.fault := by
      simp [firstUnmet, List.find?_append, found]
    rw [first]
    constructor
    · rintro ⟨f, same, cls⟩
      cases same
      exact absurd (List.mem_map.2 ⟨g', mem, cls⟩) others
    · rintro ⟨all, -⟩
      simp [all g' mem] at unmet
  | none =>
    have all : ∀ g' ∈ guards, g'.met = true :=
      firstUnmet_eq_none_iff.1 (by simp [firstUnmet, found])
    have first : firstUnmet (guards ++ [g]) = firstUnmet [g] := by
      simp only [firstUnmet, List.find?_append, found, Option.none_or]
    rw [first]
    cases met : g.met with
    | true => simp [firstUnmet, met]
    | false =>
      constructor
      · rintro ⟨f, same, cls⟩
        simp only [firstUnmet, List.find?_cons, met, Bool.not_false, Option.map_some] at same
        exact ⟨all, rfl, Option.some.inj same ▸ cls⟩
      · rintro ⟨-, -, cls⟩
        exact ⟨g.fault, by simp [firstUnmet, met], cls⟩

end Guard

namespace Holding

/-- The guards of a deposit. -/
def depositGuards (h : Holding) (a : Int) : List Guard :=
  [⟨h.active, Side.pre.violation "Account must be active for deposits"⟩,
    ⟨0 < a, Side.pre.violation "Deposit amount must be positive"⟩,
    ⟨a ≤ depositLimit,
      Side.pre.violation (Side.pre.title ++ " failed: " ++ "amount <= DEPOSIT_LIMIT")⟩]

/-- The guard that keeps an amount within the daily limit. -/
def limitGuard (a : Int) : Guard :=
  ⟨a ≤ dailyLimit, aboveLimit a⟩

/-- The guards of a withdrawal that come before the daily limit. -/
def withdrawGuards (h : Holding) (a : Int) : List Guard :=
  [⟨h.active, Side.pre.violation "Cannot withdraw from inactive account"⟩,
    ⟨0 < a, Side.pre.violation "Withdrawal amount must be positive"⟩,
    ⟨a ≤ h.balance, shortage "Insufficient funds: requested " ", available " a h.balance⟩]

/-- The guards of a transfer that come before the daily limit; `same` says whether sender and
recipient are one account. -/
def transferGuards (same : Bool) (sender recipient : Holding) (a : Int) : List Guard :=
  [⟨sender.active, Side.pre.violation "Sender account must be active"⟩,
    ⟨recipient.active, Side.pre.violation "Recipient account must be active"⟩,
    ⟨!same, Side.pre.violation "Cannot transfer to the same account"⟩,
    ⟨0 < a, Side.pre.violation "Transfer amount must be positive"⟩,
    ⟨a ≤ sender.balance,
      shortage "Insufficient funds for transfer: need " ", have " a sender.balance⟩]

/-- The guard of closing. -/
def closeGuards (h : Holding) : List Guard :=
  [⟨h.balance = 0, Side.pre.violation (Side.pre.title ++ " failed: " ++ "self.balance == 0")⟩]

variable {h k : Holding} {a : Int} {same : Bool}

theorem withinLimit_eq_demand (a : Int) :
    withinLimit a = demand .checked (limitGuard a).met (limitGuard a).fault := by
  unfold withinLimit limitGuard demand
  by_cases above : dailyLimit < a
  · simp [above]
  · simp [above, Int.not_lt.1 above]

theorem deposit_eq_settle :
    h.deposit .checked a = Guard.settle (h.depositGuards a) (h.receive a) := by
  simp only [depositGuards, Guard.settle_cons, Guard.settle_nil]
  rfl

theorem withdraw_eq_settle : h.withdraw .checked a =
    Guard.settle (h.withdrawGuards a ++ [limitGuard a]) (h.pay a) := by
  simp only [withdrawGuards, List.cons_append, List.nil_append, Guard.settle_cons,
    Guard.settle_nil, ← withinLimit_eq_demand]
  rfl

theorem transfer_eq_settle : transfer .checked same h k a =
    Guard.settle (transferGuards same h k a ++ [limitGuard a]) () := by
  have last : withinLimit a = (withinLimit a >>= fun _ => .ok ()) := by
    cases withinLimit a <;> rfl
  simp only [transferGuards, List.cons_append, List.nil_append, Guard.settle_cons,
    Guard.settle_nil, ← withinLimit_eq_demand, ← last]
  rfl

theorem close_eq_settle :
    h.close .checked = Guard.settle h.closeGuards { h with active := false } := by
  simp only [closeGuards, Guard.settle_cons, Guard.settle_nil]
  rfl

/-! ### The faults of the guards -/

/-- The class by which a guard refuses whose message shows integers: a class of its own if they can
be written. -/
def refusal (written : Bool) (own : FaultClass) : ClassRef :=
  .known (.fault (if written then own else .valueError))

theorem shortage_cls (before between : String) (a b : Int) :
    (shortage before between a b).cls =
      refusal (isWritable a && isWritable b) .preconditionError := by
  unfold shortage refusal
  cases isWritable a && isWritable b <;> rfl

theorem limitGuard_cls (a : Int) :
    (limitGuard a).fault.cls = refusal (isWritable a) .dailyLimitExceeded := by
  unfold limitGuard aboveLimit refusal
  cases isWritable a <;> rfl

/-- The daily limit comes last. -/
theorem classes_limited {guards : List Guard} {classes : List ClassRef}
    (before : Guard.classes guards = classes) : Guard.classes (guards ++ [limitGuard a]) =
      classes ++ [refusal (isWritable a) .dailyLimitExceeded] := by
  rw [← before, ← limitGuard_cls]
  exact List.map_append

/-- A guard that refuses by the violation of a precondition whatever it is about. -/
abbrev plainly : ClassRef :=
  refusal true .preconditionError

theorem depositGuards_classes :
    Guard.classes (h.depositGuards a) = [plainly, plainly, plainly] :=
  rfl

theorem withdrawGuards_classes : Guard.classes (h.withdrawGuards a) =
    [plainly, plainly, refusal (isWritable a && isWritable h.balance) .preconditionError] := by
  rw [← shortage_cls "Insufficient funds: requested " ", available "]
  rfl

theorem transferGuards_classes : Guard.classes (transferGuards same h k a) =
    [plainly, plainly, plainly, plainly,
      refusal (isWritable a && isWritable h.balance) .preconditionError] := by
  rw [← shortage_cls "Insufficient funds for transfer: need " ", have "]
  rfl

theorem closeGuards_classes : Guard.classes h.closeGuards = [plainly] :=
  rfl

/-- The class of an amount above the limit is no class of a guard about something else. -/
theorem refusal_ne_limit (written : Bool) :
    refusal written .preconditionError ≠ .known (.fault .dailyLimitExceeded) := by
  cases written <;> exact nofun

theorem withdrawGuards_ne_limit :
    .known (.fault .dailyLimitExceeded) ∉ Guard.classes (h.withdrawGuards a) := by
  rw [withdrawGuards_classes]
  simp [(refusal_ne_limit _).symm]

theorem transferGuards_ne_limit :
    .known (.fault .dailyLimitExceeded) ∉ Guard.classes (transferGuards same h k a) := by
  rw [transferGuards_classes]
  simp [(refusal_ne_limit _).symm]

end Holding

namespace Bank

/-- A deal has come to the effect of its operation on what the accounts hold if all guards are met;
else to the fault of the first one that is not, with every account as it was. -/
def Settled (b : Bank) (d : Deal) (guards : List Guard) (effect : Ref → Holding → Holding) : Prop :=
  match Guard.firstUnmet guards with
  | some f => ∃ e, b.outcome d = .raised e ∧ (b.after d).machine.cell e = .fault f ∧
      ∀ r ∈ b.accounts, (b.after d).machine.cell r = b.machine.cell r
  | none => b.outcome d = .done .null ∧
      ∀ r ∈ b.accounts, (effect r (b.machine.holding r)).At (b.after d).machine r

/-- A change of one account. -/
def onlyAt (s : Ref) (change : Holding → Holding) (r : Ref) (h : Holding) : Holding :=
  if r = s then change h else h

/-- A deal ends with a fault of a given class. -/
def Raises (b : Bank) (d : Deal) (cls : FaultClass) : Prop :=
  ∃ e f, b.outcome d = .raised e ∧ (b.after d).machine.cell e = .fault f ∧
    f.cls = .known (.fault cls)

/-- A deal ends with the fault of an amount above a limit, which carries both. -/
def ExceedsLimit (b : Bank) (d : Deal) (amount limit : Int) : Prop :=
  ∃ e f, b.outcome d = .raised e ∧ (b.after d).machine.cell e = .fault f ∧
    f.cls = .known (.fault .dailyLimitExceeded) ∧
    f.fields = [("amount", .int amount), ("limit", .int limit)]

variable {b : Bank} {d : Deal} {guards : List Guard} {effect : Ref → Holding → Holding}
  {i j : Nat} {r s t : Ref} {a : Int} {m n : Machine}

/-- A deal whose run agrees with guards and an effect has settled. -/
theorem Orderly.settled {β : Type} {written : List Ref} {run : Outcome Value × Machine} {x : β}
    {post : β → Value → Machine → Prop} (orderly : b.Orderly .checked)
    (ran : b.perform d b.machine = run)
    (agrees : Agrees b.machine written run (Guard.settle guards x) post)
    (done : Guard.firstUnmet guards = none → ∀ v n, b.machine.Grows written n → post x v n →
      v = .null ∧ ∀ r ∈ b.accounts, (effect r (b.machine.holding r)).At n r) :
    b.Settled d guards effect := by
  unfold Settled
  unfold Guard.settle at agrees
  cases unmet : Guard.firstUnmet guards with
  | some f =>
    rw [unmet] at agrees
    obtain ⟨e, n, raised, grew, cell⟩ := agrees
    have machine : (b.after d).machine = n := congrArg Prod.snd (ran.trans raised)
    refine ⟨e, congrArg Prod.fst (ran.trans raised), machine ▸ cell, fun r mem => ?_⟩
    rw [machine]
    exact grew.cell r (orderly.held r mem).lt_size List.not_mem_nil
  | none =>
    rw [unmet] at agrees
    obtain ⟨v, n, ended, grew, holds⟩ := agrees
    obtain ⟨rfl, left⟩ := done unmet v n grew holds
    have machine : (b.after d).machine = n := congrArg Prod.snd (ran.trans ended)
    exact ⟨congrArg Prod.fst (ran.trans ended), machine ▸ left⟩

/-- Where one account has been written to, the others hold what they did. -/
theorem Orderly.onlyAt_held {change : Holding → Holding} (orderly : b.Orderly .checked)
    (grew : b.machine.Grows [s] n) (here : (change (b.machine.holding s)).At n s) :
    ∀ r ∈ b.accounts, (onlyAt s change r (b.machine.holding r)).At n r := by
  intro r mem
  unfold onlyAt
  by_cases same : r = s
  · subst same
    rw [if_pos rfl]
    exact here
  · rw [if_neg same]
    exact (orderly.held r mem).grows grew fun mem => same (List.mem_singleton.1 mem)

theorem Orderly.settled_deposit (orderly : b.Orderly .checked) (at_i : b.accounts[i]? = some s)
    (a : Int) : b.Settled (.deposit i a) ((b.machine.holding s).depositGuards a)
      (onlyAt s (·.receive a)) := by
  obtain ⟨here, sound⟩ := orderly.at at_i
  have agrees := operate_deposit_agrees orderly.ready here sound a
  rw [Holding.deposit_eq_settle] at agrees
  refine orderly.settled (bind_of_done (account_of_some at_i _) _) agrees ?_
  rintro - v n grew ⟨null, left⟩
  exact ⟨null, orderly.onlyAt_held grew left⟩

/-- A deposit all of whose guards are met. -/
theorem Orderly.deposit_done (orderly : b.Orderly .checked) (at_i : b.accounts[i]? = some s)
    (met : Guard.firstUnmet ((b.machine.holding s).depositGuards a) = none) :
    b.outcome (.deposit i a) = .done .null ∧ ∀ r ∈ b.accounts,
      (onlyAt s (·.receive a) r (b.machine.holding r)).At (b.after (.deposit i a)).machine r := by
  have settled := orderly.settled_deposit at_i a
  unfold Settled at settled
  rw [met] at settled
  exact settled

theorem Orderly.settled_withdraw (orderly : b.Orderly .checked) (at_i : b.accounts[i]? = some s)
    (a : Int) : b.Settled (.withdraw i a)
      ((b.machine.holding s).withdrawGuards a ++ [Holding.limitGuard a])
      (onlyAt s (·.pay a)) := by
  obtain ⟨here, sound⟩ := orderly.at at_i
  have agrees := operate_withdraw_agrees orderly.ready here sound a
  rw [Holding.withdraw_eq_settle] at agrees
  refine orderly.settled (bind_of_done (account_of_some at_i _) _) agrees ?_
  rintro - v n grew ⟨null, left⟩
  exact ⟨null, orderly.onlyAt_held grew left⟩

theorem Orderly.settled_close (orderly : b.Orderly .checked) (at_i : b.accounts[i]? = some s) :
    b.Settled (.close i) (b.machine.holding s).closeGuards
      (onlyAt s fun h => { h with active := false }) := by
  obtain ⟨here, sound⟩ := orderly.at at_i
  have agrees := operate_close_agrees orderly.ready here sound
  rw [Holding.close_eq_settle] at agrees
  refine orderly.settled (bind_of_done (account_of_some at_i _) _) agrees ?_
  rintro - v n grew ⟨null, left⟩
  exact ⟨null, orderly.onlyAt_held grew left⟩

/-- A transfer between two accounts pays out of the one and into the other. -/
theorem Orderly.settled_transfer (orderly : b.Orderly .checked) (at_i : b.accounts[i]? = some s)
    (at_j : b.accounts[j]? = some t) (a : Int) : b.Settled (.transfer i j a)
      (Holding.transferGuards (s = t) (b.machine.holding s) (b.machine.holding t) a ++
        [Holding.limitGuard a])
      (fun r => onlyAt t (·.receive a) r ∘ onlyAt s (·.pay a) r) := by
  obtain ⟨sender, sound⟩ := orderly.at at_i
  obtain ⟨recipient, soundToo⟩ := orderly.at at_j
  have agrees := operate_transfer_agrees orderly.ready sender recipient
    (fun checked => ⟨sound checked, soundToo checked⟩) a
  rw [Holding.transfer_eq_settle] at agrees
  have ran : b.perform (.transfer i j a) b.machine =
      Session.operate (.ref s) "transfer" [.ref t, .int a] [] b.machine :=
    (bind_of_done (account_of_some at_i _) _).trans (bind_of_done (account_of_some at_j _) _)
  refine orderly.settled ran agrees ?_
  rintro met v n grew ⟨null, moved⟩
  have apart : s ≠ t := by
    have all := Guard.firstUnmet_eq_none_iff.1 met
    simpa using all ⟨!(decide (s = t)), Side.pre.violation "Cannot transfer to the same account"⟩
      (by simp [Holding.transferGuards])
  rw [Moved, if_neg apart] at moved
  refine ⟨null, fun r mem => ?_⟩
  simp only [Function.comp_apply, onlyAt]
  by_cases mine : r = s
  · subst mine
    rw [if_neg apart, if_pos rfl]
    exact moved.1
  · by_cases yours : r = t
    · subst yours
      rw [if_pos rfl, if_neg mine]
      exact moved.2
    · rw [if_neg yours, if_neg mine]
      exact (orderly.held r mem).grows grew (by simp [mine, yours])

/-! ### The daily limit -/

/-- A deal that has settled raises the fault of the first guard that is not met and no other. -/
theorem Settled.raises_iff (settled : b.Settled d guards effect) {cls : FaultClass} :
    b.Raises d cls ↔ ∃ f, Guard.firstUnmet guards = some f ∧ f.cls = .known (.fault cls) := by
  unfold Settled at settled
  cases unmet : Guard.firstUnmet guards with
  | some f =>
    rw [unmet] at settled
    obtain ⟨e, raised, cell, -⟩ := settled
    constructor
    · rintro ⟨e', f', raised', cell', is⟩
      cases raised.symm.trans raised'
      cases cell.symm.trans cell'
      exact ⟨f, rfl, is⟩
    · rintro ⟨f', same, is⟩
      cases same
      exact ⟨e, f, raised, cell, is⟩
  | none =>
    rw [unmet] at settled
    constructor
    · rintro ⟨e, -, raised, -⟩
      cases settled.1.symm.trans raised
    · rintro ⟨f, same, -⟩
      cases same

/-- A deal about an amount raises the fault of the daily limit exactly if the guards before it are
met and the amount is above the limit and can be written; the fault carries the amount and the
limit. -/
structure Limited (b : Bank) (d : Deal) (amount : Int) (before : Prop) : Prop where
  raises : b.Raises d .dailyLimitExceeded ↔
    before ∧ dailyLimit < amount ∧ isWritable amount = true
  carries : b.Raises d .dailyLimitExceeded → b.ExceedsLimit d amount dailyLimit

/-- A deal whose last guard is the daily limit is limited by it. -/
theorem Settled.limited (settled : b.Settled d (guards ++ [Holding.limitGuard a]) effect)
    (others : .known (.fault .dailyLimitExceeded) ∉ Guard.classes guards) :
    b.Limited d a (∀ g ∈ guards, g.met = true) := by
  have unmet : (Holding.limitGuard a).met = false ↔ dailyLimit < a := by
    simp [Holding.limitGuard]
  have shown : (Holding.limitGuard a).fault.cls = .known (.fault .dailyLimitExceeded) ↔
      isWritable a = true := by
    rw [Holding.limitGuard_cls]
    cases isWritable a with
    | true => exact ⟨fun _ => rfl, fun _ => rfl⟩
    | false => exact ⟨nofun, nofun⟩
  have raises : b.Raises d .dailyLimitExceeded ↔
      (∀ g ∈ guards, g.met = true) ∧ dailyLimit < a ∧ isWritable a = true := by
    rw [settled.raises_iff, Guard.firstUnmet_last others, unmet, shown]
  refine ⟨raises, fun raised => ?_⟩
  obtain ⟨all, above, few⟩ := raises.1 raised
  have first : Guard.firstUnmet (guards ++ [Holding.limitGuard a]) =
      some (Holding.aboveLimit a) := by
    have passed : guards.find? (!·.met) = none := by simpa using all
    have last : (Holding.limitGuard a).met = false := unmet.2 above
    have fault : (Holding.limitGuard a).fault = Holding.aboveLimit a := by
      simp only [Holding.limitGuard]
    unfold Guard.firstUnmet
    rw [List.find?_append, passed, Option.none_or, List.find?_cons_of_pos (by simp [last]),
      Option.map_some, fault]
  unfold Settled at settled
  rw [first] at settled
  obtain ⟨e, ended, cell, -⟩ := settled
  refine ⟨e, _, ended, cell, ?_, ?_⟩
  · simp only [Holding.aboveLimit, few, if_true]
    rfl
  · simp only [Holding.aboveLimit, few, if_true]
    rfl

/-! ## All operations -/

/-- An operation has settled, and its guards refuse by faults of given classes. -/
structure Exact (b : Bank) (d : Deal) (guards : List Guard) (classes : List ClassRef)
    (effect : Ref → Holding → Holding) : Prop where
  settled : b.Settled d guards effect
  classes : Guard.classes guards = classes

/-- No other fault is raised than those by which the guards refuse. -/
theorem Exact.not_raises {classes : List ClassRef} {cls : FaultClass}
    (exact : b.Exact d guards classes effect) (other : .known (.fault cls) ∉ classes) :
    ¬ b.Raises d cls := by
  rw [exact.settled.raises_iff]
  rintro ⟨f, unmet, is⟩
  obtain ⟨g, found, rfl⟩ := Option.map_eq_some_iff.1 unmet
  refine other ?_
  rw [← exact.classes]
  exact List.mem_map.2 ⟨g, List.mem_of_find?_eq_some found, is⟩

open Holding in
/-- After any number of deals in a process that checks, a deposit, a withdrawal, a transfer or a
closing has exactly its effect if all of its guards are met, and no effect but the fault of the
first one that is not. The faults are violations of preconditions but for the one of the daily
limit, which is raised exactly if the guards before it are met and the amount is above the limit,
and which carries both. A fault whose message shows an integer that cannot be written is the
`ValueError` about that instead. -/
theorem operations_are_exact (ready : m.Ready .checked) (deals : List Deal) {i : Nat} {s : Ref}
    (at_i : ((Bank.mk m []).afterAll deals).accounts[i]? = some s) :
    let b := (Bank.mk m []).afterAll deals
    let h := b.machine.holding s
    (∀ a, b.Exact (.deposit i a) (h.depositGuards a) [plainly, plainly, plainly]
        (onlyAt s (·.receive a)) ∧
      ¬ b.Raises (.deposit i a) .dailyLimitExceeded) ∧
    (∀ a, b.Exact (.withdraw i a) (h.withdrawGuards a ++ [limitGuard a])
        ([plainly, plainly, refusal (isWritable a && isWritable h.balance) .preconditionError] ++
          [refusal (isWritable a) .dailyLimitExceeded]) (onlyAt s (·.pay a)) ∧
      b.Limited (.withdraw i a) a (h.active = true ∧ 0 < a ∧ a ≤ h.balance)) ∧
    (∀ j t a, b.accounts[j]? = some t →
      let k := b.machine.holding t
      b.Exact (.transfer i j a) (transferGuards (s = t) h k a ++ [limitGuard a])
        ([plainly, plainly, plainly, plainly,
          refusal (isWritable a && isWritable h.balance) .preconditionError] ++
          [refusal (isWritable a) .dailyLimitExceeded])
        (fun r => onlyAt t (·.receive a) r ∘ onlyAt s (·.pay a) r) ∧
      b.Limited (.transfer i j a) a
        (h.active = true ∧ k.active = true ∧ s ≠ t ∧ 0 < a ∧ a ≤ h.balance)) ∧
    b.Exact (.close i) h.closeGuards [plainly] (onlyAt s fun h => { h with active := false }) ∧
      ¬ b.Raises (.close i) .dailyLimitExceeded := by
  intro b h
  have orderly : b.Orderly .checked := (orderly_empty ready).afterAll deals
  refine ⟨fun a => ?deposit, fun a => ?withdraw, fun j t a at_j => ?transfer, ?close⟩
  case deposit =>
    have exact : b.Exact (.deposit i a) (h.depositGuards a) [plainly, plainly, plainly]
        (onlyAt s (·.receive a)) :=
      ⟨orderly.settled_deposit at_i a, depositGuards_classes⟩
    exact ⟨exact, exact.not_raises (by simp [refusal])⟩
  case withdraw =>
    have settled := orderly.settled_withdraw at_i a
    have limited := settled.limited withdrawGuards_ne_limit
    refine ⟨⟨settled, classes_limited withdrawGuards_classes⟩, ?_⟩
    simpa [withdrawGuards] using limited
  case transfer =>
    have settled := orderly.settled_transfer at_i at_j a
    have limited := settled.limited transferGuards_ne_limit
    refine ⟨⟨settled, classes_limited transferGuards_classes⟩, ?_⟩
    simpa [transferGuards] using limited
  case close =>
    have exact : b.Exact (.close i) h.closeGuards [plainly]
        (onlyAt s fun h => { h with active := false }) :=
      ⟨orderly.settled_close at_i, closeGuards_classes⟩
    exact ⟨exact, exact.not_raises (by simp [refusal])⟩

/-- With a hundred thousand in the account, sixty thousand are above the limit. -/
theorem operations_are_exact_above_limit :
    ((Bank.mk Session.Launch.usualMachine []).afterAll
      [.opening 1, .deposit 0 100000]).ExceedsLimit (.withdraw 0 60000) 60000 50000 := by
  let b := (Bank.mk Session.Launch.usualMachine []).afterAll [.opening 1]
  have orderly : b.Orderly .checked := (orderly_empty Session.Launch.ready_usual).afterAll _
  have at_0 : b.accounts[0]? = some 1 := by with_unfolding_all decide
  have opened : b.machine.holding 1 = ⟨1, 0, true, 0⟩ := by with_unfolding_all rfl
  -- what the account holds after the deposit
  have met : Guard.firstUnmet ((b.machine.holding 1).depositGuards 100000) = none := by
    rw [opened, Guard.firstUnmet_eq_none_iff]
    simp [Holding.depositGuards, depositLimit]
  have held := ((orderly.deposit_done at_0 met).2 1 (List.mem_of_getElem? at_0)).holding
  rw [opened] at held
  have exact := operations_are_exact (i := 0) (s := 1) Session.Launch.ready_usual
    [.opening 1, .deposit 0 100000] at_0
  have limited := (exact.2.1 60000).2
  refine limited.carries (limited.raises.2 ⟨⟨?_, by decide, ?_⟩, by decide,
    isWritable_of_natAbs_lt (by decide)⟩)
  · exact congrArg Holding.active held
  · exact Int.le_trans (by decide) (Int.le_of_eq (congrArg Holding.balance held).symm)

/-- The withdrawal of an amount that cannot be written from an active account that does not cover it
raises no violation of a precondition. -/
theorem Orderly.withdraw_unwritable (orderly : b.Orderly .checked)
    (at_i : b.accounts[i]? = some s) (active : (b.machine.holding s).active = true)
    (positive : 0 < a) (short : ¬ a ≤ (b.machine.holding s).balance)
    (many : isWritable a = false) :
    b.Raises (.withdraw i a) .valueError ∧ ¬ b.Raises (.withdraw i a) .preconditionError := by
  have settled := orderly.settled_withdraw at_i a
  have unmet : Guard.firstUnmet
      ((b.machine.holding s).withdrawGuards a ++ [Holding.limitGuard a]) = some unwritable := by
    simp [Guard.firstUnmet, Holding.withdrawGuards, active, positive, short, Holding.shortage, many]
  refine ⟨settled.raises_iff.2 ⟨_, unmet, rfl⟩, fun raised => ?_⟩
  obtain ⟨f, first, is⟩ := settled.raises_iff.1 raised
  cases unmet.symm.trans first
  cases is

/-- An amount with one digit too many meets the guards of a withdrawal from a new account up to the
one on the balance, which it does not meet; but what is raised is the fault of writing the amount.
-/
theorem withdraw_of_many_digits :
    ∃ a : Int, a.natAbs = Number.writableLimit ∧
      let b := (Bank.mk Session.Launch.usualMachine []).afterAll [.opening 1]
      let h := b.machine.holding 1
      b.accounts[0]? = some 1 ∧ h.active = true ∧ 0 < a ∧ ¬ a ≤ h.balance ∧
        b.Raises (.withdraw 0 a) .valueError ∧ ¬ b.Raises (.withdraw 0 a) .preconditionError := by
  have writable : 0 < Number.writableLimit := Nat.zero_lt_of_lt dailyLimit_lt_writableLimit
  generalize limit : Number.writableLimit = most at writable
  refine ⟨most, Int.natAbs_natCast most, ?_⟩
  intro b h
  have orderly : b.Orderly .checked := (orderly_empty Session.Launch.ready_usual).afterAll _
  have at_0 : b.accounts[0]? = some 1 := by with_unfolding_all decide
  have active : h.active = true := by with_unfolding_all decide
  have empty : h.balance = 0 := by with_unfolding_all decide
  have positive : 0 < (most : Int) := Int.natCast_pos.2 writable
  have short : ¬ (most : Int) ≤ h.balance := by
    rw [empty]
    exact Int.not_le.2 positive
  have many : isWritable most = false := by simp [isWritable, limit]
  obtain ⟨raises, other⟩ := orderly.withdraw_unwritable at_0 active positive short many
  exact ⟨at_0, active, positive, short, raises, other⟩

end Bank

end Covenant
