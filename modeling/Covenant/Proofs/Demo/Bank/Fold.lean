import Covenant.Proofs.Contract.Record
import Covenant.Proofs.Demo.Bank.Guards

/-!
# Batches as folds of deposits

In a process that checks, a batch on an active account comes to the single deposits of its amounts
up to the first bad one (`Holding.firstBad`), and to the fault of that one if there is any
(`Holding.batch_of_active`). On the machine it leaves every account as those deposits do, made one
after the other, and each of them succeeds (`Orderly.batched`, `Orderly.deposits`).

The body of a batch makes no check, so the records tell whether the exit check was made: where the
batch has stopped there is the record of the entry check only (`operate_depositBatch_checks`).

A batch of two lists is the batch of the one and, if that comes to its end, the batch of the other
(`Holding.batch_append`).
-/

namespace Covenant

open Act

namespace Holding

/-- An amount that a batch does not take: it is not positive, or above the daily limit. -/
def isBad (a : Int) : Bool :=
  a ≤ 0 || dailyLimit < a

/-- The fault by which a batch refuses a bad amount. -/
def badAmount (a : Int) : Fault :=
  if a ≤ 0 then Side.pre.violation "Deposit amount must be positive" else aboveLimit a

/-- The position of the first bad amount; the number of amounts if there is none. -/
def firstBad (amounts : List Int) : Nat :=
  amounts.findIdx isBad

variable {p : Profile} {h : Holding} {a applied total : Int} {xs ys : List Int}

/-! ## Single amounts -/

theorem accept_eq : accept .checked a = if isBad a then .error (badAmount a) else .ok () := by
  unfold accept withinLimit isBad badAmount
  by_cases positive : 0 < a
  · have above : ¬ a ≤ 0 := Int.not_le.2 positive
    rw [decide_eq_true positive, demand_true, decide_eq_false above, if_neg above, Bool.false_or]
    simp only [decide_eq_true_eq]
    rfl
  · have below : a ≤ 0 := Int.not_lt.1 positive
    rw [decide_eq_false positive, demand_false, decide_eq_true below, if_pos below, Bool.true_or,
      if_pos rfl]
    rfl

/-- An amount that is not bad meets the guards of a deposit on an active account. -/
theorem firstUnmet_deposit (active : h.active = true) (good : isBad a = false) :
    Guard.firstUnmet (h.depositGuards a) = none := by
  simp only [isBad, Bool.or_eq_false_iff, decide_eq_false_iff_not] at good
  have within : a ≤ depositLimit := Int.le_trans (Int.not_lt.1 good.2) (by decide)
  rw [Guard.firstUnmet_eq_none_iff]
  simp [depositGuards, active, within, Int.not_le.1 good.1]

/-! ## Whole batches -/

/-- Amounts that come in one after the other add up. -/
theorem foldl_receive (h : Holding) (xs : List Int) :
    xs.foldl receive h =
      { h with balance := h.balance + xs.sum, count := h.count + xs.length } := by
  induction xs generalizing h with
  | nil => simp
  | cons a rest ih =>
    simp only [List.foldl_cons, ih, receive, List.sum_cons, List.length_cons, Holding.mk.injEq,
      true_and]
    omega

/-- A walk takes in what comes before the first bad amount, and ends with the fault of that one if
there is any. -/
theorem walk_eq (h : Holding) (applied : Int) (xs : List Int) :
    walk .checked h applied xs = ((xs.take (firstBad xs)).foldl receive h,
      match xs[firstBad xs]? with
      | none => .ok (applied + xs.sum)
      | some x => .error (badAmount x)) := by
  induction xs generalizing h applied with
  | nil => simp [walk]
  | cons a rest ih =>
    rw [walk, accept_eq]
    cases bad : isBad a with
    | true => simp [firstBad, List.findIdx_cons, bad]
    | false =>
      have next : firstBad (a :: rest) = firstBad rest + 1 := by
        simp [firstBad, List.findIdx_cons, bad]
      rw [next, List.getElem?_cons_succ, List.take_succ_cons, List.foldl_cons, List.sum_cons,
        ← Int.add_assoc]
      exact ih (h.receive a) (applied + a)

/-- What a batch on an active account comes to. -/
theorem batch_of_active (active : h.active = true) (xs : List Int) :
    h.batch .checked xs = ((xs.take (firstBad xs)).foldl receive h,
      match xs[firstBad xs]? with
      | none => .ok xs.sum
      | some x => .error (badAmount x)) := by
  have walked := walk_eq h 0 xs
  rw [Int.zero_add] at walked
  rw [← walked, batch, active, demand_true]

/-- An account that is not active refuses batches. -/
theorem batch_of_inactive (inactive : h.active = false) (xs : List Int) :
    h.batch .checked xs = (h, .error (Side.pre.violation "Account must be active for deposits")) := by
  rw [batch, inactive, demand_false]

/-- The amounts before the first bad one are not bad. -/
theorem good_of_mem_take {x : Int} (mem : x ∈ xs.take (firstBad xs)) : isBad x = false := by
  obtain ⟨j, lt, rfl⟩ := List.getElem_of_mem mem
  rw [List.getElem_take]
  have before : j < firstBad xs := by
    rw [List.length_take] at lt
    omega
  exact List.not_of_lt_findIdx before

/-- The first bad amount is bad. -/
theorem bad_of_firstBad {x : Int} (at_k : xs[firstBad xs]? = some x) :
    x ≤ 0 ∨ dailyLimit < x := by
  obtain ⟨lt, rfl⟩ := List.getElem?_eq_some_iff.1 at_k
  have bad : isBad xs[firstBad xs] = true := List.findIdx_getElem (w := lt)
  simpa [isBad] using bad

/-! ## One batch after another -/

/-- A walk that has taken something in before gives that much more. -/
theorem walk_shift (p : Profile) (h : Holding) (total applied : Int) (xs : List Int) :
    walk p h (total + applied) xs =
      ((walk p h applied xs).1, (walk p h applied xs).2.map (total + ·)) := by
  induction xs generalizing h applied with
  | nil => rfl
  | cons a rest ih =>
    unfold walk
    cases accept p a with
    | ok u =>
      rw [Int.add_assoc]
      exact ih (h.receive a) (applied + a)
    | error f => rfl

/-- A walk over two lists goes on where the one over the first has ended. -/
theorem walk_append (done : (walk p h applied xs).2 = .ok total) (ys : List Int) :
    walk p h applied (xs ++ ys) = walk p (walk p h applied xs).1 total ys := by
  induction xs generalizing h applied with
  | nil =>
    cases done
    rfl
  | cons a rest ih =>
    rw [walk] at done
    rw [List.cons_append, walk, walk]
    cases accepted : accept p a with
    | ok u =>
      rw [accepted] at done
      exact ih done
    | error f =>
      rw [accepted] at done
      cases done

/-- A batch of two lists goes on as a second batch where the first one has ended, and gives the sum
of what both give. -/
theorem batch_append (done : (h.batch p xs).2 = .ok total) (ys : List Int) :
    h.batch p (xs ++ ys) =
      (((h.batch p xs).1.batch p ys).1, ((h.batch p xs).1.batch p ys).2.map (total + ·)) := by
  have active : (h.batch p xs).1.active = h.active := by rw [batch_fst]
  unfold batch at done active ⊢
  cases met : demand p h.active (Side.pre.violation "Account must be active for deposits") with
  | ok u =>
    rw [met] at done active
    dsimp only at done active ⊢
    rw [active, met]
    dsimp only
    rw [walk_append done, ← walk_shift, Int.add_zero]
  | error f =>
    rw [met] at done
    cases done

end Holding

/-- The records of the checks of a batch, which ends with a result or with a fault. -/
def batchChecks : Except Fault Int → List String
  | .ok _ => [checkText "BankAccount" .entry, checkText "BankAccount" .exit]
  | .error _ => [checkText "BankAccount" .entry]

namespace Act

variable {m n : Machine} {r l old : Ref} {h : Holding} {amounts : List Int} {d : Nat}

/-! ## The records of a batch -/

/-- Taking in one amount is silent. -/
theorem applyOne_silent (ready : m.Ready .checked) (here : h.At m r) (applied a : Int) :
    Silent m (Account.applyOne (callWithin (d + 2)) (.ref r) (.int applied) (.int a) m) := by
  have made := Machine.Grows.push [] m (.object (.known .positive) [])
  have there := Machine.cell_push_size m (.object (.known .positive) [])
  unfold Account.applyOne
  rw [bind_of_done (newPositive_apply m)]
  refine Silent.bind (assertPositive_silent (ready.grows made) .pre a _ there) fun u n ran => ?_
  obtain ⟨-, -, grows, -⟩ := (assertPositive_agrees (ready.grows made) .pre a _ there).result ran
  have grew : m.Grows [] n := made.trans grows
  have ready' := ready.grows grew
  have limited := limitDaily_eq (callWithin (d + 2)) ready'.free a
  cases within : Holding.withinLimit a with
  | ok u =>
    rw [within] at limited
    obtain ⟨c₁, c₂, added, counted, -⟩ :=
      receive_eq (callWithin (d + 2)) ready'.plain (here.kept grew) a
    rw [bind_of_done limited, bind_of_done added, bind_of_done counted, arithmeticInPlace_add]
    rfl
  | error f =>
    rw [within] at limited
    rw [bind_of_raised limited]
    rfl

/-- The walk over the amounts of a batch is silent. -/
theorem applyBatch_silent (ready : m.Ready .checked) (here : h.At m r) (applied : Int)
    (amounts : List Int) :
    Silent m (Account.applyBatch (callWithin (d + 2)) (.ref r) (.int applied)
      (amounts.map .int) m) := by
  -- The machine and the holding change with every amount that is taken.
  induction amounts generalizing m h applied with
  | nil => rfl
  | cons a rest ih =>
    rw [List.map_cons, Account.applyBatch]
    refine Silent.bind (applyOne_silent ready here applied a) fun v n ran => ?_
    obtain ⟨-, -, grew, rfl, received⟩ := (applyOne_agrees ready here applied a).result ran
    exact ih (ready.grows grew) received (applied + a)

/-- The body of a batch is silent. -/
theorem batchBody_silent
    (entered : Entered .checked m h r [("balance", .int h.balance)] old)
    (list : m.cell l = .list (amounts.map .int)) :
    Silent m (Account.batchBody (callWithin (d + 2)) (.ref r) (.ref old) (.ref l) m) := by
  have stopped := applyBatch_stopped (d := d) entered.ready entered.here 0 amounts
  unfold Account.batchBody
  rw [bind_of_done entered.here.field_active]
  refine Silent.bind (assertThat_silent entered.ready .pre _ _) fun u n ran => ?_
  obtain ⟨-, -, -, rfl⟩ := (assertThat_agrees entered.ready .pre _ _).result ran
  refine Silent.bind ?_ fun v k ran => ?_
  · rw [applyItems_list _ list]
    exact applyBatch_silent entered.ready entered.here 0 amounts
  · rw [applyItems_list _ list] at ran
    obtain ⟨k', grew, here, ended⟩ := stopped
    cases result : (h.walk .checked 0 amounts).2 with
    | ok total =>
      rw [result] at ended
      cases ran.symm.trans ended
      have snapshot := grew.cell_eq entered.snapshot nofun
        (fun mem => entered.not_mem entered.here (List.mem_cons_of_mem r mem))
      rw [bind_of_done here.field_balance, bind_of_done (field_of_snapshot snapshot rfl),
        bind_of_done (arithmetic_add _ h.balance total _), bind_of_done (compare_int _ .eq _ _ _)]
      exact Silent.bind (assertThat_silent (entered.ready.grows grew) .post _ _) fun _ _ _ => rfl
    | error f =>
      rw [result] at ended
      obtain ⟨e, raised, -⟩ := ended
      cases ran.symm.trans raised

/-- The check of a sound account records itself. -/
theorem checks_checkAt_account (ready : m.Ready .checked) (here : h.At m r) (sound : h.Sound)
    (c : Checkpoint) : (checkAt (callWithin (d + 1)) (.ref r) c m).2.checks =
      m.checks ++ [checkText "BankAccount" c] :=
  checks_checkAt_of_holds (k := .account) (r := .accountInvariant) ready.plain ready.active
    here.classOf rfl (fun _ grew => accountInvariant_apply _ (here.kept grew) sound) c

/-- A silent body under an error-tolerant contract: the exit check is recorded only if the body
comes to its end. -/
theorem tolerant_checks {calculation : Holding × Except Fault Int} {body : Body} {o : Value}
    (ready : m.Ready .checked) (here : h.At m r) (sound : h.Sound)
    (body_stopped : ∀ n, m.Grows [] n → Stopped n r (body o (.ref r) n) calculation)
    (body_silent : ∀ n, m.Grows [] n → Silent n (body o (.ref r) n))
    (stays : calculation.1.Sound) :
    (runUnder (callWithin (d + 1)) .checked (.ref r) o body (.member (.mode .errorTolerant))
      m).2.checks = m.checks ++ batchChecks calculation.2 := by
  rw [runUnder_checked]
  obtain ⟨m₁, entry, grew₁⟩ := (checksPass_account (d := d) ready here sound).now .entry
  have entered := checks_checkAt_account (d := d) ready here sound .entry
  rw [entry] at entered
  obtain ⟨m₂, grew₂, left, ended⟩ := body_stopped m₁ grew₁
  have silent := body_silent m₁ grew₁
  have grew : m.Grows [r] m₂ := grew₁.weaken.trans grew₂
  cases result : calculation.2 with
  | ok total =>
    rw [result] at ended
    rw [ended] at silent
    obtain ⟨n, exit, -⟩ := (checksPass_account (d := d) (ready.grows grew) left stays).now .exit
    have exited := checks_checkAt_account (d := d) (ready.grows grew) left stays .exit
    rw [exit] at exited
    rw [run_of_done (i := ⟨.errorTolerant, .ref r, o, body⟩) entry ended exit]
    calc n.checks = m₂.checks ++ [checkText "BankAccount" .exit] := exited
      _ = m₁.checks ++ [checkText "BankAccount" .exit] := congrArg (· ++ _) silent
      _ = m.checks ++ batchChecks (.ok total) := by rw [entered, List.append_assoc]; rfl
  | error f =>
    rw [result] at ended
    obtain ⟨e, raised, -⟩ := ended
    rw [raised] at silent
    have left : ContractRun.run (callWithin (d + 1)) ⟨.errorTolerant, .ref r, o, body⟩ m =
        (.raised e, m₂) :=
      (run_of_raised (i := ⟨.errorTolerant, .ref r, o, body⟩) entry raised).trans
        (leave_errorTolerant rfl)
    rw [left]
    exact silent.trans entered

/-- Calling the method for batches records the entry check, and the exit check only if the batch
comes to its end. -/
theorem operate_depositBatch_checks (ready : m.Ready .checked) (here : h.At m r) (sound : h.Sound)
    (stored : l < m.heap.size) (list : m.cell l = .list (amounts.map .int)) :
    (Session.operate (.ref r) "deposit_batch" [.ref l] [] m).2.checks =
      m.checks ++ batchChecks (h.batch .checked amounts).2 := by
  have bound := Machine.Grows.push [] m (.bound (.ref r) (.routine .accountDepositBatch))
  have ready' := ready.grows bound
  have here' := here.kept bound
  have entered := entered_push ready' here' [("balance", .int h.balance)]
  have grew := bound.trans (.push [] _ (.snapshot [("balance", .int h.balance)]))
  obtain ⟨body, same, ran⟩ := depositBatch_eq (d := callDepth - 4) ready' here' l
  have body_entered (n : Machine) (grows : Machine.Grows [] _ n) := entered.grows grows
  have kept (n : Machine) (grows : Machine.Grows [] _ n) : n.cell l = .list (amounts.map .int) :=
    ((grew.trans grows).cell l stored List.not_mem_nil).trans list
  rw [operate_depositBatch_eq ready here l, ran]
  refine tolerant_checks entered.ready entered.here sound (fun n grows => ?_) (fun n grows => ?_)
    (Holding.batch_sound sound)
  · rw [same]
    exact batchBody_stopped (body_entered n grows) (kept n grows)
  · rw [same]
    exact batchBody_silent (body_entered n grows) (kept n grows)

end Act

namespace Bank

/-- A deal ends with a fault. -/
def Fails (b : Bank) (d : Deal) (f : Fault) : Prop :=
  ∃ e, b.outcome d = .raised e ∧ (b.after d).machine.cell e = .fault f

/-- Two banks with the same accounts, which are the same in every field. -/
def Alike (b c : Bank) : Prop :=
  b.accounts = c.accounts ∧ ∀ r ∈ b.accounts, b.machine.cell r = c.machine.cell r

variable {b c : Bank} {d : Deal} {i : Nat} {s : Ref} {x total : Int} {xs ys : List Int}
  {m : Machine} {f : Fault} {h : Holding}

/-- Accounts that hold the same are the same in every field. -/
theorem alike_of_at {held : Ref → Holding} (accounts : b.accounts = c.accounts)
    (left : ∀ r ∈ b.accounts, (held r).At b.machine r)
    (right : ∀ r ∈ b.accounts, (held r).At c.machine r) : b.Alike c :=
  ⟨accounts, fun r mem => (left r mem).trans (right r mem).symm⟩

/-! ## The batch -/

/-- A batch has left its account as a calculation says and the others as they were, and has ended
and recorded checks as the calculation says. -/
structure Batched (b : Bank) (i : Nat) (s : Ref) (xs : List Int)
    (calculation : Holding × Except Fault Int) : Prop where
  held : ∀ r ∈ b.accounts, (onlyAt s (fun _ => calculation.1) r (b.machine.holding r)).At
    (b.after (.depositBatch i xs)).machine r
  ended : match calculation.2 with
    | .ok total => b.outcome (.depositBatch i xs) = .done (.int total)
    | .error f => b.Fails (.depositBatch i xs) f
  checks : (b.after (.depositBatch i xs)).machine.checks =
    b.machine.checks ++ batchChecks calculation.2

theorem Orderly.batched (orderly : b.Orderly .checked) (at_i : b.accounts[i]? = some s)
    (xs : List Int) : b.Batched i s xs ((b.machine.holding s).batch .checked xs) := by
  obtain ⟨here, sound⟩ := orderly.at at_i
  have made := Machine.Grows.push [] b.machine (.list (xs.map .int))
  have ready := orderly.ready.grows made
  have list := Machine.cell_push_size b.machine (.list (xs.map .int))
  have checks := operate_depositBatch_checks ready (here.kept made) (sound rfl) (by simp) list
  obtain ⟨n, grew, left, ended⟩ :=
    operate_depositBatch_stopped ready (here.kept made) sound (by simp) list
  have ran : b.perform (.depositBatch i xs) b.machine =
      Session.operate (.ref s) "deposit_batch" [.ref b.machine.heap.size] []
        (b.machine.push (.list (xs.map .int))) :=
    bind_of_done (account_of_some at_i _) _
  have after : (b.after (.depositBatch i xs)).machine =
      (Session.operate (.ref s) "deposit_batch" [.ref b.machine.heap.size] []
        (b.machine.push (.list (xs.map .int)))).2 :=
    congrArg Prod.snd ran
  have machine : (b.after (.depositBatch i xs)).machine = n := by
    rw [after]
    cases result : ((b.machine.holding s).batch .checked xs).2 with
    | ok total =>
      rw [result] at ended
      rw [ended]
    | error f =>
      rw [result] at ended
      obtain ⟨e, raised, -⟩ := ended
      rw [raised]
  refine ⟨?_, ?_, after ▸ checks⟩
  · rw [machine]
    exact orderly.onlyAt_held (made.weaken.trans grew) left
  · cases result : ((b.machine.holding s).batch .checked xs).2 with
    | ok total =>
      rw [result] at ended
      exact congrArg Prod.fst (ran.trans ended)
    | error f =>
      rw [result] at ended
      obtain ⟨e, raised, cell⟩ := ended
      exact ⟨e, congrArg Prod.fst (ran.trans raised), machine ▸ cell⟩

/-- A deal ends with one fault. -/
theorem Fails.unique {g : Fault} (fails : b.Fails d f) (too : b.Fails d g) : f = g := by
  obtain ⟨e, raised, cell⟩ := fails
  obtain ⟨e', raised', cell'⟩ := too
  cases raised.symm.trans raised'
  cases cell.symm.trans cell'
  rfl

/-- A batch fails exactly as the calculation does. -/
theorem Batched.fails_iff {calculation : Holding × Except Fault Int}
    (batched : b.Batched i s xs calculation) :
    b.Fails (.depositBatch i xs) f ↔ calculation.2 = .error f := by
  have ended := batched.ended
  cases result : calculation.2 with
  | ok total =>
    rw [result] at ended
    constructor
    · rintro ⟨e, raised, -⟩
      cases ended.symm.trans raised
    · exact nofun
  | error g =>
    rw [result] at ended
    constructor
    · exact fun fails => congrArg _ (Fails.unique ended fails)
    · rintro ⟨⟩
      exact ended

/-- A batch gives what the calculation gives. -/
theorem Batched.gives_iff {calculation : Holding × Except Fault Int}
    (batched : b.Batched i s xs calculation) :
    b.outcome (.depositBatch i xs) = .done (.int total) ↔ calculation.2 = .ok total := by
  have ended := batched.ended
  cases result : calculation.2 with
  | ok t =>
    rw [result] at ended
    rw [ended]
    simp
  | error g =>
    rw [result] at ended
    obtain ⟨e, raised, -⟩ := ended
    rw [raised]
    simp

/-! ## The deposits -/

/-- Deposits of amounts that are not bad, made one after the other on an active account: each of
them succeeds, and all of the amounts come in. -/
theorem Orderly.deposits (orderly : b.Orderly .checked) (at_i : b.accounts[i]? = some s)
    (active : (b.machine.holding s).active = true) (good : ∀ x ∈ xs, Holding.isBad x = false) :
    (b.afterAll (xs.map (.deposit i))).accounts = b.accounts ∧
      (∀ r ∈ b.accounts, (onlyAt s (xs.foldl Holding.receive ·) r (b.machine.holding r)).At
        (b.afterAll (xs.map (.deposit i))).machine r) ∧
      ∀ j x, xs[j]? = some x →
        (b.afterAll ((xs.take j).map (.deposit i))).outcome (.deposit i x) = .done .null := by
  induction xs generalizing b with
  | nil =>
    refine ⟨rfl, fun r mem => ?_, nofun⟩
    have same : onlyAt s (([] : List Int).foldl Holding.receive ·) r (b.machine.holding r) =
        b.machine.holding r := by simp [onlyAt]
    rw [same]
    exact orderly.held r mem
  | cons a rest ih =>
    obtain ⟨done, left⟩ := orderly.deposit_done at_i
      (Holding.firstUnmet_deposit active (good a List.mem_cons_self))
    have now (r : Ref) (mem : r ∈ b.accounts) := (left r mem).holding
    have active' : ((b.after (.deposit i a)).machine.holding s).active = true := by
      rw [now s (List.mem_of_getElem? at_i), onlyAt, if_pos rfl]
      exact active
    obtain ⟨accounts, held, each⟩ := ih (orderly.after (.deposit i a)) at_i active'
      fun x mem => good x (List.mem_cons_of_mem a mem)
    refine ⟨accounts, fun r mem => ?_, fun j x at_j => ?_⟩
    · have all := held r mem
      rw [now r mem] at all
      have same : onlyAt s (rest.foldl Holding.receive ·) r
          (onlyAt s (·.receive a) r (b.machine.holding r)) =
          onlyAt s ((a :: rest).foldl Holding.receive ·) r (b.machine.holding r) := by
        by_cases mine : r = s <;> simp [onlyAt, mine]
      exact same ▸ all
    · cases j with
      | zero =>
        cases at_j
        exact done
      | succ j => exact each j x at_j

/-! ## The fold -/

/-- A deal that ends with a fault raises what the class of that fault says. -/
theorem Fails.raises_iff (fails : b.Fails d f) {cls : FaultClass} :
    b.Raises d cls ↔ f.cls = .known (.fault cls) := by
  obtain ⟨e, raised, cell⟩ := fails
  constructor
  · rintro ⟨e', f', raised', cell', is⟩
    cases raised.symm.trans raised'
    cases cell.symm.trans cell'
    exact is
  · exact fun is => ⟨e, f, raised, cell, is⟩

/-- A deal refuses a bad amount: one that is not positive by the violation of a precondition, and
one above the daily limit by a fault that carries both, or by the `ValueError` about an amount that
cannot be written. -/
structure Refuses (b : Bank) (d : Deal) (x : Int) : Prop where
  fails : b.Fails d (Holding.badAmount x)
  positive : x ≤ 0 → b.Raises d .preconditionError
  limit : dailyLimit < x → isWritable x = true → b.ExceedsLimit d x dailyLimit
  digits : dailyLimit < x → isWritable x = false → b.Raises d .valueError

theorem Fails.refuses (fails : b.Fails d (Holding.badAmount x)) : b.Refuses d x := by
  have above (exceeds : dailyLimit < x) : Holding.badAmount x = Holding.aboveLimit x := by
    have positive : 0 < x := Int.lt_trans (by decide) exceeds
    rw [Holding.badAmount, if_neg (Int.not_le.2 positive)]
  refine ⟨fails, fun below => ?_, fun exceeds few => ?_, fun exceeds many => ?_⟩
  · rw [Holding.badAmount, if_pos below] at fails
    exact fails.raises_iff.2 rfl
  · rw [above exceeds, Holding.aboveLimit, if_pos few] at fails
    obtain ⟨e, raised, cell⟩ := fails
    exact ⟨e, _, raised, cell, rfl, rfl⟩
  · rw [above exceeds, Holding.aboveLimit, many] at fails
    exact fails.raises_iff.2 rfl

/-- A batch is the fold of the single deposits up to the first bad amount: they succeed, and the
batch leaves all accounts as they do. It gives the sum of the amounts if none is bad; else it
refuses the first bad one, and its exit check is not made. -/
structure Folds (b : Bank) (i : Nat) (s : Ref) (xs : List Int) : Prop where
  deposits : ∀ j x, j < Holding.firstBad xs → xs[j]? = some x →
    (b.afterAll ((xs.take j).map (.deposit i))).outcome (.deposit i x) = .done .null
  state : (b.after (.depositBatch i xs)).Alike
    (b.afterAll ((xs.take (Holding.firstBad xs)).map (.deposit i)))
  grown : (b.after (.depositBatch i xs)).machine.holding s =
    { b.machine.holding s with
      balance := (b.machine.holding s).balance + (xs.take (Holding.firstBad xs)).sum
      count := (b.machine.holding s).count + Holding.firstBad xs }
  completed : Holding.firstBad xs = xs.length →
    b.outcome (.depositBatch i xs) = .done (.int xs.sum) ∧
      (b.after (.depositBatch i xs)).machine.checks = b.machine.checks ++
        [checkText "BankAccount" .entry, checkText "BankAccount" .exit]
  stopped : ∀ x, xs[Holding.firstBad xs]? = some x →
    (x ≤ 0 ∨ dailyLimit < x) ∧ b.Refuses (.depositBatch i xs) x ∧
      (b.after (.depositBatch i xs)).machine.checks = b.machine.checks ++
        [checkText "BankAccount" .entry]

theorem Orderly.folds (orderly : b.Orderly .checked) (at_i : b.accounts[i]? = some s)
    (active : (b.machine.holding s).active = true) (xs : List Int) : b.Folds i s xs := by
  obtain ⟨held, ended, checks⟩ := orderly.batched at_i xs
  rw [Holding.batch_of_active active] at held ended checks
  have good (x : Int) (mem : x ∈ xs.take (Holding.firstBad xs)) := Holding.good_of_mem_take mem
  obtain ⟨accounts, left, each⟩ := orderly.deposits at_i active good
  have short : Holding.firstBad xs ≤ xs.length := List.findIdx_le_length
  refine ⟨fun j x lt at_j => ?_, alike_of_at accounts.symm held ?_, ?_, fun whole => ?_,
    fun x at_k => ?_⟩
  · have one := each j x (by rw [List.getElem?_take_of_lt lt, at_j])
    rwa [List.take_take, Nat.min_eq_left (Nat.le_of_lt lt)] at one
  · -- what the batch leaves is what the deposits leave
    intro r mem
    have same : onlyAt s (fun _ => (xs.take (Holding.firstBad xs)).foldl Holding.receive
        (b.machine.holding s)) r (b.machine.holding r) =
        onlyAt s ((xs.take (Holding.firstBad xs)).foldl Holding.receive ·) r
          (b.machine.holding r) := by
      by_cases mine : r = s
      · simp [onlyAt, mine]
      · simp [onlyAt, mine]
    rw [same]
    exact left r mem
  · have here := (held s (List.mem_of_getElem? at_i)).holding
    rw [here, onlyAt, if_pos rfl, Holding.foldl_receive, List.length_take_of_le short]
  · have none : xs[Holding.firstBad xs]? = none := by simp [whole]
    rw [none] at ended checks
    exact ⟨ended, checks⟩
  · rw [at_k] at ended checks
    exact ⟨Holding.bad_of_firstBad at_k, Fails.refuses ended, checks⟩

/-- Making a batch and then another one is as good as making one batch of both: every account is the
same in the end, the fault is the same, if there is one, and the result is the sum of both results,
the first of which is `total`. -/
structure Continues (b : Bank) (i : Nat) (xs ys : List Int) (total : Int) : Prop where
  state : (b.after (.depositBatch i (xs ++ ys))).Alike
    ((b.after (.depositBatch i xs)).after (.depositBatch i ys))
  fault : ∀ f, b.Fails (.depositBatch i (xs ++ ys)) f ↔
    (b.after (.depositBatch i xs)).Fails (.depositBatch i ys) f
  result : ∀ t, b.outcome (.depositBatch i (xs ++ ys)) = .done (.int (total + t)) ↔
    (b.after (.depositBatch i xs)).outcome (.depositBatch i ys) = .done (.int t)

theorem Orderly.continues (orderly : b.Orderly .checked) (at_i : b.accounts[i]? = some s)
    (succeeds : b.outcome (.depositBatch i xs) = .done (.int total)) (ys : List Int) :
    b.Continues i xs ys total := by
  let c := b.after (.depositBatch i xs)
  have first := orderly.batched at_i xs
  have done := first.gives_iff.1 succeeds
  have mem := List.mem_of_getElem? at_i
  have between : c.machine.holding s = ((b.machine.holding s).batch .checked xs).1 := by
    rw [(first.held s mem).holding, onlyAt, if_pos rfl]
  have second : c.Batched i s ys _ := (orderly.after (.depositBatch i xs)).batched at_i ys
  have whole := orderly.batched at_i (xs ++ ys)
  rw [Holding.batch_append done] at whole
  rw [between] at second
  refine ⟨alike_of_at rfl whole.held fun r here => ?_, fun f => ?_, fun t => ?_⟩
  · have left := second.held r here
    rw [(first.held r here).holding] at left
    by_cases mine : r = s
    · simpa [onlyAt, mine] using left
    · simpa [onlyAt, mine] using left
  · rw [whole.fails_iff, second.fails_iff]
    cases (Holding.batch .checked _ ys).2 <;> simp [Except.map]
  · rw [whole.gives_iff, second.gives_iff]
    cases (Holding.batch .checked _ ys).2 <;> simp [Except.map]

/-- After any number of deals in a process that checks, a batch on an active account is the fold of
single deposits up to the first bad amount, if there is one. An account that is not active refuses
batches by the violation of a precondition, which changes nothing. A batch that comes to its end can
be put together with the next one. -/
theorem batch_is_fold_of_deposits (ready : m.Ready .checked) (deals : List Deal) {i : Nat} {s : Ref}
    (at_i : ((Bank.mk m []).afterAll deals).accounts[i]? = some s) (xs : List Int) :
    let b := (Bank.mk m []).afterAll deals
    ((b.machine.holding s).active = true → b.Folds i s xs) ∧
    ((b.machine.holding s).active = false →
      b.Raises (.depositBatch i xs) .preconditionError ∧ (b.after (.depositBatch i xs)).Alike b) ∧
    ∀ total, b.outcome (.depositBatch i xs) = .done (.int total) →
      ∀ ys, b.Continues i xs ys total := by
  intro b
  have orderly : b.Orderly .checked := (orderly_empty ready).afterAll deals
  refine ⟨fun active => orderly.folds at_i active xs, fun inactive => ?_,
    fun total succeeds => orderly.continues at_i succeeds⟩
  have batched := orderly.batched at_i xs
  rw [Holding.batch_of_inactive inactive] at batched
  refine ⟨(batched.fails_iff.2 rfl).raises_iff.2 rfl, alike_of_at rfl batched.held fun r mem => ?_⟩
  by_cases mine : r = s
  · subst mine
    rw [onlyAt, if_pos rfl]
    exact orderly.held r mem
  · rw [onlyAt, if_neg mine]
    exact orderly.held r mem

/-- Of the amounts 20, 30, 60000 and 5 the first two come in; the third is above the limit. -/
theorem batch_is_fold_of_deposits_stopped_midway :
    let b := (Bank.mk Session.Launch.usualMachine []).afterAll [.opening 1]
    let d : Deal := .depositBatch 0 [20, 30, 60000, 5]
    (b.after d).machine.holding 1 = ⟨1, 50, true, 2⟩ ∧ b.ExceedsLimit d 60000 50000 := by
  intro b d
  obtain ⟨active, -, -⟩ := batch_is_fold_of_deposits (i := 0) (s := 1) Session.Launch.ready_usual
    [.opening 1] (by with_unfolding_all decide) [20, 30, 60000, 5]
  have here : b.machine.holding 1 = ⟨1, 0, true, 0⟩ := by with_unfolding_all rfl
  have folds : b.Folds 0 1 [20, 30, 60000, 5] := active (congrArg Holding.active here)
  refine ⟨?_, (folds.stopped 60000 (by decide)).2.1.limit (by decide)
    (isWritable_of_natAbs_lt (by decide))⟩
  have grown := folds.grown
  rw [here] at grown
  exact grown

/-- A batch of one amount with one digit too many is above the limit; but what is raised is the
fault of writing the amount. -/
theorem batch_of_many_digits :
    ∃ a : Int, a.natAbs = Number.writableLimit ∧
      let b := (Bank.mk Session.Launch.usualMachine []).afterAll [.opening 1]
      b.accounts[0]? = some 1 ∧ (b.machine.holding 1).active = true ∧
        Holding.firstBad [a] = 0 ∧ dailyLimit < a ∧ b.Raises (.depositBatch 0 [a]) .valueError ∧
        ¬ b.Raises (.depositBatch 0 [a]) .dailyLimitExceeded := by
  have digits := dailyLimit_lt_writableLimit
  generalize limit : Number.writableLimit = most at digits
  refine ⟨most, Int.natAbs_natCast most, ?_⟩
  intro b
  have orderly : b.Orderly .checked := (orderly_empty Session.Launch.ready_usual).afterAll _
  have at_0 : b.accounts[0]? = some 1 := by with_unfolding_all decide
  have active : (b.machine.holding 1).active = true := by with_unfolding_all decide
  have exceeds : dailyLimit < (most : Int) :=
    Int.lt_of_le_of_lt Int.le_natAbs (Int.ofNat_lt.2 digits)
  have bad : Holding.firstBad [(most : Int)] = 0 := by
    simp [Holding.firstBad, Holding.isBad, exceeds]
  obtain ⟨-, refuses, -⟩ :=
    (orderly.folds at_0 active [(most : Int)]).stopped most (by simp [bad])
  have raises := refuses.digits exceeds (by simp [isWritable, limit])
  refine ⟨at_0, active, bad, exceeds, raises, fun limited => ?_⟩
  have value := refuses.fails.raises_iff.1 raises
  cases value.symm.trans (refuses.fails.raises_iff.1 limited)

end Bank

end Covenant
