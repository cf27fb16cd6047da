import Covenant.Proofs.Demo.Bank.Account
import Covenant.Session.Demo

/-!
# Operations on accounts

Each operation of an account, called through its method, agrees with the calculation on its holding,
under either profile, and writes to no other cells than the accounts that it is about
(`operate_deposit_agrees` and its like). The only thing that is needed for it is that the account is
sound if the process checks; that it stays so makes the exit check pass. The postconditions always
hold: the last of a transfer does because the recipient was sound before.
-/

namespace Covenant

namespace Act

variable {call : Caller} {m n : Machine} {p : Profile} {r s old : Ref} {h k : Holding}
  {taken : Fields}

/-- What the body of an operation starts from: an account, and a snapshot. -/
structure Entered (p : Profile) (m : Machine) (h : Holding) (r : Ref) (taken : Fields) (old : Ref) :
    Prop where
  ready : m.Ready p
  here : h.At m r
  snapshot : m.cell old = .snapshot taken

/-- What writes to no cell leaves it all in place. -/
theorem Entered.grows (entered : Entered p m h r taken old) (grew : m.Grows [] n) :
    Entered p n h r taken old :=
  ⟨entered.ready.grows grew, entered.here.kept grew,
    grew.cell_eq entered.snapshot nofun List.not_mem_nil⟩

/-- The snapshot is none of the accounts. -/
theorem Entered.not_mem (entered : Entered p m h r taken old) (other : k.At m s) :
    old ∉ [r, s] := by
  intro mem
  simp only [List.mem_cons, List.not_mem_nil, or_false] at mem
  rcases mem with rfl | rfl
  · cases entered.here.symm.trans entered.snapshot
  · cases other.symm.trans entered.snapshot

/-- What an account was before an operation. -/
def Holding.state (h : Holding) : Fields :=
  [("balance", .int h.balance), ("tx_count", .int h.count)]

/-- What two accounts were before a transfer. -/
def Holding.balances (h k : Holding) : Fields :=
  [("from_balance", .int h.balance), ("to_balance", .int k.balance)]

/-- A check that an amount is positive by a validator of its own, and then what is done if it
passes. -/
theorem Agrees.demandPositive {γ δ : Type} {d : Nat} {written : List Ref} {g : Unit → Act γ}
    {next : Unit → Except Fault δ} {last : δ → γ → Machine → Prop} {a : Int} {message : String}
    (ready : m.Ready p)
    (second : ∀ n, m.Grows [] n → (p = .checked → 0 < a) →
      Agrees n written (g () n) (next ()) last) :
    Agrees m written
      ((newPositive >>= fun v => assertValue (callWithin (d + 2)) .pre (.int a) v message >>= g) m)
      (Covenant.demand p (0 < a) (Side.pre.violation message) >>= next) last := by
  have grew := Machine.Grows.push [] m (.object (.known .positive) [])
  rw [bind_of_done (newPositive_apply m)]
  refine .of_grows grew (.demand (assertPositive_agrees (ready.grows grew) .pre a message
    (Machine.cell_push_size m _)) ?_)
  rintro n grows - met
  exact second n (grew.trans grows) fun checked => of_decide_eq_true (met checked)

/-- An assertion that holds in a process that checks passes in any. -/
theorem assertThat_of_met (ready : m.Ready p) (side : Side) {ok : Bool} (message : String)
    (met : p = .checked → ok = true) :
    assertThat call side (.bool ok) message m = (.done (), m) := by
  cases p with
  | checked => rw [met rfl, assertThat_of_true]
  | unchecked => exact ifChecked_of_unchecked ready.active

/-- Two fields with integers are added. -/
theorem addFields_apply {v w : Value} {x y : String} {a b : Int}
    (left : field call v x m = (.done (.int a), m))
    (right : field call w y m = (.done (.int b), m)) :
    (do arithmetic call .add (← field call v x) (← field call w y)) m =
      (.done (.int (a + b)), m) := by
  rw [bind_of_done left, bind_of_done right, arithmetic_add]

/-! ## The bodies -/

/-- The body of a deposit agrees with the calculation. -/
theorem depositBody_agrees {d : Nat} (entered : Entered p m h r (Holding.state h) old) (a : Int) :
    Agrees m [r] (Account.depositBody (callWithin (d + 2)) (.ref r) (.ref old) (.int a) m)
      (h.deposit p a) fun after v n => v = .null ∧ after.At n r := by
  unfold Account.depositBody Holding.deposit
  rw [bind_of_done entered.here.field_active]
  refine .demand (assertThat_agrees entered.ready .pre _ _) ?_
  rintro _ - rfl -
  refine .demandPositive entered.ready ?_
  rintro m₁ grew₁ -
  have entered₁ := entered.grows grew₁
  rw [bind_of_done (compare_int _ .le a depositLimit m₁)]
  refine .demand (assertContext_agrees entered₁.ready .pre _ _) ?_
  rintro _ - rfl -
  obtain ⟨m₂, n, added, counted, grew, here⟩ := receive_apply (callWithin (d + 2))
    entered₁.ready.plain entered₁.here a
  have snapshot := grew.cell_eq entered₁.snapshot nofun
    (fun mem => entered.not_mem entered.here (List.mem_cons_of_mem r mem))
  rw [bind_of_done added, bind_of_done counted, bind_of_done here.field_balance,
    bind_of_done (field_of_snapshot snapshot rfl), bind_of_done (arithmetic_add _ h.balance a n),
    bind_of_done (compare_int _ .eq _ _ n)]
  have balance : Comparison.eq.onInts (h.receive a).balance (h.balance + a) = true := by
    simp [Comparison.onInts, Holding.receive]
  have count : Comparison.eq.onInts (h.receive a).count (h.count + 1) = true := by
    simp [Comparison.onInts, Holding.receive]
  rw [balance, bind_of_done (assertThat_of_true _ .post _ n), bind_of_done here.field_count,
    bind_of_done (field_of_snapshot snapshot rfl), bind_of_done (arithmetic_add _ h.count 1 n),
    bind_of_done (compare_int _ .eq _ _ n), count,
    bind_of_done (assertContext_of_true _ .post _ n)]
  exact .of_done rfl grew ⟨rfl, here⟩

/-- The body of a withdrawal agrees with the calculation. -/
theorem withdrawBody_agrees {d : Nat} (entered : Entered p m h r (Holding.state h) old) (a : Int) :
    Agrees m [r] (Account.withdrawBody (callWithin (d + 2)) (.int a) (.ref old) (.ref r) m)
      (h.withdraw p a) fun after v n => v = .null ∧ after.At n r := by
  unfold Account.withdrawBody Holding.withdraw
  rw [bind_of_done entered.here.field_active]
  refine .demand (assertThat_agrees entered.ready .pre _ _) ?_
  rintro _ - rfl -
  refine .demandPositive entered.ready ?_
  rintro m₁ grew₁ -
  have entered₁ := entered.grows grew₁
  rw [bind_of_done entered₁.here.field_balance, bind_of_done (compare_int _ .le a h.balance m₁),
    bind_of_done entered₁.here.field_balance]
  refine .demand (assertFormatted_agrees entered₁.ready .pre _ a h.balance rfl) ?_
  rintro m₂ grew₂ - -
  have entered₂ := entered₁.grows grew₂
  refine .bind (limitDaily_agrees entered₂.ready.free a) ?_
  rintro _ _ _ - - rfl
  obtain ⟨m₃, n, taken, counted, grew, here⟩ := pay_apply (callWithin (d + 2))
    entered₂.ready.plain entered₂.here a
  have snapshot := grew.cell_eq entered₂.snapshot nofun
    (fun mem => entered.not_mem entered.here (List.mem_cons_of_mem r mem))
  have balance : Comparison.eq.onInts (h.pay a).balance (h.balance - a) = true := by
    simp [Comparison.onInts, Holding.pay]
  rw [bind_of_done taken, bind_of_done counted, bind_of_done here.field_balance,
    bind_of_done (field_of_snapshot snapshot rfl), bind_of_done (arithmetic_sub _ h.balance a n),
    bind_of_done (compare_int _ .eq _ _ n), bind_of_done (field_of_snapshot snapshot rfl),
    bind_of_done (arithmetic_sub _ h.balance a n), bind_of_done here.field_balance, balance,
    bind_of_done (assertFormatted_of_true _ .post _ _ n)]
  exact .of_done rfl grew ⟨rfl, here⟩

/-- The body of closing agrees with the calculation. -/
theorem closeBody_agrees (ready : m.Ready p) (here : h.At m r) :
    Agrees m [r] (Account.closeBody call (.ref r) m) (h.close p)
      fun after v n => v = .null ∧ after.At n r := by
  unfold Account.closeBody Holding.close
  rw [bind_of_done here.field_balance, bind_of_done (compare_int call .eq h.balance 0 m)]
  refine .demand (assertContext_agrees ready .pre _ _) ?_
  rintro _ - rfl -
  obtain ⟨grew, closed⟩ := putHolding_grows here { h with active := false }
  have written : setAttribute call (.ref r) "is_active" (.bool false) _ =
      (.done (), Machine.put _ r (.object (.known .account) { h with active := false }.fields)) :=
    setAttribute_of_open ready.plain here rfl rfl
  rw [bind_of_done written, bind_of_done closed.field_active,
    bind_of_done (truth_bool call false _), Bool.not_false,
    bind_of_done (assertContext_of_true call .post _ _)]
  exact .of_done rfl grew ⟨rfl, closed⟩

/-- The postconditions of a transfer hold where the two balances sum up to what they did before and
that of the recipient is not negative. -/
theorem transferPost_apply (call : Caller) {x y : Holding} (ready : m.Ready p) (left : x.At m r)
    (right : y.At m s) (snapshot : m.cell old = .snapshot (Holding.balances h k))
    (conserved : x.balance + y.balance = h.balance + k.balance)
    (notNegative : p = .checked → 0 ≤ y.balance) :
    (do
      let total : Act Value := do
        arithmetic call .add (← field call (.ref r) "balance") (← field call (.ref s) "balance")
      let before : Act Value := do
        arithmetic call .add (← field call (.ref old) "from_balance")
          (← field call (.ref old) "to_balance")
      let now ← total
      let same ← compare call .eq now (← before)
      let earlier ← before
      assertFormatted call .post same
        "Balance conservation failed: before=\x7b\x7d, after=\x7b\x7d" [earlier, ← total]
      assertThat call .post (← compare call .ge (← field call (.ref s) "balance") (.int 0))
        "Recipient balance must not be negative"
      return Value.null) m = (.done .null, m) := by
  have fromBalance : field call (.ref old) "from_balance" m = (.done (.int h.balance), m) :=
    field_of_snapshot snapshot rfl
  have toBalance : field call (.ref old) "to_balance" m = (.done (.int k.balance), m) :=
    field_of_snapshot snapshot rfl
  have before := addFields_apply fromBalance toBalance
  have mine : field call (.ref r) "balance" m = (.done (.int x.balance), m) := left.field_balance
  have total := addFields_apply mine right.field_balance
  have equal : Comparison.eq.onInts (h.balance + k.balance) (h.balance + k.balance) = true := by
    simp [Comparison.onInts]
  have met : p = .checked → Comparison.ge.onInts y.balance 0 = true := by
    intro checked
    rw [Comparison.onInts, decide_eq_true_eq]
    exact notNegative checked
  rw [conserved] at total
  rw [bind_of_done total, bind_of_done before, bind_of_done (compare_int _ .eq _ _ m), equal,
    bind_of_done before, bind_of_done total, bind_of_done (assertFormatted_of_true _ .post _ _ m),
    bind_of_done right.field_balance, bind_of_done (compare_int _ .ge y.balance 0 m),
    bind_of_done (assertThat_of_met ready .post _ met)]
  rfl

/-- The body of a transfer agrees with the calculation. -/
theorem transferBody_agrees {d : Nat} {a : Int}
    (entered : Entered p m h r (Holding.balances h k) old) (recipient : k.At m s)
    (sound : p = .checked → k.Sound) :
    Agrees m [r, s] (Account.transferBody (callWithin (d + 2)) (.ref s) (.int a) (.ref old)
      (.ref r) m) (Holding.transfer p (r = s) h k a)
      fun _ v n => v = .null ∧ Moved h k a r s n := by
  have same : (Value.ref r).same (.ref s) = decide (r = s) := rfl
  unfold Account.transferBody Holding.transfer
  rw [bind_of_done entered.here.field_active]
  refine .demand (assertThat_agrees entered.ready .pre _ _) ?_
  rintro _ - rfl -
  rw [bind_of_done recipient.field_active]
  refine .demand (assertThat_agrees entered.ready .pre _ _) ?_
  rintro _ - rfl -
  rw [same]
  refine .demand (assertThat_agrees entered.ready .pre _ _) ?_
  rintro _ - rfl distinct
  refine .demandPositive entered.ready ?_
  rintro m₁ grew₁ positive
  have entered₁ := entered.grows grew₁
  have recipient₁ := recipient.kept grew₁
  rw [bind_of_done entered₁.here.field_balance, bind_of_done (compare_int _ .ge h.balance a m₁),
    bind_of_done entered₁.here.field_balance]
  refine .demand (assertFormatted_agrees entered₁.ready .pre _ a h.balance rfl) ?_
  rintro m₂ grew₂ - -
  have entered₂ := entered₁.grows grew₂
  have recipient₂ := recipient₁.kept grew₂
  rw [← bind_pure (Holding.withinLimit a)]
  refine .bind (limitDaily_agrees entered₂.ready.free a) ?_
  rintro _ _ _ - - rfl
  obtain ⟨m₃, m₄, m₅, n, paid, counted, received, counted', grew, moved⟩ :=
    move_apply (callWithin (d + 2)) entered₂.ready.plain entered₂.here recipient₂ a
  obtain ⟨x, y, left, right, conserved, gained⟩ := moved.balances entered₂.here recipient₂
  rw [bind_of_done paid, bind_of_done counted, bind_of_done received, bind_of_done counted']
  have snapshot := grew.cell_eq entered₂.snapshot nofun (entered₂.not_mem recipient₂)
  -- The process has not checked the recipient. It was sound before, and what it got is positive.
  have notNegative : p = .checked → 0 ≤ y.balance := by
    intro checked
    have apart : r ≠ s := by simpa using distinct checked
    have enough := (sound checked).balance
    have more := positive checked
    rw [gained apart]
    omega
  have ended := transferPost_apply (callWithin (d + 2)) (entered₂.ready.grows grew) left right
    snapshot conserved notNegative
  exact .of_done ended grew ⟨rfl, moved⟩

/-! ## Under contract -/

/-- A body that agrees with a calculation that keeps its account sound agrees with it also under a
strict contract. -/
theorem strict_agrees {d : Nat} {calculation : Except Fault Holding} {body : Body} {o : Value}
    (ready : m.Ready p) (here : h.At m r) (sound : p = .checked → h.Sound)
    (body_agrees : ∀ n, m.Grows [] n → Agrees n [r] (body o (.ref r) n) calculation
      fun after v n => v = .null ∧ after.At n r)
    (stays : p = .checked → ∀ after, calculation = .ok after → after.Sound) :
    Agrees m [r] (runUnder (callWithin (d + 1)) p (.ref r) o body (.member (.mode .strict)) m)
      calculation fun after v n => v = .null ∧ after.At n r := by
  refine runUnder_agrees .strict ?_ body_agrees ?_ ?_
  · rintro rfl
    exact checksPass_account ready here (sound rfl)
  · rintro rfl after v n ok grew ⟨-, holds⟩
    exact checksPass_account (ready.grows grew) holds (stays rfl after ok)
  · rintro after v n k - grew ⟨null, holds⟩
    exact ⟨null, holds.kept grew⟩

/-- The snapshot of balance and number of transactions is a new cell. -/
theorem stateSnapshot_apply (plain : m.Plain) (here : h.At m r) :
    Account.stateSnapshot call (.ref r) m =
      (.done (.ref m.heap.size), m.push (.snapshot (Holding.state h))) := by
  unfold Account.stateSnapshot
  rw [bind_of_done here.field_balance, bind_of_done here.field_count,
    newSnapshot_apply plain rfl]
  rfl

/-- An account and the snapshot that has just been taken of it. -/
theorem entered_push (ready : m.Ready p) (here : h.At m r) (taken : Fields) :
    Entered p (m.push (.snapshot taken)) h r taken m.heap.size :=
  have grew := Machine.Grows.push [] m (.snapshot taken)
  ⟨ready.grows grew, here.kept grew, Machine.cell_push_size m _⟩

/-- A deposit agrees with the calculation. -/
theorem deposit_agrees {d : Nat} (ready : m.Ready p) (here : h.At m r)
    (sound : p = .checked → h.Sound) (a : Int) :
    Agrees m [r] (Account.deposit (callWithin (d + 2)) (.ref r) [.int a] [] m) (h.deposit p a)
      fun after v n => v = .null ∧ after.At n r := by
  have entered := entered_push ready here (Holding.state h)
  have asked : matched (.exactly "BankAccount.<lambda>" [.needed "self", .needed "amount"])
      [.ref r, .int a] [] m = (.done ⟨[some (.ref r), some (.int a)], [], []⟩, m) := rfl
  have took := (bind_of_done asked fun a =>
    Account.stateSnapshot (callWithin (d + 2)) (a.value 0)).trans
      (stateSnapshot_apply ready.plain here)
  unfold Account.deposit
  rw [read_bind, ready.active, callMethod_of_done took]
  refine .of_grows (.push [] m _) (strict_agrees entered.ready entered.here sound ?_ ?_)
  · intro n grew
    exact depositBody_agrees (entered.grows grew) a
  · rintro rfl after ok
    exact Holding.deposit_sound (sound rfl) ok

/-- A withdrawal agrees with the calculation. -/
theorem withdraw_agrees {d : Nat} (ready : m.Ready p) (here : h.At m r)
    (sound : p = .checked → h.Sound) (a : Int) :
    Agrees m [r] (Account.withdraw (callWithin (d + 2)) (.ref r) (.int a) m) (h.withdraw p a)
      fun after v n => v = .null ∧ after.At n r := by
  have entered := entered_push ready here (Holding.state h)
  have ran : Agrees (m.push (.snapshot (Holding.state h))) [r]
      (runActive (callWithin (d + 2)) (.ref r) (.ref m.heap.size)
        (Account.withdrawBody (callWithin (d + 2)) (.int a)) (m.push (.snapshot (Holding.state h))))
      (h.withdraw p a) fun after v n => v = .null ∧ after.At n r := by
    rw [runActive_eq entered.ready]
    refine strict_agrees entered.ready entered.here sound ?_ ?_
    · intro n grew
      exact withdrawBody_agrees (entered.grows grew) a
    · rintro rfl after ok
      exact Holding.withdraw_sound (sound rfl) ok
  unfold Account.withdraw
  rw [bind_of_done (stateSnapshot_apply ready.plain here)]
  exact .of_grows (.push [] m _) (ran.followed fun after v n holds => ⟨.null, rfl, rfl, holds.2⟩)

/-- Closing agrees with the calculation. -/
theorem close_agrees {d : Nat} (ready : m.Ready p) (here : h.At m r)
    (sound : p = .checked → h.Sound) :
    Agrees m [r] (Account.close (callWithin (d + 2)) (.ref r) [] [] m) (h.close p)
      fun after v n => v = .null ∧ after.At n r := by
  unfold Account.close
  rw [read_bind, ready.active]
  refine strict_agrees ready here sound ?_ ?_
  · intro n grew
    exact closeBody_agrees (ready.grows grew) (here.kept grew)
  · rintro rfl after ok
    exact Holding.close_sound (sound rfl) ok

/-- A transfer agrees with the calculation. The sender's exit check passes also where the two are
one account, which in a process that checks is refused before. -/
theorem transfer_agrees {d : Nat} (ready : m.Ready p) (here : h.At m r) (recipient : k.At m s)
    (sound : p = .checked → h.Sound ∧ k.Sound) (a : Int) :
    Agrees m [r, s] (Account.transfer (callWithin (d + 2)) (.ref r) (.ref s) (.int a) m)
      (Holding.transfer p (r = s) h k a) fun _ v n => v = .null ∧ Moved h k a r s n := by
  have entered := entered_push ready here (Holding.balances h k)
  have grew := Machine.Grows.push [] m (.snapshot (Holding.balances h k))
  have recipient₁ := recipient.kept grew
  have ran : Agrees (m.push (.snapshot (Holding.balances h k))) [r, s]
      (runActive (callWithin (d + 2)) (.ref r) (.ref m.heap.size)
        (Account.transferBody (callWithin (d + 2)) (.ref s) (.int a))
        (m.push (.snapshot (Holding.balances h k))))
      (Holding.transfer p (r = s) h k a) fun _ v n => v = .null ∧ Moved h k a r s n := by
    rw [runActive_eq entered.ready]
    refine runUnder_agrees .strict ?_ ?_ ?_ ?_
    · rintro rfl
      exact checksPass_account entered.ready entered.here (sound rfl).1
    · intro n grows
      exact transferBody_agrees (entered.grows grows) (recipient₁.kept grows)
        fun checked => (sound checked).2
    · rintro rfl _ v n ok grows ⟨-, moved⟩
      obtain ⟨met, -⟩ := Holding.transfer_eq_ok_iff.1 ok
      have apart : r ≠ s := by simpa using (met rfl).2.2.1
      rw [Moved, if_neg apart] at moved
      exact checksPass_account (entered.ready.grows grows) moved.1
        (Holding.transfer_sound (sound rfl).1 (sound rfl).2 ok).1
    · rintro _ v n after - grows ⟨null, moved⟩
      exact ⟨null, moved.grows grows⟩
  unfold Account.transfer
  rw [bind_of_done here.field_balance, bind_of_done recipient.field_balance,
    bind_of_done (newSnapshot_apply ready.plain rfl)]
  exact .of_grows grew (ran.followed fun _ v n holds => ⟨.null, rfl, rfl, holds.2⟩)

/-! ## Calls of the methods -/

/-- Calling the method for deposits agrees with the calculation. -/
theorem operate_deposit_agrees (ready : m.Ready p) (here : h.At m r)
    (sound : p = .checked → h.Sound) (a : Int) :
    Agrees m [r] (Session.operate (.ref r) "deposit" [.int a] [] m) (h.deposit p a)
      fun after v n => v = .null ∧ after.At n r := by
  refine operate_agrees .accountDeposit ready.plain here rfl rfl rfl rfl nofun [.int a] ?_
  intro n grew
  exact deposit_agrees (d := callDepth - 4) (ready.grows grew) (here.kept grew) sound a

/-- Calling the method for withdrawals agrees with the calculation. -/
theorem operate_withdraw_agrees (ready : m.Ready p) (here : h.At m r)
    (sound : p = .checked → h.Sound) (a : Int) :
    Agrees m [r] (Session.operate (.ref r) "withdraw" [.int a] [] m) (h.withdraw p a)
      fun after v n => v = .null ∧ after.At n r := by
  refine operate_agrees .accountWithdraw ready.plain here rfl rfl rfl rfl nofun [.int a] ?_
  intro n grew
  exact withdraw_agrees (d := callDepth - 4) (ready.grows grew) (here.kept grew) sound a

/-- Calling the method for closing agrees with the calculation. -/
theorem operate_close_agrees (ready : m.Ready p) (here : h.At m r)
    (sound : p = .checked → h.Sound) :
    Agrees m [r] (Session.operate (.ref r) "close" [] [] m) (h.close p)
      fun after v n => v = .null ∧ after.At n r := by
  refine operate_agrees .accountClose ready.plain here rfl rfl rfl rfl nofun [] ?_
  intro n grew
  exact close_agrees (d := callDepth - 4) (ready.grows grew) (here.kept grew) sound

/-- Calling the method for transfers agrees with the calculation. -/
theorem operate_transfer_agrees (ready : m.Ready p) (here : h.At m r) (recipient : k.At m s)
    (sound : p = .checked → h.Sound ∧ k.Sound) (a : Int) :
    Agrees m [r, s] (Session.operate (.ref r) "transfer" [.ref s, .int a] [] m)
      (Holding.transfer p (r = s) h k a) fun _ v n => v = .null ∧ Moved h k a r s n := by
  refine operate_agrees .accountTransfer ready.plain here rfl rfl rfl rfl nofun [.ref s, .int a] ?_
  intro n grew
  exact transfer_agrees (d := callDepth - 4) (ready.grows grew) (here.kept grew)
    (recipient.kept grew) sound a

/-! ## New accounts -/

/-- A new object is started as an empty account. -/
theorem accountStart_agrees {d : Nat} (ready : m.Ready p)
    (cell : m.cell r = .object (.known .account) []) (number : Int) :
    Agrees m [r] (Account.start (callWithin (d + 2)) (.ref r) (.int number) m)
      (Holding.opening p number) fun after _ n => after.At n r := by
  unfold Account.start Holding.opening
  refine .demandPositive ready ?_
  rintro m₁ grew₁ -
  have cell₁ := grew₁.cell_eq cell nofun List.not_mem_nil
  obtain ⟨m₂, set₂, grew₂, ready₂, cell₂⟩ := setField_apply (callWithin (d + 2)) "account_number"
    (ready.grows grew₁) cell₁ rfl rfl (.int number)
  obtain ⟨m₃, set₃, grew₃, ready₃, cell₃⟩ :=
    setField_apply (callWithin (d + 2)) "balance" ready₂ cell₂ rfl rfl (.int 0)
  obtain ⟨m₄, set₄, grew₄, ready₄, cell₄⟩ :=
    setField_apply (callWithin (d + 2)) "is_active" ready₃ cell₃ rfl rfl (.bool true)
  obtain ⟨n, set₅, grew₅, -, cell₅⟩ :=
    setField_apply (callWithin (d + 2)) "transaction_count" ready₄ cell₄ rfl rfl (.int 0)
  rw [bind_of_done set₂, bind_of_done set₃, bind_of_done set₄]
  exact .of_done set₅ (((grew₂.trans grew₃).trans grew₄).trans grew₅) cell₅

/-- Calling the class of accounts with an integer agrees with opening an account under that
number. -/
theorem makeAccount_agrees (ready : m.Ready p) (number : Int) :
    Agrees m [] (Act.call (.cls (.known .account)) [.int number] [] m) (Holding.opening p number)
      fun after v n => v = .ref m.heap.size ∧ after.At n m.heap.size := by
  have grew := Machine.Grows.push [] m (.object (.known .account) [])
  have started := accountStart_agrees (d := callDepth - 4) (ready.grows grew)
    (Machine.cell_push_size m _) number
  have ran : Agrees (m.push (.object (.known .account) [])) [m.heap.size]
      (callWithin (callDepth - 1) (.routine .accountStart) [.ref m.heap.size, .int number] []
        (m.push (.object (.known .account) []))) (Holding.opening p number)
      fun after v n => v = .null ∧ after.At n m.heap.size :=
    started.followed (g := fun _ => pure Value.null) fun _ _ _ here => ⟨.null, rfl, rfl, here⟩
  exact call_class_agrees ready.plain rfl rfl rfl ran

end Act

end Covenant
