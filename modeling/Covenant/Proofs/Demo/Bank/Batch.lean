import Covenant.Proofs.Demo.Bank.Operation

/-!
# Batches of deposits

A batch that meets a bad amount stops there and keeps what it has done, so it does not agree with a
calculation that gives either a result or a fault and no change. What it comes to has two parts, the
account afterwards and the result or fault, and a run is `Stopped` where the machine shows both.
Each amount is one step (`applyOne_agrees`), the walk over all of them follows the calculation
amount by amount (`applyBatch_stopped`), and the error-tolerant contract around it checks the
invariant only if the walk came to its end (`operate_depositBatch_stopped`).
-/

namespace Covenant

namespace Act

variable {m n : Machine} {p : Profile} {r l old : Ref} {h : Holding} {amounts : List Int}

/-- A run has left an account as the first part of a calculation says, and ended as the second part
says. -/
def Stopped (m : Machine) (r : Ref) (run : Outcome Value × Machine)
    (calculation : Holding × Except Fault Int) : Prop :=
  ∃ n, m.Grows [r] n ∧ calculation.1.At n r ∧
    match calculation.2 with
    | .ok total => run = (.done (.int total), n)
    | .error f => ∃ e, run = (.raised e, n) ∧ n.cell e = .fault f

/-- What comes after cells were added, or the account was written to, has stopped from before on. -/
theorem Stopped.of_grows {run : Outcome Value × Machine}
    {calculation : Holding × Except Fault Int} (grew : m.Grows [r] n)
    (h : Stopped n r run calculation) : Stopped m r run calculation := by
  obtain ⟨k, grows, here, ended⟩ := h
  exact ⟨k, grew.trans grows, here, ended⟩

/-- A check before which nothing has been written, and then what is done if it passes. -/
theorem Stopped.demand {y : Act Unit} {g : Unit → Act Value} {ok : Bool} {f : Fault}
    {next : Holding × Except Fault Int} (here : h.At m r)
    (first : Agrees m [] (y m) (Covenant.demand p ok f) fun _ _ n => n = m)
    (second : Stopped m r (g () m) next) :
    Stopped m r ((y >>= g) m)
      (match Covenant.demand p ok f with
        | .ok () => next
        | .error f => (h, .error f)) := by
  cases met : Covenant.demand p ok f with
  | ok u =>
    rw [met] at first
    obtain ⟨v, n, ran, -, rfl⟩ := first
    rw [bind_of_done ran]
    exact second
  | error g =>
    rw [met] at first
    obtain ⟨e, n, ran, grew, cell⟩ := first
    exact ⟨n, grew.weaken, here.kept grew, e, bind_of_raised ran _, cell⟩

/-- One amount of a batch is taken or not. -/
theorem applyOne_agrees {d : Nat} (ready : m.Ready p) (here : h.At m r) (applied a : Int) :
    Agrees m [r] (Account.applyOne (callWithin (d + 2)) (.ref r) (.int applied) (.int a) m)
      (Holding.accept p a) fun _ v n => v = .int (applied + a) ∧ (h.receive a).At n r := by
  unfold Account.applyOne Holding.accept
  refine .demandPositive ready ?_
  rintro m₁ grew₁ -
  have ready₁ := ready.grows grew₁
  have here₁ := here.kept grew₁
  rw [← bind_pure (Holding.withinLimit a)]
  refine .bind (limitDaily_agrees ready₁.free a) ?_
  rintro _ _ _ - - rfl
  obtain ⟨m₂, n, added, counted, grew, received⟩ :=
    receive_apply (callWithin (d + 2)) ready₁.plain here₁ a
  rw [bind_of_done added, bind_of_done counted, arithmeticInPlace_add]
  exact .of_done rfl grew ⟨rfl, received⟩

/-- The walk over the amounts of a batch leaves the account as the calculation says. -/
theorem applyBatch_stopped {d : Nat} (ready : m.Ready p) (here : h.At m r) (applied : Int)
    (amounts : List Int) :
    Stopped m r (Account.applyBatch (callWithin (d + 2)) (.ref r) (.int applied)
      (amounts.map .int) m) (h.walk p applied amounts) := by
  -- The machine and the holding change with every amount that is taken.
  induction amounts generalizing m h applied with
  | nil => exact ⟨m, .refl [r] m, here, rfl⟩
  | cons a rest ih =>
    have one := applyOne_agrees (d := d) ready here applied a
    rw [List.map_cons, Account.applyBatch, Holding.walk]
    cases accepted : Holding.accept p a with
    | ok u =>
      rw [accepted] at one
      obtain ⟨v, n, ran, grew, rfl, received⟩ := one
      rw [bind_of_done ran]
      exact .of_grows grew (ih (ready.grows grew) received (applied + a))
    | error f =>
      rw [accepted] at one
      obtain ⟨e, n, ran, grew, cell⟩ := one
      exact ⟨n, grew.weaken, here.kept grew, e, bind_of_raised ran _, cell⟩

/-- The amounts of a list are the items that are gone through. -/
theorem applyItems_list (call : Caller) (list : m.cell l = .list (amounts.map .int)) :
    Account.applyItems call (.ref r) (.ref l) m =
      Account.applyBatch call (.ref r) (.int 0) (amounts.map .int) m := by
  have present : presentItems? (.ref l) m = (.done (some (amounts.map .int)), m) := by
    simp [presentItems?, list]
  unfold Account.applyItems
  rw [bind_of_done present]

/-- The body of a batch leaves the account as the calculation says. -/
theorem batchBody_stopped {d : Nat} (entered : Entered p m h r [("balance", .int h.balance)] old)
    (list : m.cell l = .list (amounts.map .int)) :
    Stopped m r (Account.batchBody (callWithin (d + 2)) (.ref r) (.ref old) (.ref l) m)
      (h.batch p amounts) := by
  unfold Account.batchBody Holding.batch
  rw [bind_of_done entered.here.field_active]
  refine .demand entered.here (assertThat_agrees entered.ready .pre _ _) ?_
  obtain ⟨n, grew, here, ended⟩ :=
    applyBatch_stopped (d := d) entered.ready entered.here 0 amounts
  rw [← applyItems_list _ list] at ended
  refine ⟨n, grew, here, ?_⟩
  cases result : (h.walk p 0 amounts).2 with
  | ok total =>
    rw [result] at ended
    have snapshot := grew.cell_eq entered.snapshot nofun
      (fun mem => entered.not_mem entered.here (List.mem_cons_of_mem r mem))
    have added := Holding.walk_balance result
    have matching : Comparison.eq.onInts (h.walk p 0 amounts).1.balance (h.balance + total) =
        true := by
      rw [Comparison.onInts, decide_eq_true_eq]
      omega
    dsimp only at ended ⊢
    rw [bind_of_done ended, bind_of_done here.field_balance,
      bind_of_done (field_of_snapshot snapshot rfl),
      bind_of_done (arithmetic_add _ h.balance total n), bind_of_done (compare_int _ .eq _ _ n),
      matching, bind_of_done (assertThat_of_true _ .post _ n)]
    rfl
  | error f =>
    rw [result] at ended
    obtain ⟨e, raised, cell⟩ := ended
    exact ⟨e, bind_of_raised raised _, cell⟩

/-! ## Under contract -/

/-- A body that leaves an account as a calculation says, and sound, does so also under an
error-tolerant contract. Where it stops midway there is no exit check. -/
theorem tolerant_stopped {d : Nat} {calculation : Holding × Except Fault Int} {body : Body}
    {o : Value} (ready : m.Ready p) (here : h.At m r) (sound : p = .checked → h.Sound)
    (body_stopped : ∀ n, m.Grows [] n → Stopped n r (body o (.ref r) n) calculation)
    (stays : p = .checked → calculation.1.Sound) :
    Stopped m r (runUnder (callWithin (d + 1)) p (.ref r) o body
      (.member (.mode .errorTolerant)) m) calculation := by
  cases p with
  | unchecked => exact body_stopped m (.refl [] m)
  | checked =>
    rw [runUnder_checked]
    obtain ⟨m₁, entry, grew₁⟩ := (checksPass_account (d := d) ready here (sound rfl)).now .entry
    obtain ⟨m₂, grew₂, left, ended⟩ := body_stopped m₁ grew₁
    have grew : m.Grows [r] m₂ := grew₁.weaken.trans grew₂
    cases result : calculation.2 with
    | ok total =>
      rw [result] at ended
      obtain ⟨n, exit, grew₃⟩ :=
        (checksPass_account (d := d) (ready.grows grew) left (stays rfl)).now .exit
      refine ⟨n, grew.trans grew₃.weaken, left.kept grew₃, ?_⟩
      rw [result]
      exact run_of_done (i := ⟨.errorTolerant, .ref r, o, body⟩) entry ended exit
    | error f =>
      rw [result] at ended
      obtain ⟨e, raised, cell⟩ := ended
      refine ⟨m₂, grew, left, ?_⟩
      rw [result]
      exact ⟨e, (run_of_raised (i := ⟨.errorTolerant, .ref r, o, body⟩) entry raised).trans
        (leave_errorTolerant rfl), cell⟩

/-- A batch is its body run on a new snapshot under an error-tolerant contract. -/
theorem depositBatch_eq {d : Nat} (ready : m.Ready p) (here : h.At m r) (l : Ref) :
    ∃ body : Body, (∀ old n, body old (.ref r) n =
        Account.batchBody (callWithin (d + 2)) (.ref r) old (.ref l) n) ∧
      Account.depositBatch (callWithin (d + 2)) (.ref r) [.ref l] [] m =
        runUnder (callWithin (d + 2)) p (.ref r) (.ref m.heap.size) body
          (.member (.mode .errorTolerant)) (m.push (.snapshot [("balance", .int h.balance)])) := by
  have asked : matched (.exactly "BankAccount.<lambda>" [.needed "self", .needed "amounts"])
      [.ref r, .ref l] [] m = (.done ⟨[some (.ref r), some (.ref l)], [], []⟩, m) := rfl
  have took : (do
      let a ← matched (.exactly "BankAccount.<lambda>" [.needed "self", .needed "amounts"])
        [.ref r, .ref l] []
      newSnapshot [("balance", ← field (callWithin (d + 2)) (a.value 0) "balance")]) m =
      (.done (.ref m.heap.size), m.push (.snapshot [("balance", .int h.balance)])) :=
    (bind_of_done asked _).trans
      ((bind_of_done here.field_balance _).trans (newSnapshot_apply ready.plain rfl))
  unfold Account.depositBatch
  rw [read_bind, ready.active, callMethod_of_done took]
  exact ⟨_, fun _ _ => rfl, rfl⟩

/-- A batch leaves the account as the calculation says. -/
theorem depositBatch_stopped {d : Nat} (ready : m.Ready p) (here : h.At m r)
    (sound : p = .checked → h.Sound) (stored : l < m.heap.size)
    (list : m.cell l = .list (amounts.map .int)) :
    Stopped m r (Account.depositBatch (callWithin (d + 2)) (.ref r) [.ref l] [] m)
      (h.batch p amounts) := by
  have entered := entered_push ready here [("balance", .int h.balance)]
  have grew := Machine.Grows.push [] m (.snapshot [("balance", .int h.balance)])
  obtain ⟨body, same, ran⟩ := depositBatch_eq (d := d) ready here l
  rw [ran]
  refine .of_grows grew.weaken (tolerant_stopped entered.ready entered.here sound ?_ ?_)
  · intro n grows
    have kept := (grew.trans grows).cell l stored List.not_mem_nil
    rw [same]
    exact batchBody_stopped (entered.grows grows) (kept.trans list)
  · rintro rfl
    exact Holding.batch_sound (sound rfl)

/-- Calling the method for batches makes a batch. -/
theorem operate_depositBatch_eq (ready : m.Ready p) (here : h.At m r) (l : Ref) :
    Session.operate (.ref r) "deposit_batch" [.ref l] [] m =
      Account.depositBatch (callWithin (callDepth - 4 + 2)) (.ref r) [.ref l] []
        (m.push (.bound (.ref r) (.routine .accountDepositBatch))) :=
  operate_method .accountDepositBatch ready.plain here rfl rfl rfl rfl nofun [.ref l]

/-- Calling the method for batches leaves the account as the calculation says. -/
theorem operate_depositBatch_stopped (ready : m.Ready p) (here : h.At m r)
    (sound : p = .checked → h.Sound) (stored : l < m.heap.size)
    (list : m.cell l = .list (amounts.map .int)) :
    Stopped m r (Session.operate (.ref r) "deposit_batch" [.ref l] [] m) (h.batch p amounts) := by
  have grew := Machine.Grows.push [] m (.bound (.ref r) (.routine .accountDepositBatch))
  rw [operate_depositBatch_eq ready here l]
  exact .of_grows grew.weaken (depositBatch_stopped (ready.grows grew)
    (here.kept grew) sound (Nat.lt_of_lt_of_le stored grew.size)
    ((grew.cell l stored List.not_mem_nil).trans list))

end Act

end Covenant
