import Covenant.Proofs.Contract.Bracket
import Covenant.Proofs.Demo.Bank.Holding
import Covenant.Proofs.Demo.Object

/-!
# Accounts on the machine

An account is an object whose fields are those of a holding (`Holding.At`). Money that comes in or
goes out is written to that object and nothing else (`receive_apply`, `pay_apply`), and a transfer
is the one and then the other, be the recipient another account or the sender itself
(`move_apply`).

The invariant of an account is found to hold exactly where the holding is sound, so the checks of a
sound account pass (`checksPass_account`). An amount above the daily limit is refused under either
profile (`limitDaily_agrees`).
-/

namespace Covenant

open Act

namespace Holding

/-- The fields of an account. -/
def fields (h : Holding) : Fields :=
  [("account_number", .int h.number), ("balance", .int h.balance), ("is_active", .bool h.active),
    ("transaction_count", .int h.count)]

/-- An account on the machine: an object with the fields of a holding. -/
def At (h : Holding) (m : Machine) (r : Ref) : Prop :=
  m.cell r = .object (.known .account) h.fields

/-- The integer in a field; zero if there is none. -/
def intField (fields : Fields) (name : String) : Int :=
  match fields.get? name with
  | some (.int n) => n
  | _ => 0

/-- What the fields of an object say that it holds. -/
def ofFields (fields : Fields) : Holding where
  number := intField fields "account_number"
  balance := intField fields "balance"
  active :=
    match fields.get? "is_active" with
    | some (.bool b) => b
    | _ => false
  count := intField fields "transaction_count"

variable {call : Caller} {m n : Machine} {r : Ref} {h k : Holding} {written : List Ref}

namespace At

/-- An account that is not written to stays as it is. -/
theorem grows (here : h.At m r) (grew : m.Grows written n) (kept : r ∉ written) : h.At n r :=
  grew.cell_eq here nofun kept

/-- What writes to no cell leaves an account as it is. -/
theorem kept (here : h.At m r) (grew : m.Grows [] n) : h.At n r :=
  here.grows grew List.not_mem_nil

theorem lt_size (here : h.At m r) : r < m.heap.size :=
  Machine.lt_size_of_cell here nofun

/-- An object has one holding. -/
theorem unique (here : h.At m r) (too : k.At m r) : h = k := by
  have same := here.symm.trans too
  have fields : h.fields = k.fields := by injection same
  exact congrArg ofFields fields

theorem classOf (here : h.At m r) : m.classOf (.ref r) = .known .account := by
  rw [Machine.classOf_ref, here]
  rfl

theorem field_number (here : h.At m r) :
    field call (.ref r) "account_number" m = (.done (.int h.number), m) :=
  field_of_object here rfl

theorem field_balance (here : h.At m r) :
    field call (.ref r) "balance" m = (.done (.int h.balance), m) :=
  field_of_object here rfl

theorem field_active (here : h.At m r) :
    field call (.ref r) "is_active" m = (.done (.bool h.active), m) :=
  field_of_object here rfl

theorem field_count (here : h.At m r) :
    field call (.ref r) "transaction_count" m = (.done (.int h.count), m) :=
  field_of_object here rfl

end At

end Holding

/-- What an account holds on a machine. -/
def Machine.holding (m : Machine) (r : Ref) : Holding :=
  match m.cell r with
  | .object _ fields => .ofFields fields
  | _ => ⟨0, 0, false, 0⟩

/-- What an account holds is what its fields say. -/
theorem Holding.At.holding {m : Machine} {r : Ref} {h : Holding} (here : h.At m r) :
    m.holding r = h := by
  unfold Machine.holding
  rw [show m.cell r = _ from here]
  rfl

namespace Act

variable {call : Caller} {m n : Machine} {p : Profile} {r s : Ref} {h k : Holding}

/-! ## Writing -/

/-- Another holding is written to the object. -/
theorem putHolding_grows (here : h.At m r) (k : Holding) :
    m.Grows [r] (m.put r (.object (.known .account) k.fields)) ∧
      k.At (m.put r (.object (.known .account) k.fields)) r :=
  ⟨.put m _ List.mem_cons_self, Machine.cell_put_self here.lt_size⟩

/-- An amount comes in by two writes to the object. -/
theorem receive_eq (call : Caller) (plain : m.Plain) (here : h.At m r) (a : Int) :
    ∃ c₁ c₂, addToField call (.ref r) "balance" (.int a) m = (.done (), m.put r c₁) ∧
      addToField call (.ref r) "transaction_count" (.int 1) (m.put r c₁) =
        (.done (), (m.put r c₁).put r c₂) ∧
      m.Grows [r] ((m.put r c₁).put r c₂) ∧ (h.receive a).At ((m.put r c₁).put r c₂) r := by
  obtain ⟨grew₁, here₁⟩ := putHolding_grows here { h with balance := h.balance + a }
  obtain ⟨grew₂, here₂⟩ := putHolding_grows here₁ (h.receive a)
  exact ⟨_, _, addToField_apply plain here rfl rfl rfl a,
    addToField_apply (plain.grows grew₁) here₁ rfl rfl rfl 1, grew₁.trans grew₂, here₂⟩

/-- An amount comes in. -/
theorem receive_apply (call : Caller) (plain : m.Plain) (here : h.At m r) (a : Int) :
    ∃ m₁ n, addToField call (.ref r) "balance" (.int a) m = (.done (), m₁) ∧
      addToField call (.ref r) "transaction_count" (.int 1) m₁ = (.done (), n) ∧
      m.Grows [r] n ∧ (h.receive a).At n r := by
  obtain ⟨c₁, c₂, received⟩ := receive_eq call plain here a
  exact ⟨_, _, received⟩

/-- An amount goes out. -/
theorem pay_apply (call : Caller) (plain : m.Plain) (here : h.At m r) (a : Int) :
    ∃ m₁ n, subtractFromField call (.ref r) "balance" (.int a) m = (.done (), m₁) ∧
      addToField call (.ref r) "transaction_count" (.int 1) m₁ = (.done (), n) ∧
      m.Grows [r] n ∧ (h.pay a).At n r := by
  obtain ⟨grew₁, here₁⟩ := putHolding_grows here { h with balance := h.balance - a }
  obtain ⟨grew₂, here₂⟩ := putHolding_grows here₁ (h.pay a)
  exact ⟨_, _, subtractFromField_apply plain here rfl rfl rfl a,
    addToField_apply (plain.grows grew₁) here₁ rfl rfl rfl 1, grew₁.trans grew₂, here₂⟩

/-- What a transfer between two accounts, which may be one and the same, leaves on a machine. -/
def Moved (h k : Holding) (a : Int) (r s : Ref) (n : Machine) : Prop :=
  if r = s then ((h.pay a).receive a).At n r else (h.pay a).At n r ∧ (k.receive a).At n s

/-- An amount goes out of an account and comes in to one, which is perhaps the same. -/
theorem move_apply (call : Caller) (plain : m.Plain) (sender : h.At m r) (recipient : k.At m s)
    (a : Int) :
    ∃ m₁ m₂ m₃ n, subtractFromField call (.ref r) "balance" (.int a) m = (.done (), m₁) ∧
      addToField call (.ref r) "transaction_count" (.int 1) m₁ = (.done (), m₂) ∧
      addToField call (.ref s) "balance" (.int a) m₂ = (.done (), m₃) ∧
      addToField call (.ref s) "transaction_count" (.int 1) m₃ = (.done (), n) ∧
      m.Grows [r, s] n ∧ Moved h k a r s n := by
  obtain ⟨m₁, m₂, paid, counted, grew₁, sender₂⟩ := pay_apply call plain sender a
  have plain₂ := plain.grows grew₁
  have first : m.Grows [r, s] m₂ := grew₁.mono (List.cons_subset_cons r (List.nil_subset _))
  by_cases same : r = s
  · subst same
    obtain ⟨m₃, n, received, counted', grew₂, here⟩ := receive_apply call plain₂ sender₂ a
    refine ⟨m₁, m₂, m₃, n, paid, counted, received, counted', ?_, ?_⟩
    · exact first.trans (grew₂.mono (List.cons_subset_cons r (List.nil_subset _)))
    · rw [Moved, if_pos rfl]
      exact here
  · have recipient₂ : k.At m₂ s :=
      recipient.grows grew₁ fun mem => same (List.mem_singleton.1 mem).symm
    obtain ⟨m₃, n, received, counted', grew₂, here⟩ := receive_apply call plain₂ recipient₂ a
    refine ⟨m₁, m₂, m₃, n, paid, counted, received, counted', ?_, ?_⟩
    · exact first.trans (grew₂.mono (List.subset_cons_self r [s]))
    · rw [Moved, if_neg same]
      exact ⟨sender₂.grows grew₂ fun mem => same (List.mem_singleton.1 mem), here⟩

/-- What stands in the two accounts after a transfer: as much as before, and no less in the
recipient if the amount is not negative. -/
theorem Moved.balances {a : Int} (sender : h.At m r) (recipient : k.At m s)
    (moved : Moved h k a r s n) :
    ∃ x y : Holding, x.At n r ∧ y.At n s ∧ x.balance + y.balance = h.balance + k.balance ∧
      (r ≠ s → y.balance = k.balance + a) := by
  unfold Moved at moved
  by_cases same : r = s
  · subst same
    obtain rfl := sender.unique recipient
    rw [if_pos rfl] at moved
    refine ⟨_, _, moved, moved, ?_, fun distinct => absurd rfl distinct⟩
    simp only [Holding.pay, Holding.receive]
    omega
  · rw [if_neg same] at moved
    refine ⟨_, _, moved.1, moved.2, ?_, fun _ => rfl⟩
    simp only [Holding.pay, Holding.receive]
    omega

/-- What writes to no cell changes nothing about it. -/
theorem Moved.grows {a : Int} {after : Machine} (moved : Moved h k a r s n)
    (grew : n.Grows [] after) : Moved h k a r s after := by
  unfold Moved at moved ⊢
  split at moved
  · next same =>
    rw [if_pos same]
    exact moved.kept grew
  · next distinct =>
    rw [if_neg distinct]
    exact ⟨moved.1.kept grew, moved.2.kept grew⟩

/-! ## The daily limit -/

/-- Numbers of up to five digits can be written. -/
theorem isWritable_of_natAbs_lt {a : Int} (few : a.natAbs < 100000) : isWritable a = true := by
  have digits : 5 ≤ Number.digitLimit := by decide
  have more := Nat.pow_le_pow_right (n := 10) (by decide) digits
  have limit : Number.writableLimit = 10 ^ Number.digitLimit := by
    simp only [Number.writableLimit, Number.tenTo, Nat.pow_eq]
  unfold isWritable
  rw [decide_eq_true_eq, limit]
  exact Nat.lt_of_lt_of_le few more

theorem isWritable_dailyLimit : isWritable dailyLimit = true :=
  isWritable_of_natAbs_lt (by decide)

/-- The daily limit is below the numbers that cannot be written. -/
theorem dailyLimit_lt_writableLimit : dailyLimit.natAbs < Number.writableLimit :=
  of_decide_eq_true isWritable_dailyLimit

/-- An amount above the daily limit is refused, and nothing happens to one within it. -/
theorem limitDaily_eq (call : Caller) (free : m.handling = none) (a : Int) :
    Account.limitDaily call (.int a) m =
      match Holding.withinLimit a with
      | .ok () => (.done (), m)
      | .error f => (.raised m.heap.size, m.push (.fault f)) := by
  unfold Account.limitDaily Holding.withinLimit
  rw [bind_of_done (holds_int call .gt a dailyLimit m)]
  by_cases above : dailyLimit < a
  · have holds : Comparison.gt.onInts a dailyLimit = true := by
      simpa [Comparison.onInts] using above
    rw [holds, if_pos rfl, if_pos above]
    unfold Account.failLimit Account.limitMessage Holding.aboveLimit
    simp only [shown_int, bind_assoc, pure_bind]
    cases few : isWritable a with
    | false => exact bind_of_raised (decimalText_of_unwritable few free) _
    | true =>
      rw [bind_of_done (decimalText_of_writable few m),
        bind_of_done (decimalText_of_writable isWritable_dailyLimit m),
        bind_of_done (alloc_apply _ m)]
      exact raise_of_handling (m := m.push _) free _
  · have holds : Comparison.gt.onInts a dailyLimit = false := by
      simpa [Comparison.onInts] using above
    rw [holds, if_neg above]
    rfl

/-- The amount is demanded to be within the daily limit. -/
theorem limitDaily_agrees (free : m.handling = none) (a : Int) :
    Agrees m [] (Account.limitDaily call (.int a) m) (Holding.withinLimit a)
      fun _ _ n => n = m := by
  rw [limitDaily_eq call free a]
  cases Holding.withinLimit a with
  | ok u => exact .of_done rfl (.refl [] m) rfl
  | error f => exact .of_raised rfl (.push [] m _) (Machine.cell_push_size m _)

/-! ## The invariant -/

/-- The invariant of a sound account is found to hold. -/
theorem accountInvariant_apply (call : Caller) (here : h.At m r) (sound : h.Sound) :
    Account.invariant call (.ref r) m = (.done .null, m) := by
  have number : Comparison.gt.onInts h.number 0 = true := by
    simpa [Comparison.onInts] using sound.number
  have balance : Comparison.ge.onInts h.balance 0 = true := by
    simpa [Comparison.onInts] using sound.balance
  unfold Account.invariant
  rw [bind_of_done here.field_number, bind_of_done (compare_int call .gt h.number 0 m), number,
    bind_of_done (assertThat_of_true call .pre _ m), bind_of_done here.field_balance,
    bind_of_done (compare_int call .ge h.balance 0 m), balance,
    bind_of_done (assertThat_of_true call .pre _ m), bind_of_done here.field_active,
    bind_of_done (truth_bool call h.active m)]
  cases active : h.active with
  | true =>
    simp only [if_true, pure_bind]
    rw [bind_of_done (assertContext_of_true call .pre _ m)]
    rfl
  | false =>
    have empty : h.balance = 0 := sound.empty.resolve_left (by simp [active])
    have zero : Comparison.eq.onInts h.balance 0 = true := by simpa [Comparison.onInts] using empty
    simp only [Bool.false_eq_true, if_false]
    rw [bind_of_done here.field_balance, bind_of_done (compare_int call .eq h.balance 0 m), zero,
      bind_of_done (assertContext_of_true call .pre _ m)]
    rfl

/-- The checks of a sound account pass. -/
theorem checksPass_account {d : Nat} (ready : m.Ready .checked) (here : h.At m r)
    (sound : h.Sound) : ChecksPass (callWithin (d + 1)) (.ref r) m := by
  intro n e c grew
  have ready' := ready.grows grew
  have here' := here.kept grew
  have handled : h.At { n with handling := e } r := here'
  refine checkAt_of_holds (k := .account) (r := .accountInvariant) (ready'.plain.handling e)
    ready'.active handled.classOf rfl ?_ c
  intro k grows
  exact accountInvariant_apply _ (handled.kept grows) sound

end Act

end Covenant
