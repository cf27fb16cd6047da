import Covenant.Demo.Scenario
import Covenant.Proofs.Span.Assignment

/-!
# The demonstrations and the span

Accounts and queues tell the span of nothing but the violations of their contracts, and reports do
not heed the fields that they change.
-/

namespace Covenant

namespace Act

variable {way : Way} {call : Caller} [∀ f args named, Impartial way (call f args named)]

/-! ## Accounts -/

instance : way.Asks (IsUnheeded "account_number") := ⟨fun _ => by decide⟩

instance : way.Asks (IsUnheeded "balance") := ⟨fun _ => by decide⟩

instance : way.Asks (IsUnheeded "is_active") := ⟨fun _ => by decide⟩

instance : way.Asks (IsUnheeded "transaction_count") := ⟨fun _ => by decide⟩

instance (v : Value) (name : String) : Impartial way (field call v name) := by
  unfold field
  split
  · refine .seq inferInstance fun _ => ?_
    split
    · split <;> infer_instance
    · split <;> infer_instance
    · infer_instance
  · infer_instance

instance [way.Reporting] (self : Value) : Impartial way (Account.invariant call self) := by
  unfold Account.invariant
  refine .seq inferInstance fun _ => .seq inferInstance fun _ => ?_
  refine .seq inferInstance fun _ => .seq inferInstance fun _ => ?_
  infer_instance

instance (self : Value) : Impartial way (Account.stateSnapshot call self) := by
  unfold Account.stateSnapshot
  infer_instance

instance : Impartial way (newPositive) := by
  unfold newPositive
  infer_instance

instance (v : Value) (name : String) (amount : Value) [way.Asks (IsUnheeded name)] :
    Impartial way (addToField call v name amount) := by
  unfold addToField
  infer_instance

instance [way.Reporting] (self old amount : Value) :
    Impartial way (Account.depositBody call self old amount) := by
  unfold Account.depositBody
  refine .seq inferInstance fun _ => ?_
  refine .seq inferInstance fun _ => .seq inferInstance fun _ => ?_
  refine .seq inferInstance fun _ => .seq inferInstance fun _ => ?_
  refine .seq inferInstance fun _ => .seq inferInstance fun _ => ?_
  refine .seq inferInstance fun _ => .seq inferInstance fun _ => ?_
  refine .seq inferInstance fun _ => .seq inferInstance fun _ => ?_
  infer_instance

instance [way.Reporting] (self : Value) (args : List Value) (named : Fields) :
    Impartial way (Account.deposit call self args named) := by
  unfold Account.deposit
  infer_instance

instance (amount limit : Value) : Impartial way (Account.limitMessage call amount limit) := by
  unfold Account.limitMessage
  infer_instance

instance (amount limit : Value) : Impartial way (Account.failLimit call amount limit) := by
  unfold Account.failLimit
  infer_instance

instance (amount : Value) : Impartial way (Account.limitDaily call amount) := by
  unfold Account.limitDaily
  infer_instance

instance (v : Value) (name : String) (amount : Value) [way.Asks (IsUnheeded name)] :
    Impartial way (subtractFromField call v name amount) := by
  unfold subtractFromField
  infer_instance

instance [way.Reporting] (amount old self : Value) :
    Impartial way (Account.withdrawBody call amount old self) := by
  unfold Account.withdrawBody
  refine .seq inferInstance fun _ => ?_
  refine .seq inferInstance fun _ => .seq inferInstance fun _ => ?_
  refine .seq inferInstance fun _ => .seq inferInstance fun _ => ?_
  refine .seq inferInstance fun _ => .seq inferInstance fun _ => ?_
  refine .seq inferInstance fun _ => .seq inferInstance fun _ => ?_
  refine .seq inferInstance fun _ => .seq inferInstance fun _ => ?_
  infer_instance

instance [way.Reporting] (self amount : Value) :
    Impartial way (Account.withdraw call self amount) := by
  unfold Account.withdraw
  infer_instance

instance [way.Reporting] (recipient amount old self : Value) :
    Impartial way (Account.transferBody call recipient amount old self) := by
  unfold Account.transferBody
  refine .seq inferInstance fun _ => .seq inferInstance fun _ => ?_
  refine .seq inferInstance fun _ => .seq inferInstance fun _ => ?_
  refine .seq inferInstance fun _ => .seq inferInstance fun _ => ?_
  refine .seq inferInstance fun _ => .seq inferInstance fun _ => ?_
  refine .seq inferInstance fun _ => .seq inferInstance fun _ => ?_
  refine .seq inferInstance fun _ => .seq inferInstance fun _ => ?_
  refine .seq inferInstance fun _ => .seq inferInstance fun _ => ?_
  refine .seq inferInstance fun _ => .seq inferInstance fun _ => ?_
  dsimp only
  refine .seq inferInstance fun _ => .seq inferInstance fun _ => ?_
  infer_instance

instance [way.Reporting] (self recipient amount : Value) :
    Impartial way (Account.transfer call self recipient amount) := by
  unfold Account.transfer
  infer_instance

instance [way.Reporting] (self : Value) : Impartial way (Account.closeBody call self) := by
  unfold Account.closeBody
  refine .seq inferInstance fun _ => ?_
  infer_instance

instance [way.Reporting] (self : Value) (args : List Value) (named : Fields) :
    Impartial way (Account.close call self args named) := by
  unfold Account.close
  infer_instance

instance [way.Reporting] (self applied amount : Value) :
    Impartial way (Account.applyOne call self applied amount) := by
  unfold Account.applyOne
  infer_instance

instance [way.Reporting] (self applied : Value) (amounts : List Value) :
    Impartial way (Account.applyBatch call self applied amounts) := by
  induction amounts generalizing applied with
  | nil => exact .pure applied
  | cons amount rest ih =>
    rw [Account.applyBatch]
    infer_instance

instance [way.Reporting] (self amounts : Value) :
    Impartial way (Account.applyItems call self amounts) := by
  unfold Account.applyItems
  refine .seq inferInstance fun _ => ?_
  split <;> infer_instance

instance [way.Reporting] (self old amounts : Value) :
    Impartial way (Account.batchBody call self old amounts) := by
  unfold Account.batchBody
  refine .seq inferInstance fun _ => .seq inferInstance fun _ => ?_
  infer_instance

instance [way.Reporting] (self : Value) (args : List Value) (named : Fields) :
    Impartial way (Account.depositBatch call self args named) := by
  unfold Account.depositBatch
  infer_instance

instance [way.Reporting] (self number : Value) :
    Impartial way (Account.start call self number) := by
  unfold Account.start
  infer_instance

instance (self : Value) : Impartial way (Account.text call self) := by
  unfold Account.text
  infer_instance

/-! ## Queues -/

instance : way.Asks (IsUnheeded "capacity") := ⟨fun _ => by decide⟩

instance : way.Asks (IsUnheeded "items") := ⟨fun _ => by decide⟩

instance : way.Asks (IsUnheeded "head") := ⟨fun _ => by decide⟩

instance : way.Asks (IsUnheeded "tail") := ⟨fun _ => by decide⟩

instance : way.Asks (IsUnheeded "count") := ⟨fun _ => by decide⟩

instance (self : Value) (name : String) : Impartial way (Queue.inRing call self name) := by
  unfold Queue.inRing
  infer_instance

instance [way.Reporting] (self : Value) : Impartial way (Queue.invariant call self) := by
  unfold Queue.invariant
  infer_instance

instance (self : Value) (name : String) [way.Asks (IsUnheeded name)] :
    Impartial way (Queue.advance call self name) := by
  unfold Queue.advance
  infer_instance

instance [way.Reporting] (old self : Value) : Impartial way (Queue.enqueueBody call old self) := by
  unfold Queue.enqueueBody
  refine .seq inferInstance fun _ => .seq inferInstance fun _ => ?_
  refine .seq inferInstance fun _ => .seq inferInstance fun _ => ?_
  refine .seq inferInstance fun _ => .seq inferInstance fun _ => ?_
  refine .seq inferInstance fun _ => .seq inferInstance fun _ => ?_
  exact .seq inferInstance inferInstance

instance [way.Reporting] (self new : Value) : Impartial way (Queue.enqueue call self new) := by
  unfold Queue.enqueue
  infer_instance

instance [way.Reporting] (old self : Value) : Impartial way (Queue.dequeueBody call old self) := by
  unfold Queue.dequeueBody
  refine .seq inferInstance fun _ => ?_
  refine .seq inferInstance fun _ => .seq inferInstance fun _ => ?_
  refine .seq inferInstance fun _ => .seq inferInstance fun _ => ?_
  refine .seq inferInstance fun _ => .seq inferInstance fun _ => ?_
  refine .seq inferInstance fun _ => .seq inferInstance fun _ => ?_
  exact .seq inferInstance inferInstance

instance [way.Reporting] (self : Value) : Impartial way (Queue.dequeue call self) := by
  unfold Queue.dequeue
  infer_instance

instance [way.Reporting] (self capacity : Value) :
    Impartial way (Queue.start call self capacity) := by
  unfold Queue.start
  refine .seq inferInstance fun _ => ?_
  refine .seq inferInstance fun _ => .seq inferInstance fun _ => ?_
  infer_instance

/-! ## Scenarios -/

instance (title : String) : Impartial way (headline title) := by
  unfold headline
  infer_instance

instance (k : Known) (start : Value → Act Unit) [∀ a, Impartial way (start a)] :
    Impartial way (make k start) := by
  unfold make
  infer_instance

instance [way.Reporting] : Impartial way (queueDemo call) := by
  unfold queueDemo
  refine .seq inferInstance fun _ => .seq inferInstance fun _ => ?_
  exact .seq inferInstance inferInstance

instance (account : Value) : Impartial way (shownBalance call account) := by
  unfold shownBalance
  infer_instance

instance [way.Reporting] (account : Value) (amounts : List Int) :
    Impartial way (stoppedBatch call account amounts) := by
  unfold stoppedBatch
  refine .seq inferInstance fun _ => .seq inferInstance fun _ => ?_
  split <;> infer_instance

instance [way.Reporting] : Impartial way (bankDemo call) := by
  unfold bankDemo
  refine .seq inferInstance fun _ => ?_
  refine .seq inferInstance fun _ => .seq inferInstance fun _ => ?_
  refine .seq inferInstance fun _ => .seq inferInstance fun _ => ?_
  infer_instance

end Act

end Covenant
