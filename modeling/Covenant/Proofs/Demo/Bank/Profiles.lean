import Covenant.Proofs.Contract.Profiles
import Covenant.Proofs.Demo.Bank.Account

/-!
# Accounts under the two profiles

What an operation of an account comes to in a process that checks is a violation, or what it comes
to in a process that does not (`Holding.deposit_follows` and its like). There it is no violation
(`Holding.deposit_blameless` and its like).

For withdrawals and transfers the first of it takes that the balance is not negative. The message
about an amount that is not covered shows the amount and the balance. If it cannot be written
because one of them has too many digits, then the amount has, and the message about the daily limit
cannot be written either (`follows_shortage`).
-/

namespace Covenant

open Act

namespace Holding

variable {h k : Holding} {a b : Int}

theorem isFailure_unwritable : unwritable.IsFailure :=
  ⟨_, rfl, rfl⟩

theorem isFailure_aboveLimit (a : Int) : (aboveLimit a).IsFailure := by
  unfold aboveLimit
  split
  · exact ⟨_, rfl, rfl⟩
  · exact isFailure_unwritable

theorem blameless_withinLimit (a : Int) : Blameless (withinLimit a) := by
  unfold withinLimit
  split
  · exact blameless_error (isFailure_aboveLimit a)
  · exact blameless_ok ()

/-- An amount with too many digits is above the daily limit, and the message about it fails. -/
theorem withinLimit_of_unwritable (positive : 0 < a) (long : isWritable a = false) :
    withinLimit a = .error unwritable := by
  have short := isWritable_dailyLimit
  simp only [isWritable, decide_eq_true_eq, decide_eq_false_iff_not] at short long
  have above : dailyLimit < a := by omega
  have none : ¬ isWritable a = true := by simpa [isWritable] using long
  rw [withinLimit, if_pos above, aboveLimit, if_neg none]

/-- An amount that is not covered is a violation, unless it has too many digits to be shown: then it
is refused in the same way as being above the daily limit. -/
theorem follows_shortage (before between : String) (positive : 0 < a) (notNegative : 0 ≤ b) :
    Follows
      (demand .checked (a ≤ b) (shortage before between a b) >>= fun _ => withinLimit a)
      (demand .unchecked (a ≤ b) (shortage before between a b) >>= fun _ => withinLimit a) := by
  by_cases covered : a ≤ b
  · simp only [covered, decide_true, demand_true]
    exact .refl _
  simp only [covered, decide_false, demand_false, demand_unchecked]
  cases few : isWritable a with
  | true =>
    have fewToo : isWritable b = true := by
      simp only [isWritable, decide_eq_true_eq] at few ⊢
      omega
    refine .inr ⟨shortage before between a b, rfl, ?_⟩
    rw [shortage, few, fewToo]
    exact isViolation_violation .pre _
  | false =>
    left
    change Except.error (shortage before between a b) = withinLimit a
    rw [withinLimit_of_unwritable positive few, shortage, few]
    rfl

theorem opening_follows (number : Int) :
    Follows (opening .checked number) (opening .unchecked number) :=
  .demand (isViolation_violation _ _) fun _ => .refl _

theorem deposit_follows (h : Holding) (a : Int) :
    Follows (h.deposit .checked a) (h.deposit .unchecked a) :=
  .demand (isViolation_violation _ _) fun _ => .demand (isViolation_violation _ _) fun _ =>
    .demand (isViolation_violation _ _) fun _ => .refl _

theorem close_follows (h : Holding) : Follows (h.close .checked) (h.close .unchecked) :=
  .demand (isViolation_violation _ _) fun _ => .refl _

theorem withdraw_follows (notNegative : 0 ≤ h.balance) (a : Int) :
    Follows (h.withdraw .checked a) (h.withdraw .unchecked a) := by
  refine .demand (isViolation_violation _ _) fun _ => ?_
  refine .demand (isViolation_violation _ _) fun positive => ?_
  have limited := follows_shortage "Insufficient funds: requested " ", available "
    (of_decide_eq_true positive) notNegative
  have paid := limited.bind fun _ _ => .refl (pure (h.pay a))
  simpa only [bind_assoc] using paid

theorem transfer_follows (notNegative : 0 ≤ h.balance) (same : Bool) (k : Holding) (a : Int) :
    Follows (transfer .checked same h k a) (transfer .unchecked same h k a) := by
  refine .demand (isViolation_violation _ _) fun _ => ?_
  refine .demand (isViolation_violation _ _) fun _ => ?_
  refine .demand (isViolation_violation _ _) fun _ => ?_
  refine .demand (isViolation_violation _ _) fun positive => ?_
  exact follows_shortage _ _ (of_decide_eq_true positive) notNegative

theorem accept_follows (a : Int) : Follows (accept .checked a) (accept .unchecked a) :=
  .demand (isViolation_violation _ _) fun _ => .refl _

/-- A batch stops at a violation, or comes to the same if nothing is checked. -/
theorem walk_tracks (h : Holding) (applied : Int) (amounts : List Int) :
    Tracks (walk .checked h applied amounts) (walk .unchecked h applied amounts) := by
  induction amounts generalizing h applied with
  | nil => exact .inl rfl
  | cons a rest ih =>
    unfold walk
    rcases accept_follows a with same | ⟨f, failed, violation⟩
    · rw [same]
      cases accept .unchecked a with
      | ok u => exact ih (h.receive a) (applied + a)
      | error f => exact .inl rfl
    · rw [failed]
      exact .inr ⟨f, rfl, violation⟩

theorem batch_tracks (h : Holding) (amounts : List Int) :
    Tracks (h.batch .checked amounts) (h.batch .unchecked amounts) := by
  unfold batch
  cases h.active with
  | true => exact walk_tracks h 0 amounts
  | false => exact .inr ⟨_, rfl, isViolation_violation _ _⟩

theorem opening_blameless (number : Int) : Blameless (opening .unchecked number) :=
  (blameless_demand _ _).bind fun _ => blameless_ok _

theorem deposit_blameless (h : Holding) (a : Int) : Blameless (h.deposit .unchecked a) :=
  (blameless_demand _ _).bind fun _ => (blameless_demand _ _).bind fun _ =>
    (blameless_demand _ _).bind fun _ => blameless_ok _

theorem withdraw_blameless (h : Holding) (a : Int) : Blameless (h.withdraw .unchecked a) :=
  (blameless_demand _ _).bind fun _ => (blameless_demand _ _).bind fun _ =>
    (blameless_demand _ _).bind fun _ => (blameless_withinLimit a).bind fun _ => blameless_ok _

theorem transfer_blameless (same : Bool) (h k : Holding) (a : Int) :
    Blameless (transfer .unchecked same h k a) :=
  (blameless_demand _ _).bind fun _ => (blameless_demand _ _).bind fun _ =>
    (blameless_demand _ _).bind fun _ => (blameless_demand _ _).bind fun _ =>
      (blameless_demand _ _).bind fun _ => blameless_withinLimit a

theorem close_blameless (h : Holding) : Blameless (h.close .unchecked) :=
  (blameless_demand _ _).bind fun _ => blameless_ok _

theorem accept_blameless (a : Int) : Blameless (accept .unchecked a) :=
  (blameless_demand _ _).bind fun _ => blameless_withinLimit a

theorem walk_blameless (h : Holding) (applied : Int) (amounts : List Int) :
    Blameless (walk .unchecked h applied amounts).2 := by
  induction amounts generalizing h applied with
  | nil => exact blameless_ok applied
  | cons a rest ih =>
    unfold walk
    cases accepted : accept .unchecked a with
    | ok u => exact ih (h.receive a) (applied + a)
    | error f => exact blameless_error (accept_blameless a f accepted)

theorem batch_blameless (h : Holding) (amounts : List Int) :
    Blameless (h.batch .unchecked amounts).2 := by
  unfold batch
  rw [demand_unchecked]
  exact walk_blameless h 0 amounts

end Holding

end Covenant
