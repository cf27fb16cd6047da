import Covenant.Proofs.Machine.Links
import Covenant.Proofs.Span.Script
import Covenant.Script.Call

/-!
# Calls

A call is impartial if the calls that it makes are. What may be called depends on the way
(`Way.Fits`): functions that add events to the span themselves only where that is free, those that
report violations only where the machine stays calm, if that is asked for, and all others only where
it need not. So calls that may be nested to some depth are impartial by induction on it: all of them
where events may be added freely, and those of a program that adds none itself where they may not.
-/

namespace Covenant

/-- Whether a function can report violations. -/
def Routine.reports : Routine → Bool
  | .assertion .. | .runStrict | .runErrorTolerant | .runContract | .checkInvariant
  | .reportViolation | .accountInvariant | .accountDeposit | .accountWithdraw | .accountTransfer
  | .accountClose | .accountDepositBatch | .accountStart | .queueInvariant | .queueEnqueue
  | .queueDequeue | .queueStart | .queueDemo | .bankDemo => true
  | _ => false

namespace Act

variable {way : Way} {call : Caller} [∀ f args named, Impartial way (call f args named)]

/-! ## What is called -/

/-- What comes after matched arguments is impartial if it is so for those that can be matched. -/
theorem Impartial.afterMatched {α : Type} {s : Signature} {args : List Value} {named : Fields}
    {f : Arguments → Act α} (each : ∀ a, s.bind args named = .ok a → Impartial way (f a)) :
    Impartial way (matched s args named >>= f) := by
  unfold matched
  cases bound : s.bind args named with
  | ok a => exact each a bound
  | error e =>
    dsimp only
    rw [fail_bind]
    infer_instance

/-- What an assertion takes. -/
def assertionSignature (side : Side) (shape : Shape) : Signature :=
  let title := routineName (.assertion side shape)
  match shape with
  | .plain => .exactly title [.placed "condition_or_value", .placed "message_or_validator",
      ⟨"message", true, true⟩]
  | .formatted => ⟨title, [.placed "condition", .placed "template"], true, true⟩
  | .context => .exactly title [.placed "condition", .placed "expr_text"]

/-- What the check of an invariant takes. -/
def invariantSignature : Signature :=
  .exactly (routineName .checkInvariant) (["subject", "checkpoint"].map .needed)

/-- What the report of a violation takes. -/
def reportSignature : Signature :=
  .exactly (routineName .reportViolation) (["error"].map .needed)

/-- Whether an assertion has a plain text to report, if it fails. -/
def isAssertedPlainly (shape : Shape) (a : Arguments) : Bool :=
  match shape with
  | .plain => (a.values[2]?.join.getD (a.value 1)).isNoMember
  | .formatted => (a.value 1).isPlainText
  | .context => true

instance [way.Reporting] (side : Side) (shape : Shape) (args : List Value) (named : Fields)
    [asked : way.Asks (∀ a, (assertionSignature side shape).bind args named = .ok a →
      isAssertedPlainly shape a)] :
    Impartial way (callAssertion call side shape args named) := by
  unfold callAssertion
  dsimp only
  cases shape with
  | plain =>
    refine .afterMatched fun a bound => ?_
    have plain : way.Asks (a.values[2]?.join.getD (a.value 1)).isNoMember :=
      ⟨fun calmly => asked.holds calmly a bound⟩
    cases given : a.values[2]?.join with
    | none =>
      rw [given] at plain
      change way.Asks (a.value 1).isNoMember at plain
      infer_instance
    | some message =>
      rw [given] at plain
      change way.Asks message.isNoMember at plain
      infer_instance
  | formatted =>
    refine .afterMatched fun a bound => ?_
    have plain : way.Asks (a.value 1).isPlainText := ⟨fun calmly => asked.holds calmly a bound⟩
    infer_instance
  | context => infer_instance

instance (v : Value) : Impartial way (isWeaklyKept v) := by
  unfold isWeaklyKept
  split <;> try infer_instance
  refine .seq inferInstance fun _ => ?_
  split <;> first | infer_instance | split <;> infer_instance

instance (v : Value) (found : Option Value) :
    Impartial way (update fun m => { m with remembered := (v, found) :: m.remembered }) :=
  .update (fun _ _ => rfl) (fun _ => rfl) fun _ => ⟨rfl, rfl, Nat.le_refl _⟩

instance (v : Value) : Impartial way (invariantOf call v) := by
  unfold invariantOf
  split
  · infer_instance
  · refine .seq inferInstance fun _ => ?_
    split
    · refine .seq inferInstance fun _ => .seq (.read fun _ _ => rfl) fun _ => ?_
      split
      · infer_instance
      · refine .seq inferInstance fun _ => ?_
        dsimp only
        split
        · refine .seq inferInstance fun _ => ?_
          split <;> infer_instance
        · infer_instance
    · infer_instance

instance (self v : Value) : Impartial way (withinRange call self v) := by
  unfold withinRange
  infer_instance

instance (lines : List String) : Impartial way (textList lines) := by
  unfold textList
  infer_instance

instance [way.Loose] (self message : Value) : Impartial way (startViolation call self message) := by
  unfold startViolation
  infer_instance

instance [way.Loose] (self subjectType checkpoint detail cause : Value) :
    Impartial way (startInvariantError call self subjectType checkpoint detail cause) := by
  unfold startInvariantError
  refine .seq inferInstance fun _ => .seq inferInstance fun _ => ?_
  infer_instance

instance [way.Loose] (self amount limit : Value) :
    Impartial way (startLimitError call self amount limit) := by
  unfold startLimitError
  infer_instance

instance [way.Loose] (owner : Known) (args : List Value) (named : Fields) :
    Impartial way (newNaturally call owner args named) := by
  unfold newNaturally
  dsimp only
  split <;> try infer_instance
  refine .seq inferInstance fun _ => ?_
  refine .seq (.read fun _ _ => by simp) fun _ => .seq (.read fun _ _ => by simp) fun _ => ?_
  split
  · infer_instance
  · split
    · split <;> infer_instance
    · split <;> first | infer_instance | exact .found ‹_›

instance (body old subject : Value) : Impartial way (bodyOf call body old subject) := by
  unfold bodyOf
  infer_instance

instance [way.Loose] (params : List String) (body : List Script.Stmt) (scope : Ref)
    (args : List Value) (named : Fields) :
    Impartial way (callClosure call params body scope args named) := by
  unfold callClosure
  refine .seq inferInstance fun _ => .seq inferInstance fun _ => ?_
  split <;> infer_instance

/-! ### Functions that exist from the start -/

/-- Whether a function is given a plain text or a checkpoint where it reports one. -/
def isGivenPlainly (r : Routine) (args : List Value) (named : Fields) : Bool :=
  match r with
  | .assertion side shape =>
    match (assertionSignature side shape).bind args named with
    | .ok a => isAssertedPlainly shape a
    | .error _ => true
  | .checkInvariant =>
    match invariantSignature.bind args named with
    | .ok a => (a.value 1).isCheckpoint
    | .error _ => true
  | _ => true

/-- What a function has to be like if it is called in some way. -/
structure Fits (way : Way) (r : Routine) (args : List Value) (named : Fields) : Prop where
  silent : way ≠ .freely → (Value.routine r).addsEvents = false
  loose : r.reports = false → way.Loose
  reporting : r.reports = true → way.Reporting
  plain : way = .calmly → r ≠ .reportViolation ∧ isGivenPlainly r args named

/-- What exists from the start is impartial if it fits. -/
theorem Impartial.callRoutine {r : Routine} {args : List Value} {named : Fields}
    (fits : Fits way r args named) : Impartial way (callRoutine call r args named) := by
  unfold Act.callRoutine
  dsimp only
  cases told : r.reports with
  | false =>
    have := fits.loose told
    split <;> first | infer_instance | (cases told; done) | skip
    · obtain rfl : way = .freely := Classical.byContradiction fun other => nomatch fits.silent other
      infer_instance
    · obtain rfl : way = .freely := Classical.byContradiction fun other => nomatch fits.silent other
      infer_instance
    · refine .seq inferInstance fun _ => ?_
      split <;> infer_instance
    · refine .seq inferInstance fun _ => ?_
      split
      · refine .seq inferInstance fun _ => ?_
        split <;> infer_instance
      · infer_instance
  | true =>
    have := fits.reporting told
    split <;> first | infer_instance | (cases told; done) | skip
    · next side shape =>
      have : way.Asks (∀ a, (assertionSignature side shape).bind args named = .ok a →
          isAssertedPlainly shape a) := by
        refine ⟨fun calmly a bound => ?_⟩
        have plain := (fits.plain calmly).2
        dsimp only [isGivenPlainly] at plain
        rwa [bound] at plain
      infer_instance
    · refine .afterMatched fun a bound => ?_
      have : way.Asks (a.value 1).isCheckpoint := by
        refine ⟨fun calmly => ?_⟩
        have plain := (fits.plain calmly).2
        dsimp only [isGivenPlainly] at plain
        rwa [show invariantSignature.bind args named = .ok a from bound] at plain
      infer_instance
    · have : way.Loose := ⟨fun calmly => absurd rfl (fits.plain calmly).1⟩
      infer_instance

/-- A call is impartial if those that it makes are, unless it adds events where none may be. -/
theorem Impartial.callValue [loose : way.Loose] [reporting : way.Reporting] (f : Value)
    (args : List Value) (named : Fields) (silent : way ≠ .freely → f.addsEvents = false) :
    Impartial way (callValue call f args named) := by
  unfold Act.callValue
  dsimp only
  split
  · exact .callRoutine ⟨silent, fun _ => loose, fun _ => reporting, fun calmly =>
      absurd calmly loose.ne⟩
  · infer_instance
  · refine .seq inferInstance fun _ => ?_
    split <;> try infer_instance
    refine .seq inferInstance fun _ => ?_
    split <;> infer_instance
  · refine .seq inferInstance fun _ => ?_
    split <;> infer_instance

/-! ## Calls within a bound -/

instance (depth : Nat) (f : Value) (args : List Value) (named : Fields) :
    Impartial .freely (callWithin depth f args named) := by
  induction depth generalizing f args named with
  | zero => exact .exhaust
  | succ depth ih => exact .callValue f args named fun other => absurd rfl other

instance (depth : Nat) (f : Value) (args : List Value) (named : Fields) :
    Impartial .abstaining (callAbstaining depth f args named) := by
  induction depth generalizing f args named with
  | zero => exact .exhaust
  | succ depth ih =>
    unfold callAbstaining
    split
    · exact .exhaust
    · next no => exact .callValue f args named fun _ => Bool.eq_false_iff.2 no

end Act

end Covenant
