import Covenant.Proofs.Span.Call

/-!
# Calls on calm machines

A program can be run under guard: `callGuarded` calls as `callAbstaining` does, and the run also
ends where a call is made on a machine that is not calm or leaves it so, and where something is
reported that need not be what a report of it finds (`Machine.admits`). What is run under guard
reports directly: each event stands right after the warning of the same violation, since on a calm
machine a new violation tells what it holds (`adds_callGuarded`).
-/

namespace Covenant

namespace Machine

variable {m : Machine}

/-! ## Being calm -/

/-- Whether what stands under a name is for certain the same. -/
def isSameField : Option Value → Option Value → Bool
  | none, none => true
  | some (.member x), some (.member y) => x == y
  | _, _ => false

theorem eq_of_isSameField {x? y? : Option Value} (same : isSameField x? y? = true) : x? = y? := by
  unfold isSameField at same
  split at same
  · rfl
  · rw [eq_of_beq same]
  · cases same

/-- Whether what a value has been given does not change what reports find. -/
def isHarmless (m : Machine) : Value × Fields → Bool
  | (.member x, fields) =>
    match fields.get? "_value_" with
    | some (.text s) => s == x.text
    | _ => false
  | (.config _, fields) =>
    match fields.get? "emit_span_events" with
    | none | some (.bool _) => true
    | _ => false
  | (.ref r, fields) => r < m.heap.size || reportNames.all fun name => (fields.get? name).isNone
  | _ => true

/-- Whether scripts have left alone what the report of a new violation asks for. -/
def isCalm (m : Machine) : Bool :=
  (m.patches.all fun (k, fields) =>
    reportNames.all fun name => isSameField (fields.get? name) (k.fields.get? name)) &&
  m.attached.all m.isHarmless

theorem calm_of_isCalm (calm : m.isCalm = true) : m.Calm := by
  unfold isCalm at calm
  obtain ⟨patched, given⟩ := Bool.and_eq_true_iff.1 calm
  rw [List.all_eq_true] at patched given
  refine ⟨⟨fun name mem k => ?_, fun p mem x is => ?_, fun p mem i is v has => ?_⟩,
    fun p mem r is le name asked => ?_⟩
  · unfold classFields
    dsimp only
    cases found : m.patches.find? (·.1 == k) with
    | none => rfl
    | some p =>
      have same : (p.1 == k) = true := by simpa using List.find?_some found
      obtain rfl : p.1 = k := eq_of_beq same
      have kept := patched p (List.mem_of_find?_eq_some found)
      exact eq_of_isSameField (List.all_eq_true.1 kept name mem)
  · have harmless := given p mem
    obtain ⟨v, fields⟩ := p
    obtain rfl : v = .member x := is
    dsimp only [isHarmless] at harmless
    split at harmless
    · next s has => rw [has, eq_of_beq harmless]
    · cases harmless
  · have harmless := given p mem
    obtain ⟨w, fields⟩ := p
    obtain rfl : w = .config i := is
    dsimp only [isHarmless] at harmless
    rw [has] at harmless
    split at harmless
    · next none => cases none
    · next b here => exact ⟨b, Option.some.inj here⟩
    · cases harmless
  · have harmless := given p mem
    obtain ⟨v, fields⟩ := p
    obtain rfl : v = .ref r := is
    dsimp only [isHarmless] at harmless
    rcases (Bool.or_eq_true_iff).1 harmless with lt | none
    · exact absurd le (Nat.not_le.2 (of_decide_eq_true lt))
    · exact Option.isNone_iff_eq_none.1 (List.all_eq_true.1 none name asked)

end Machine

/-! ## What may be called -/

/-- Whether a fault is a violation of an initial class that holds what is reported of it. -/
def Fault.holdsReport (f : Fault) : Bool :=
  (f.fields.get? "kind").isNone && (f.fields.get? "message").any (·.isPlainText) &&
  match f.cls with
  | .known (.fault .preconditionError) | .known (.fault .postconditionError) => true
  | .known (.fault .invariantError) =>
    (f.fields.get? "subject_type").any (·.isPlainText) &&
      (f.fields.get? "checkpoint").any (·.isCheckpoint)
  | _ => false

namespace Machine

/-- Whether a value is a violation that holds what is reported of it and has been given nothing
instead. -/
def holdsReport (m : Machine) : Value → Bool
  | .ref e =>
    match m.cell e with
    | .fault f =>
      f.holdsReport && reportNames.all fun name => ((m.attachedTo (.ref e)).get? name).isNone
    | _ => false
  | _ => false

/-- Whether a call adds no events and reports nothing but what a report of it finds. -/
def admits (m : Machine) (f : Value) (args : List Value) (named : Fields) : Bool :=
  match f with
  | .routine .addSpanEvent | .routine .emitViolation => false
  | .routine .reportViolation =>
    match Act.reportSignature.bind args named with
    | .ok a => m.holdsReport (a.value 0)
    | .error _ => true
  | .routine r => Act.isGivenPlainly r args named
  | _ => true

end Machine

namespace Act

variable {call : Caller} {m : Machine}

theorem exists_fault_of_holdsReport {v : Value} (holds : m.holdsReport v = true) :
    ∃ e f, v = .ref e ∧ m.cell e = .fault f ∧ f.holdsReport = true ∧
      ∀ name ∈ reportNames, (m.attachedTo (.ref e)).get? name = none := by
  unfold Machine.holdsReport at holds
  split at holds
  · next e =>
    split at holds
    · next f cell =>
      obtain ⟨own, none⟩ := Bool.and_eq_true_iff.1 holds
      exact ⟨e, f, rfl, cell, own, fun name mem =>
        Option.isNone_iff_eq_none.1 (List.all_eq_true.1 none name mem)⟩
    · cases holds
  · cases holds

/-- Such a violation tells it. -/
theorem exists_legible_of_holdsReport {f : Fault} (call : Caller) (holds : f.holdsReport = true) :
    ∃ kind message own, Legible call f kind (.text message) own := by
  unfold Fault.holdsReport at holds
  obtain ⟨first, rest⟩ := Bool.and_eq_true_iff.1 holds
  obtain ⟨unset, plain⟩ := Bool.and_eq_true_iff.1 first
  have kind : f.fields.get? "kind" = none := Option.isNone_iff_eq_none.1 unset
  obtain ⟨x, message, isPlain⟩ := (Option.any_eq_true _ _).1 plain
  obtain ⟨s, rfl⟩ := Value.exists_of_isPlainText isPlain
  split at rest
  · next cls => exact ⟨_, _, _, legible_of_side call .pre cls kind message⟩
  · next cls => exact ⟨_, _, _, legible_of_side call .post cls kind message⟩
  · next cls =>
    obtain ⟨whose, place⟩ := Bool.and_eq_true_iff.1 rest
    obtain ⟨y, subject, isText⟩ := (Option.any_eq_true _ _).1 whose
    obtain ⟨name, rfl⟩ := Value.exists_of_isPlainText isText
    obtain ⟨z, checkpoint, isPlace⟩ := (Option.any_eq_true _ _).1 place
    obtain ⟨c, rfl⟩ := Value.exists_of_isCheckpoint isPlace
    exact ⟨_, _, _, legible_of_invariant call cls kind message subject checkpoint⟩
  · cases rest

theorem Adds.guarded {α : Type} {x : Act α} (calmly : Adds .calmly x m) : Adds .guarded x m := by
  obtain ⟨new, added, good, -⟩ := calmly
  exact ⟨new, added, good, fun _ => Way.Loose.holds _⟩

/-- The report of a violation that holds what is reported is direct. -/
theorem adds_callRoutine_report {args : List Value} {named : Fields} (calm : m.Calm)
    (admitted : m.admits (.routine .reportViolation) args named = true) :
    Adds .calmly (callRoutine call .reportViolation args named) m := by
  change Adds .calmly (do
    let a ← matched reportSignature args named
    reportViolation call (a.value 0)
    return Value.null) m
  dsimp only [Machine.admits] at admitted
  unfold matched
  cases bound : reportSignature.bind args named with
  | error e =>
    have fails : Impartial .calmly (fail .typeError (reportSignature.explain e) : Act Value) :=
      inferInstance
    dsimp only
    rw [fail_bind]
    exact fails.adds m fun _ => calm
  | ok a =>
    rw [bound] at admitted
    obtain ⟨e, f, same, cell, holds, own⟩ := exists_fault_of_holdsReport admitted
    obtain ⟨kind, message, own', legible⟩ := exists_legible_of_holdsReport call holds
    have reported := adds_reportViolation legible calm ⟨calm.toHonest, own⟩ cell
    dsimp only
    rw [pure_bind, same]
    exact reported.bind fun _ k _ => (.pure Value.null : Impartial .calmly _).adds k

section

variable [∀ f args named, Impartial .guarded (call f args named)]
  [∀ f args named, Impartial .calmly (call f args named)]

/-- What exists from the start reports directly where that is admitted. -/
theorem adds_callRoutine {r : Routine} {args : List Value} {named : Fields} (calm : m.Calm)
    (admitted : m.admits (.routine r) args named = true) :
    Adds .guarded (callRoutine call r args named) m := by
  have silent : (Value.routine r).addsEvents = false := by
    cases r <;> first | rfl | cases admitted
  cases told : r.reports with
  | false =>
    have fits : Fits .guarded r args named :=
      ⟨fun _ => silent, fun _ => inferInstance,
        fun other => Bool.noConfusion (told.symm.trans other),
        fun calmly => absurd calmly Way.Loose.ne⟩
    exact (Impartial.callRoutine fits : Impartial .guarded _).adds m (Way.Loose.holds m)
  | true =>
    by_cases report : r = .reportViolation
    · subst report
      exact (adds_callRoutine_report calm admitted).guarded
    · have plain : isGivenPlainly r args named = true := by
        cases r <;> first | exact admitted | exact absurd rfl report | cases admitted
      have fits : Fits .calmly r args named :=
        ⟨fun _ => silent, fun other => Bool.noConfusion (told.symm.trans other),
          fun _ => inferInstance, fun _ => ⟨report, plain⟩⟩
      exact ((Impartial.callRoutine fits : Impartial .calmly _).adds m fun _ => calm).guarded

/-- So does a call. -/
theorem adds_callValue {f : Value} {args : List Value} {named : Fields} (calm : m.Calm)
    (admitted : m.admits f args named = true) : Adds .guarded (callValue call f args named) m := by
  have loosely {x : Act Value} (impartial : Impartial .guarded x) : Adds .guarded x m :=
    impartial.adds m (Way.Loose.holds m)
  cases f with
  | routine r => exact adds_callRoutine calm admitted
  | cls c => exact loosely (inferInstance : Impartial .guarded (construct call c args named))
  | ref r =>
    unfold callValue Adds
    dsimp only
    rw [load_bind]
    cases m.cell r with
    | contracted g snapshot mode p =>
      -- what is contracted checks, and calls on the way leave the machine calm
      have checks : Impartial .calmly (do
          let a ← matched (openSignature (← functionName wrapperDepth (.ref r))) args named
          callContracted call p g snapshot mode (a.value 0) a.rest a.others) := inferInstance
      exact (checks.adds m fun _ => calm).guarded
    | bound self g =>
      refine loosely ?_
      split <;> try first | infer_instance | contradiction
      refine .seq inferInstance fun found => ?_
      split <;> infer_instance
    | _ =>
      refine loosely ?_
      dsimp only
      first
      | infer_instance
      | refine .seq inferInstance fun found => ?_
        split <;> infer_instance
  | _ =>
    unfold callValue
    refine loosely (.seq inferInstance fun found => ?_)
    split <;> infer_instance

end

/-! ## Running under guard -/

/-- An action that ends the run if the machine is not calm afterwards. -/
def keepingCalm {α : Type} (x : Act α) : Act α := fun m =>
  match x m with
  | (o, n) => if n.isCalm then (o, n) else (.exhausted, n)

/-- Calling with calls nested at most `depth` deep, each made on a calm machine and leaving it so,
where nothing is done that is not admitted; a call for which that is not so ends the run. -/
def callGuarded : (depth : Nat) → Caller
  | 0 => fun _ _ _ => exhaust
  | depth + 1 => fun f args named => do
    if ← read fun m => m.isCalm && m.admits f args named then
      keepingCalm (callValue (callGuarded depth) f args named)
    else exhaust

instance {α : Type} {x : Act α} [free : Impartial .freely x] :
    Impartial .freely (keepingCalm x) where
  indifferent m s quiet := by
    unfold keepingCalm
    rw [free.indifferent m s quiet]
    dsimp only
    rw [show ((x m).2.under s).isCalm = (x m).2.isCalm from rfl]
    split <;> rfl
  adds m holds := by
    obtain ⟨new, added, -⟩ := free.adds m holds
    refine ⟨new, ?_, trivial, fun _ => Way.Loose.holds _⟩
    rw [← added]
    unfold keepingCalm
    dsimp only
    split <;> rfl

/-- Then the machine is calm unless the run has ended. -/
theorem adds_keepingCalm {α : Type} {x : Act α} (guarded : Adds .guarded x m) :
    Adds .calmly (keepingCalm x) m := by
  obtain ⟨new, added, good, -⟩ := guarded
  unfold keepingCalm Adds
  rcases x m with ⟨o, n⟩
  dsimp only
  split
  · next calm => exact ⟨new, added, good, fun _ _ => Machine.calm_of_isCalm calm⟩
  · exact ⟨new, added, good, fun no => absurd rfl no⟩

instance (depth : Nat) (f : Value) (args : List Value) (named : Fields) :
    Impartial .freely (callGuarded depth f args named) := by
  induction depth generalizing f args named with
  | zero => exact .exhaust
  | succ depth ih =>
    have called : Impartial .freely (callValue (callGuarded depth) f args named) :=
      .callValue f args named fun other => absurd rfl other
    exact .seq (.read fun _ _ => rfl) inferInstance

/-- What is called under guard reports directly and leaves a calm machine, whatever the machine was
like before. -/
theorem adds_callGuarded (depth : Nat) (f : Value) (args : List Value) (named : Fields)
    (m : Machine) : Adds .calmly (callGuarded depth f args named) m := by
  induction depth generalizing f args named m with
  | zero => exact ⟨[], rfl, .nil, fun no => absurd rfl no⟩
  | succ depth ih =>
    have indifferent (f : Value) (args : List Value) (named : Fields) :
        Indifferent (callGuarded depth f args named) :=
      (inferInstance : Impartial .freely _).indifferent
    have calmly (f : Value) (args : List Value) (named : Fields) :
        Impartial .calmly (callGuarded depth f args named) :=
      ⟨indifferent f args named, fun m _ => ih f args named m⟩
    have guarded (f : Value) (args : List Value) (named : Fields) :
        Impartial .guarded (callGuarded depth f args named) :=
      ⟨indifferent f args named, fun m _ => (ih f args named m).guarded⟩
    unfold callGuarded Adds
    rw [read_bind]
    cases fits : m.isCalm && m.admits f args named with
    | true =>
      obtain ⟨calm, admitted⟩ := Bool.and_eq_true_iff.1 fits
      exact adds_keepingCalm (adds_callValue (Machine.calm_of_isCalm calm) admitted)
    | false => exact ⟨[], rfl, .nil, fun no => absurd rfl no⟩

instance (depth : Nat) (f : Value) (args : List Value) (named : Fields) :
    Impartial .guarded (callGuarded depth f args named) where
  indifferent := (inferInstance : Impartial .freely _).indifferent
  adds m _ := (adds_callGuarded depth f args named m).guarded

end Act

end Covenant
