import Covenant.Proofs.Contract.Modes
import Covenant.Script.Call

/-!
# Decorated methods and explicit contracts

A contracted function takes its first argument as the subject and any others as they are given
(`matched_open`), so its call is that of `callContracted` on them (`callValue_contracted`): the
snapshot is taken first, with the arguments of the call, and then the function is run under the
contract of the profile. That is what the explicit contract does, which evaluates the snapshot and
passes it to the runner of the profile with a body that calls the function
(`callRoutine_runner`). The mode is settled when the decorator is made, and selects the same runs
(`contractMethod_of_mode_or_other`).

A named argument `self` is taken for the subject, which is given already, so a call with one is
refused where the explicit contract would pass it on (`contracted_refuses_self`).
-/

namespace Covenant

/-- No named argument has the name of the subject. -/
def Fields.WithoutSelf (named : Fields) : Prop :=
  ∀ p ∈ named, p.1 ≠ "self"

/-- What the decorator of a profile takes: a snapshot and a mode, each of which can be left out. -/
def decoratorSignature (p : Profile) : Signature :=
  .exactly (Act.qualifiedRoutineName (.contractMethod p)) [.omissible "snapshot", .omissible "mode"]

/-- The primitive of a profile that runs a body under a contract in a given mode. -/
def Profile.runner : Profile → Routine
  | .checked => .runContract
  | .unchecked => .runContractUnchecked

namespace Signature

variable {s : Signature} {named all : Fields} {placed rest : List Value}

/-- Named arguments that are none of the parameters are left over, in order, if that is allowed. -/
theorem matchNamed_others (takes : s.takesOthers = true)
    (other : ∀ p ∈ named, s.place? p.1 = none) (a : Arguments) :
    s.matchNamed all named a = .ok { a with others := a.others ++ named } := by
  induction named generalizing a with
  | nil => simp [matchNamed]
  | cons p rest ih =>
    obtain ⟨here, later⟩ := List.forall_mem_cons.1 other
    unfold matchNamed
    rw [here]
    dsimp only
    rw [if_pos takes, ih later, List.append_assoc]
    rfl

/-- Nothing is lacking if there is a value for each parameter. -/
theorem lacking_map_some (s : Signature) (placed rest : List Value) (others : Fields) :
    s.lacking ⟨placed.map some, rest, others⟩ = [] := by
  unfold lacking
  rw [List.map_eq_nil_iff, List.filter_eq_nil_iff]
  rintro ⟨p, v⟩ mem
  obtain ⟨x, -, rfl⟩ := List.mem_map.1 (List.of_mem_zip mem).2
  simp

/-- A value for each parameter, further values and named arguments that are none of the parameters
are matched as they are given, if further ones are allowed. -/
theorem bind_others (takes : s.takesOthers = true) (each : placed.length = s.parameters.length)
    (fit : s.takesRest = true ∨ rest = []) (other : ∀ p ∈ named, s.place? p.1 = none) :
    s.bind (placed ++ rest) named = .ok ⟨placed.map some, rest, named⟩ := by
  have few : (!s.takesRest && decide (s.parameters.length < (placed ++ rest).length)) = false := by
    rcases fit with takes | rfl
    · simp [takes]
    · simp [each]
  unfold bind
  simp only [← each, List.take_left, List.drop_left, List.length_map, Nat.sub_self,
    List.replicate_zero, List.append_nil] at few ⊢
  rw [matchNamed_others takes other]
  change (if _ then _ else _) = _
  rw [few, if_neg Bool.false_ne_true, List.nil_append, lacking_map_some]
  rfl

end Signature

namespace Act

variable {call : Caller} {p : Profile} {m n k : Machine} {w : Ref}
  {f snapshot mode stored self old : Value} {args : List Value} {named : Fields}

/-! ## Calls of contracted functions -/

/-- A text that is given as the name is read in place of the own name. -/
theorem exists_name {own : Act String} (given : Option Value) (done : ∃ s, own m = (.done s, m)) :
    ∃ s, (match given with
      | some (.text name) => pure name
      | _ => own : Act String) m = (.done s, m) := by
  cases given with
  | none => exact done
  | some x =>
    cases x with
    | text _ => exact ⟨_, rfl⟩
    | _ => exact done

/-- The name of a function is only read. -/
theorem functionName_apply (depth : Nat) (v : Value) (m : Machine) :
    ∃ s, functionName depth v m = (.done s, m) := by
  induction depth generalizing v with
  | zero => exact ⟨_, rfl⟩
  | succ depth ih =>
    unfold functionName
    rw [read_bind]
    refine exists_name _ ?_
    cases v with
    | ref r =>
      simp only [load_bind]
      cases m.cell r with
      | contracted f => exact ih f
      | bound _ f => exact ih f
      | _ => exact ⟨_, rfl⟩
    | _ => exact ⟨_, rfl⟩

/-- What takes further named arguments is given each parameter by position, and the rest as it
is. -/
theorem matched_others {s : Signature} {placed rest : List Value} (takes : s.takesOthers = true)
    (each : placed.length = s.parameters.length) (fit : s.takesRest = true ∨ rest = [])
    (other : ∀ q ∈ named, s.place? q.1 = none) (m : Machine) :
    matched s (placed ++ rest) named m = (.done ⟨placed.map some, rest, named⟩, m) := by
  unfold matched
  rw [Signature.bind_others takes each fit other]
  rfl

/-- What takes an object and anything else is given the first argument as the object. -/
theorem matched_open (title : String) (fit : named.WithoutSelf) (self : Value)
    (args : List Value) (m : Machine) :
    matched (openSignature title) (self :: args) named m =
      (.done ⟨[some self], args, named⟩, m) := by
  have other : ∀ q ∈ named, (openSignature title).place? q.1 = none := by
    intro q mem
    have ne : ("self" == q.1) = false := beq_false_of_ne (fit q mem).symm
    simp [Signature.place?, openSignature, Parameter.needed, ne]
  have each : [self].length = (openSignature title).parameters.length := rfl
  exact matched_others rfl each (.inl rfl) other m

/-- A contracted function is called with the first argument as its subject. -/
theorem callValue_contracted (call : Caller) (cell : n.cell w = .contracted f snapshot stored p)
    (fit : named.WithoutSelf) (self : Value) (args : List Value) :
    callValue call (.ref w) (self :: args) named n =
      callContracted call p f snapshot stored self args named n := by
  obtain ⟨title, read⟩ := functionName_apply wrapperDepth (.ref w) n
  unfold callValue
  simp only [load_bind, cell]
  rw [bind_of_done read, bind_of_done (matched_open title fit self args n)]
  rfl

/-! ## Explicit contracts -/

/-- The snapshot that is taken of the arguments of a call; nothing if none is asked for. -/
def takeSnapshot (call : Caller) (snapshot self : Value) (args : List Value) (named : Fields) :
    Act Value :=
  match snapshot with
  | .null => pure .null
  | snapshot => call snapshot (self :: args) named

/-- The body that calls a method with the subject, the old state and the other arguments. -/
def bodyCalling (call : Caller) (f : Value) (args : List Value) (named : Fields) : Body :=
  fun old subject => call f (subject :: old :: args) named

/-- A contract made explicit: the snapshot is taken, and then the body that calls the method is run
under the contract of the profile. -/
def explicitContract (call : Caller) (p : Profile) (f snapshot mode self : Value)
    (args : List Value) (named : Fields) : Act Value := do
  let old ← takeSnapshot call snapshot self args named
  runUnder call p self old (bodyCalling call f args named) mode

/-- The runner of a profile runs a body that is given as a value. -/
theorem callRoutine_runner {body : Value} {b : Body} (call : Caller) (p : Profile)
    (self old mode : Value) (calls : bodyOf call body = b) :
    callRoutine call p.runner [self, old, body, mode] [] = runUnder call p self old b mode := by
  subst calls
  cases p <;> rfl

/-- A stored mode that selects the same runs makes the same contract. -/
theorem explicitContract_of_stored
    (same : ∀ subject old body,
      runContract call subject old body stored = runContract call subject old body mode)
    (p : Profile) (f snapshot self : Value) (args : List Value) (named : Fields) :
    explicitContract call p f snapshot stored self args named =
      explicitContract call p f snapshot mode self args named := by
  unfold explicitContract
  cases p with
  | unchecked => rfl
  | checked =>
    refine congrArg (Act.bind _) (funext fun old => ?_)
    exact same self old _

/-- A contracted function called is its contract made explicit. -/
theorem callContracted_eq (call : Caller) (p : Profile) (f snapshot stored self : Value)
    (args : List Value) (named : Fields) :
    callContracted call p f snapshot stored self args named =
      explicitContract call p f snapshot stored self args named := by
  cases snapshot <;> rfl

/-! ## Decorators -/

/-- Decorating a function with any valid mode, be it with or without a snapshot, makes a function
whose call does what the explicit contract does: the snapshot is taken once, before anything else,
with the subject and the arguments of the call; if that fails, nothing is run; and then the runner
of the profile is called with the subject, the snapshot, and a body that calls the function with
both. Without checks the function itself is called right after the snapshot. -/
theorem decorated_is_explicit {given : List Value} {givenNamed : Fields} {a : Arguments}
    (call : Caller) (p : Profile) (f : Value) (m : Machine)
    (fits : (decoratorSignature p).bind given givenNamed = .ok a)
    (valid : ¬ (modeArgument a.values[1]?.join).IsNoMode) :
    let snapshot := a.value 0
    let mode := modeArgument a.values[1]?.join
    ∃ stored,
      callRoutine call (.contractMethod p) given givenNamed m =
        (.done (.ref m.heap.size), m.push (.decorator snapshot stored p)) ∧
      (∀ n d, n.cell d = .decorator snapshot stored p →
        callValue call (.ref d) [f] [] n =
          (.done (.ref n.heap.size), n.push (.contracted f snapshot stored p))) ∧
      ∀ n w self args, ∀ named : Fields, n.cell w = .contracted f snapshot stored p →
        named.WithoutSelf →
        callValue call (.ref w) (self :: args) named n =
          explicitContract call p f snapshot mode self args named n ∧
        (∀ e k, takeSnapshot call snapshot self args named n = (.raised e, k) →
          callValue call (.ref w) (self :: args) named n = (.raised e, k)) ∧
        ∀ old k, takeSnapshot call snapshot self args named n = (.done old, k) →
          callValue call (.ref w) (self :: args) named n =
            runUnder call p self old (bodyCalling call f args named) mode k ∧
          (p = .unchecked →
            callValue call (.ref w) (self :: args) named n = call f (self :: old :: args) named k) ∧
          ∀ body, bodyOf call body = bodyCalling call f args named →
            callValue call (.ref w) (self :: args) named n =
              callRoutine call p.runner [self, old, body, mode] [] k := by
  intro snapshot mode
  obtain ⟨stored, made, same⟩ := @contractMethod_of_mode_or_other call _ valid p snapshot
  refine ⟨stored, ?_, fun n d cell => ?_, fun n w self args named cell fit => ?_⟩
  · have taken : matched (decoratorSignature p) given givenNamed m = (.done a, m) := by
      unfold matched
      rw [fits]
      rfl
    exact (bind_of_done taken _).trans (congrFun made m)
  · unfold callValue
    simp only [load_bind, cell]
    rfl
  · have called : callValue call (.ref w) (self :: args) named n =
        explicitContract call p f snapshot mode self args named n := by
      rw [callValue_contracted call cell fit, callContracted_eq, explicitContract_of_stored same]
    refine ⟨called, fun e k raised => ?_, fun old k took => ?_⟩
    · rw [called]
      exact bind_of_raised raised _
    · have ran : callValue call (.ref w) (self :: args) named n =
          runUnder call p self old (bodyCalling call f args named) mode k :=
        called.trans (bind_of_done took _)
      refine ⟨ran, ?_, fun body calls => ?_⟩
      · rintro rfl
        exact ran
      · rw [ran, callRoutine_runner call p self old mode calls]

/-- Calls of a snapshot, which gives seven, of a method, which gives the old state, and of a body
that calls the method. Invariants hold. -/
def lending : Caller := fun f args _ m =>
  match f, args with
  | .int 1, _ => (.done (.int 7), m)
  | .int 2, [_, old] => (.done old, m)
  | .int 3, [old, _] => (.done old, m)
  | _, _ => (.done .null, m)

/-- A method that is decorated with a snapshot and a mode, both given by name, gives what the runner
gives, and that is the snapshot. -/
theorem decorated_is_explicit_by_name :
    ∃ stored,
      callRoutine lending (.contractMethod .checked) []
          [("mode", .text "error_tolerant"), ("snapshot", .int 1)] threeFaults =
        (.done (.ref 5), threeFaults.push (.decorator (.int 1) stored .checked)) ∧
      let n := threeFaults.push (.contracted (.int 2) (.int 1) stored .checked)
      callValue lending (.ref 5) [.ref 3] [] n =
        callRoutine lending .runContract [.ref 3, .int 7, .int 3, .text "error_tolerant"] [] n ∧
      (callValue lending (.ref 5) [.ref 3] [] n).1 = .done (.int 7) := by
  have valid : ¬ (Value.text "error_tolerant").IsNoMode := by
    rintro ⟨s, text, unknown⟩
    cases text
    exact unknown .errorTolerant rfl
  have fits : (decoratorSignature .checked).bind []
      [("mode", .text "error_tolerant"), ("snapshot", .int 1)] =
      .ok ⟨[some (.int 1), some (.text "error_tolerant")], [], []⟩ := rfl
  obtain ⟨stored, made, -, calls⟩ :=
    decorated_is_explicit lending .checked (.int 2) threeFaults fits valid
  have fit : Fields.WithoutSelf [] := nofun
  obtain ⟨-, -, ran⟩ := calls (threeFaults.push (.contracted (.int 2) (.int 1) stored .checked)) 5
    (.ref 3) [] [] rfl fit
  obtain ⟨-, -, routine⟩ := ran (.int 7) _ rfl
  have same := routine (.int 3) rfl
  exact ⟨stored, made, same, (congrArg Prod.fst same).trans (by with_unfolding_all rfl)⟩

/-! ## A named argument for the subject -/

/-- A contracted method that gives back its named argument `self`, and an object without an
invariant. -/
def selfish : Machine :=
  { threeFaults with
    heap := #[.scope [] none, .closure "f" ["me", "old"] [.give (.name "self")] 0,
      .contracted (.ref 1) .null (.member (.mode .strict)) .checked, .object (.made 0) []]
    classes := #[⟨"A", "A", none, [], []⟩] }

/-- The call of the contracted method is refused, and the explicit contract gives the argument. -/
theorem contracted_refuses_self :
    (∃ e n, callWithin 2 (.ref 2) [.ref 3] [("self", .int 1)] selfish = (.raised e, n) ∧
      n.faultClassAt e = .typeError) ∧
    (explicitContract (callWithin 1) .checked (.ref 1) .null (.member (.mode .strict)) (.ref 3) []
      [("self", .int 1)] selfish).1 = .done (.int 1) :=
  ⟨⟨_, _, rfl, by decide +kernel⟩, rfl⟩

end Act

end Covenant
