import Covenant.Proofs.Contract.Course
import Covenant.Proofs.Contract.Record
import Covenant.Proofs.Machine.Links
import Covenant.Proofs.Session.Launch

/-!
# Modes that are given as values

A mode is given as its member or as its text, and these select its runs (`runContract_of_mode`).
Only texts are read as modes. Every value that is no text selects error-tolerant runs, also if it is
no mode (`runContract_of_other`); and every other text, or member of another enumeration, is refused
(`runContract_of_noMode`). A refusal is the same whatever is to be run, it raises the fault of a
wrong value, and it records nothing (`failMember_apply`). Decorators for methods settle the mode
when they are made, and refuse the same values (`contractMethod_of_noMode`).
-/

namespace Covenant

/-- A text, or a member as its text, that is the text of no mode. -/
def Value.IsNoMode (v : Value) : Prop :=
  ∃ s, v.text? = some s ∧ ∀ mode : Mode, s ≠ mode.text

namespace Act

variable {α β : Type} {call : Caller} {subject old v : Value} {body : Body} {m n : Machine}
  {mode : Mode}

/-! ## Texts of modes -/

/-- Only the member of a mode and its text stand for the text of that mode. -/
theorem text?_eq_some_iff :
    v.text? = some mode.text ↔ v = .member (.mode mode) ∨ v = .text mode.text := by
  constructor
  · intro given
    cases v with
    | text s => exact .inr (congrArg Value.text (Option.some.inj given))
    | member w =>
      have same : w.text = mode.text := Option.some.inj given
      have own : w = .mode mode := by
        revert same
        rcases w with (_ | _) | (_ | _) | (_ | _ | _) | (_ | _) <;> cases mode <;> decide
      exact .inl (congrArg Value.member own)
    | _ => cases given
  · rintro (rfl | rfl) <;> rfl

/-- A value is no mode, or it is a mode, or it is no text. -/
theorem mode_or_other (h : ¬ v.IsNoMode) : (∃ mode : Mode, v.text? = some mode.text) ∨
    v.text? = none := by
  cases text : v.text? with
  | none => exact .inr rfl
  | some s =>
    by_cases known : ∃ mode : Mode, s = mode.text
    · obtain ⟨mode, rfl⟩ := known
      exact .inl ⟨mode, rfl⟩
    · exact absurd ⟨s, text, fun mode same => known ⟨mode, same⟩⟩ h

/-- The texts of the members of the enumeration are those of the modes. -/
theorem ofText?_of_noMode {s : String} (unknown : ∀ mode : Mode, s ≠ mode.text) :
    Enumeration.mode.ofText? s = none := by
  have strict := unknown .strict
  have tolerant := unknown .errorTolerant
  simp [Enumeration.ofText?, Enumeration.members, Member.text, strict.symm, tolerant.symm]

/-! ## What is stored -/

theorem failMember_bind (e : Enumeration) (f : α → Act β) :
    ((failMember call e v : Act α) >>= f) = failMember call e v := by
  unfold failMember
  rw [bind_assoc]
  congr 1
  funext s
  exact fail_bind _ _ f

/-- A mode that is given by its member or by its text is stored as the member. -/
theorem coerceMode_of_mode (given : v.text? = some mode.text) :
    coerceMode call v = pure (.member (.mode mode)) := by
  have member : enumMember call .mode v = pure (.mode mode) := by
    unfold enumMember
    rw [given]
    cases mode <;> rfl
  unfold coerceMode
  rw [given, Option.isSome_some, if_pos rfl, member, pure_bind]

/-- A value that is no text is stored as it is. -/
theorem coerceMode_of_other (other : v.text? = none) : coerceMode call v = pure v := by
  unfold coerceMode
  rw [other]
  rfl

/-- A text of no mode is not stored. -/
theorem coerceMode_of_noMode (h : v.IsNoMode) : coerceMode call v = failMember call .mode v := by
  obtain ⟨s, text, unknown⟩ := h
  have refused : enumMember call .mode v = failMember call .mode v := by
    unfold enumMember
    rw [text]
    dsimp only
    rw [ofText?_of_noMode unknown]
  unfold coerceMode
  rw [text, Option.isSome_some, if_pos rfl, refused, failMember_bind]

/-- Only the member for strict mode is stored as strict mode. -/
theorem modeOf_of_other (other : v.text? = none) : modeOf v = .errorTolerant := by
  unfold modeOf
  cases v with
  | member w => cases other
  | _ => rfl

/-! ## What is run -/

/-- The member of a mode and its text select the runs of that mode. -/
theorem runContract_of_mode (given : v.text? = some mode.text) :
    runContract call subject old body v = runIn call mode subject old body := by
  unfold runContract
  rw [coerceMode_of_mode given, pure_bind]
  cases mode <;> rfl

/-- What is no text selects error-tolerant runs. -/
theorem runContract_of_other (other : v.text? = none) :
    runContract call subject old body v = runErrorTolerant call subject old body := by
  unfold runContract
  rw [coerceMode_of_other other, pure_bind, modeOf_of_other other]
  rfl

/-- A text of no mode is refused. -/
theorem runContract_of_noMode (h : v.IsNoMode) :
    runContract call subject old body v = failMember call .mode v := by
  unfold runContract
  rw [coerceMode_of_noMode h, failMember_bind]

/-! ## What is decorated -/

/-- A decorator is not made with a text of no mode. -/
theorem contractMethod_of_noMode (h : v.IsNoMode) (p : Profile) (snapshot : Value) :
    contractMethod call p snapshot v = failMember call .mode v := by
  unfold contractMethod
  rw [coerceMode_of_noMode h, failMember_bind]

/-- A decorator is made with any other value, and what it stores selects the same runs. -/
theorem contractMethod_of_mode_or_other (h : ¬ v.IsNoMode) (p : Profile) (snapshot : Value) :
    ∃ stored, contractMethod call p snapshot v = allocValue (.decorator snapshot stored p) ∧
      ∀ subject old body,
        runContract call subject old body stored = runContract call subject old body v := by
  unfold contractMethod
  rcases mode_or_other h with ⟨mode, given⟩ | other
  · refine ⟨.member (.mode mode), ?_, fun subject old body => ?_⟩
    · rw [coerceMode_of_mode given, pure_bind]
    · rw [runContract_of_mode given]
      exact runContract_of_mode rfl
  · refine ⟨v, ?_, fun _ _ _ => rfl⟩
    rw [coerceMode_of_other other, pure_bind]

/-! ## Refusals -/

/-- A refusal gives no result. -/
theorem failMember_ne_done (e : Enumeration) (a : α) :
    (failMember call e v : Act α) m ≠ (.done a, n) := by
  intro h
  obtain ⟨s, k, -, failed⟩ := bind_eq_done h
  exact fail_ne_done _ _ _ _ _ failed

/-- The quoted form of a text is its own. -/
theorem quotedText_text (call : Caller) (s : String) (m : Machine) :
    quotedText call (.text s) m = (.done (Text.quoted s), m) :=
  rfl

/-- The quoted form of a member shows its name and its text, unless a script has given its class
another one. -/
theorem quotedText_member {w : Member} (untouched : m.Untouched (special "repr")) :
    quotedText call (.member w) m =
      (.done ("<" ++ w.qualified ++ ": " ++ Text.quoted w.text ++ ">"), m) := by
  have usual : (Known.enumeration w.enumeration).attribute? (special "repr") = none := by
    cases w.enumeration <;> exact Option.isNone_iff_eq_none.1 (by decide +kernel)
  have cls : m.classOf (.member w) = .known (.enumeration w.enumeration) := rfl
  exact bind_of_done (callSpecial?_of_untouched untouched cls usual []) _

/-- A value whose quoted form can be shown is refused with the fault of a wrong value, and nothing
else happens. -/
theorem failMember_apply {s : String} (shown : quotedText call v m = (.done s, m))
    (e : Enumeration) :
    ∃ f n, (failMember call e v : Act α) m = (.raised f, n) ∧ n.faultClassAt f = .valueError ∧
      n = { m with heap := n.heap } := by
  obtain ⟨n, context, failed, rest, cell⟩ :=
    exists_fail α .valueError (s ++ " is not a valid " ++ e.title) m
  exact ⟨_, n, (bind_of_done shown _).trans failed, Machine.faultClassAt_of_cell cell rfl, rest⟩

/-- A text of no mode can be shown. -/
theorem quotedText_of_noMode (call : Caller) (h : v.IsNoMode)
    (untouched : ∀ w, v = .member w → m.Untouched (special "repr")) :
    ∃ s, quotedText call v m = (.done s, m) := by
  obtain ⟨s, text, -⟩ := h
  cases v with
  | text s => exact ⟨_, quotedText_text call s m⟩
  | member w => exact ⟨_, quotedText_member (untouched w rfl)⟩
  | _ => cases text

/-! ## All values -/

/-- What a value comes to as a mode. The member for strict mode and its text select strict runs; the
member for error-tolerant mode, its text, and every value that is no text select error-tolerant
ones. Every other text, or member of another enumeration, is refused by runs and by decorators of
either profile alike, whatever is to be run or decorated: there is no result, and unless a script
has changed how members are shown, the fault of a wrong value is raised and nothing is recorded or
looked up. Decorators are made with all the other values, and what they store selects the same runs.
-/
theorem modes_given_as_values (call : Caller) (v : Value) :
    (v = .member (.mode .strict) ∨ v = .text "strict" → ∀ subject old body,
      runContract call subject old body v = runStrict call subject old body) ∧
    (v = .member (.mode .errorTolerant) ∨ v = .text "error_tolerant" ∨ v.text? = none →
      ∀ subject old body,
        runContract call subject old body v = runErrorTolerant call subject old body) ∧
    (v.IsNoMode →
      (∀ subject old body, runContract call subject old body v = failMember call .mode v) ∧
      (∀ p snapshot, contractMethod call p snapshot v = failMember call .mode v) ∧
      ∀ m, (∀ w n, (failMember call .mode v : Act Value) m ≠ (.done w, n)) ∧
        ((∀ w, v = .member w → m.Untouched (special "repr")) → ∃ e n,
          (failMember call .mode v : Act Value) m = (.raised e, n) ∧
            n.faultClassAt e = .valueError ∧ n = { m with heap := n.heap })) ∧
    (¬ v.IsNoMode → ∀ p snapshot, ∃ stored,
      contractMethod call p snapshot v = allocValue (.decorator snapshot stored p) ∧
        ∀ subject old body,
          runContract call subject old body stored = runContract call subject old body v) := by
  refine ⟨fun strict subject old body => ?_, fun tolerant subject old body => ?_,
    fun refused => ⟨fun _ _ _ => runContract_of_noMode refused,
      fun _ _ => contractMethod_of_noMode refused _ _, fun m =>
      ⟨fun _ _ => failMember_ne_done _ _, fun untouched => ?_⟩⟩,
    fun taken _ _ => contractMethod_of_mode_or_other taken _ _⟩
  · have given : v.text? = some Mode.strict.text := text?_eq_some_iff.2 strict
    exact runContract_of_mode given
  · rcases or_assoc.2 tolerant with tolerant | other
    · have given : v.text? = some Mode.errorTolerant.text := text?_eq_some_iff.2 tolerant
      exact runContract_of_mode given
    · exact runContract_of_other other
  · obtain ⟨s, shown⟩ := quotedText_of_noMode call refused untouched
    exact failMember_apply shown .mode

/-- Nothing as a mode, the text of a mode, and the member of another enumeration. -/
theorem modes_given_as_values_first_account :
    runContract brittle (.ref 3) .null (fun _ _ => rethrow 0) .null =
        runErrorTolerant brittle (.ref 3) .null (fun _ _ => rethrow 0) ∧
      runContract brittle (.ref 3) .null (fun _ _ => rethrow 0) (.text "strict") =
        runStrict brittle (.ref 3) .null (fun _ _ => rethrow 0) ∧
      (∃ e n, runContract brittle (.ref 3) .null (fun _ _ => rethrow 0)
          (.member (.checkpoint .entry)) threeFaults = (.raised e, n) ∧
        n.faultClassAt e = .valueError ∧ n = { threeFaults with heap := n.heap }) ∧
      ∃ stored, contractMethod brittle .unchecked .null (.int 0) =
        allocValue (.decorator .null stored .unchecked) := by
  have refused : (Value.member (.checkpoint .entry)).IsNoMode :=
    ⟨"entry", rfl, by rintro (_ | _) <;> decide⟩
  have taken : ¬ (Value.int 0).IsNoMode := by
    rintro ⟨s, text, -⟩
    cases text
  have untouched : threeFaults.Untouched (special "repr") := fun _ => rfl
  obtain ⟨-, tolerant, -⟩ := modes_given_as_values brittle .null
  obtain ⟨strict, -⟩ := modes_given_as_values brittle (.text "strict")
  obtain ⟨-, -, refuse, -⟩ := modes_given_as_values brittle (.member (.checkpoint .entry))
  obtain ⟨-, -, -, decorate⟩ := modes_given_as_values brittle (.int 0)
  obtain ⟨stored, made, -⟩ := decorate taken .unchecked .null
  obtain ⟨same, -, fails⟩ := refuse refused
  refine ⟨tolerant (.inr (.inr rfl)) _ _ _, strict (.inr rfl) _ _ _, ?_, stored, made⟩
  rw [same]
  exact (fails threeFaults).2 fun _ _ => untouched

/-- Nothing is no mode and the text of none, but a run that is given it is not refused: the
invariant of the subject is checked, the body is called and its result is given. -/
theorem null_is_not_refused_as_mode : ∃ n,
    runContract brittle (.ref 3) .null (fun _ _ => return .int 7) .null threeFaults =
        (.done (.int 7), n) ∧
      n.checks = [checkText "BankAccount" .entry, checkText "BankAccount" .exit] := by
  let entered := (checkAt brittle (.ref 3) .entry threeFaults).2
  let left := (checkAt brittle (.ref 3) .exit entered).2
  have entry : checkAt brittle (.ref 3) .entry threeFaults = (.done (), entered) :=
    Prod.ext (by decide +kernel) rfl
  have exit : checkAt brittle (.ref 3) .exit entered = (.done (), left) :=
    Prod.ext (by decide +kernel) rfl
  refine ⟨left, ?_, by with_unfolding_all decide⟩
  rw [runContract_of_other rfl]
  exact (bind_of_done entry _).trans (bind_of_done exit _)

end Act

end Covenant
