import Covenant.Contract.Violation
import Covenant.Proofs.Object.Attribute

/-!
# What a report can rely on

A report asks a violation for its kind and its message, a member of an enumeration for its text, and
the settings in effect whether events are wished. `Machine.Intact` says that scripts have left these
answers alone; whatever else they have changed, a report does not notice. The report of one fault
can do with less, that its own answers are left alone (`Machine.Tells`).

The settings in effect are those that were put into effect last. Where there are none, they are
built from the surroundings and put into effect (`Machine.settled?`), and that can fail
(`exists_getConfig_of_unsettled`).
-/

namespace Covenant

/-- Only floating-point numbers can be the same without being equal. -/
theorem Value.eq_of_same {v w : Value} (same : v.same w = true)
    (exact : ∀ x mark, v ≠ .float x mark) : v = w := by
  cases v <;> cases w <;> simp_all [Value.same]

/-- The names under which a report looks things up. -/
def reportNames : List String :=
  [special "getattribute", "kind", "message", "value", "subject_type", "checkpoint",
    "emit_span_events"]

namespace Machine

variable {m n : Machine} {i : Nat} {e : Ref} {f : Fault} {name : String} {v : Value}

/-- Scripts have left alone what reports ask for: what the initial classes have under those names,
the members of enumerations and the faults; and whether events are wished is always true or
false. -/
structure Intact (m : Machine) : Prop where
  names : ∀ name ∈ reportNames, m.Untouched name
  members : ∀ p ∈ m.attached, ∀ x, p.1 ≠ .member x
  faults : ∀ p ∈ m.attached, ∀ r, p.1 = .ref r → r < m.heap.size ∧ ∀ f, m.cell r ≠ .fault f
  flags : ∀ p ∈ m.attached, ∀ i, p.1 = .config i → i < m.configs.size ∧
    ∀ x, p.2.get? "emit_span_events" = some x → ∃ b, x = .bool b

/-- What has been given no attributes is not among the values with given attributes. -/
theorem find?_attached_eq_none (none : ∀ p ∈ m.attached, p.1 ≠ v)
    (exact : ∀ x mark, v ≠ .float x mark) : m.attached.find? (v.same ·.1) = .none :=
  List.find?_eq_none.2 fun p mem same => none p mem (Value.eq_of_same same exact).symm

/-- What a value has been given stands beside it among the given attributes. -/
theorem exists_of_find?_attached {p : Value × Fields}
    (found : m.attached.find? (v.same ·.1) = some p) (exact : ∀ x mark, v ≠ .float x mark) :
    p ∈ m.attached ∧ p.1 = v := by
  have same : v.same p.1 = true := by simpa using List.find?_some found
  exact ⟨List.mem_of_find?_eq_some found, (Value.eq_of_same same exact).symm⟩

/-- The initial classes, the members of enumerations and the settings answer a report as they are
to: whatever has been given to a member, its text is the same, and whether events are wished is true
or false. -/
structure Honest (m : Machine) : Prop where
  names : ∀ name ∈ reportNames, m.Untouched name
  members : ∀ p ∈ m.attached, ∀ x, p.1 = .member x → p.2.get? "_value_" = some (.text x.text)
  flags : ∀ p ∈ m.attached, ∀ i, p.1 = .config i →
    ∀ x, p.2.get? "emit_span_events" = some x → ∃ b, x = .bool b

/-- So does the fault at an address: it has been given nothing that a report asks for. -/
structure Tells (m : Machine) (e : Ref) : Prop where
  honest : m.Honest
  own : ∀ name ∈ reportNames, (m.attachedTo (.ref e)).get? name = none

/-- More cells, settings and records do no harm. -/
theorem Honest.extend (honest : m.Honest) (patches : n.patches = m.patches)
    (attached : n.attached = m.attached) : n.Honest where
  names name mem := (honest.names name mem).of_patches patches
  members := attached ▸ honest.members
  flags := attached ▸ honest.flags

theorem Tells.extend (tells : m.Tells e) (patches : n.patches = m.patches)
    (attached : n.attached = m.attached) : n.Tells e := by
  refine ⟨tells.honest.extend patches attached, fun name mem => ?_⟩
  unfold attachedTo
  rw [attached]
  exact tells.own name mem

namespace Intact

/-- A fault has the fields in its cell. -/
theorem attachedTo_fault (intact : m.Intact) (cell : m.cell e = .fault f) :
    m.attachedTo (.ref e) = [] := by
  have none : ∀ p ∈ m.attached, p.1 ≠ .ref e :=
    fun p mem same => (intact.faults p mem e same).2 f cell
  simp [attachedTo, find?_attached_eq_none none (by simp)]

/-- An intact machine answers a report as it is to. -/
theorem honest (intact : m.Intact) : m.Honest where
  names := intact.names
  members p mem x same := absurd same (intact.members p mem x)
  flags p mem i same := (intact.flags p mem i same).2

theorem tells (intact : m.Intact) (cell : m.cell e = .fault f) : m.Tells e := by
  refine ⟨intact.honest, fun name _ => ?_⟩
  rw [intact.attachedTo_fault cell]
  rfl

/-- More cells, settings and records, or another fault being handled, do no harm. -/
theorem extend (intact : m.Intact) (patches : n.patches = m.patches)
    (attached : n.attached = m.attached) (size : m.heap.size ≤ n.heap.size)
    (cell : ∀ r < m.heap.size, n.cell r = m.cell r) (configs : m.configs.size ≤ n.configs.size) :
    n.Intact where
  names name mem := (intact.names name mem).of_patches patches
  members := attached ▸ intact.members
  faults := by
    rw [attached]
    intro p mem r same
    obtain ⟨lt, other⟩ := intact.faults p mem r same
    exact ⟨Nat.lt_of_lt_of_le lt size, by rw [cell r lt]; exact other⟩
  flags := by
    rw [attached]
    intro p mem i same
    obtain ⟨lt, flag⟩ := intact.flags p mem i same
    exact ⟨Nat.lt_of_lt_of_le lt configs, flag⟩

theorem push (intact : m.Intact) (c : Cell) : (m.push c).Intact :=
  intact.extend rfl rfl (by simp) (fun _ lt => cell_push_of_lt lt) (Nat.le_refl _)

/-- A new fault tells what it holds. -/
theorem tells_push (intact : m.Intact) (f : Fault) : (m.push (.fault f)).Tells m.heap.size :=
  (intact.push _).tells (cell_push_size m _)

end Intact

/-- A plain machine is intact. -/
theorem Plain.intact (plain : m.Plain) : m.Intact := by
  have none (p : Value × Fields) : p ∉ m.attached := by simp [plain.attached]
  exact ⟨fun name _ => plain.untouched name, fun p mem => absurd mem (none p),
    fun p mem => absurd mem (none p), fun p mem => absurd mem (none p)⟩

/-! ## The settings in effect -/

/-- The settings in effect, with the machine on which they are. Where there are none, those that the
surroundings give are put into effect; there may be none of these either. -/
def settled? (m : Machine) : Option (Nat × Machine) :=
  match m.current with
  | some i => some (i, m)
  | none =>
    match (Config.sourcesIn m.surroundings []).build with
    | .ok s =>
      let i := m.configs.size
      some (i, { m with configs := m.configs.push s, current := some i })
    | .error _ => none

/-- Whether settings ask for events, as set by hand or as they were built. -/
def asksForEvents (m : Machine) (i : Nat) : Bool :=
  match (m.attachedTo (.config i)).get? "emit_span_events" with
  | some x => x.same (.bool true)
  | none => (m.configs.getD i ⟨"auto", true, "warning"⟩).emitSpanEvents

/-- Putting settings into effect changes nothing but the settings. -/
theorem rest_of_settled (settled : m.settled? = some (i, n)) :
    n = { m with configs := n.configs, current := n.current } ∧
      m.configs.size ≤ n.configs.size := by
  unfold settled? at settled
  split at settled
  · cases settled
    exact ⟨rfl, Nat.le_refl _⟩
  · split at settled
    · cases settled
      exact ⟨rfl, by simp⟩
    · cases settled

theorem cell_of_settled (settled : m.settled? = some (i, n)) (r : Ref) : n.cell r = m.cell r := by
  rw [(rest_of_settled settled).1]
  rfl

/-- A fault tells what it did when settings are put into effect. -/
theorem Tells.settled (tells : m.Tells e) (settled : m.settled? = some (i, n)) : n.Tells e := by
  have rest := (rest_of_settled settled).1
  exact tells.extend (by rw [rest]) (by rw [rest])

/-- What has been recorded does not matter to settings. -/
theorem settled?_trace (m : Machine) (trace : List Entry) :
    settled? { m with trace } = m.settled?.map fun (i, n) => (i, { n with trace }) := by
  unfold settled?
  dsimp only
  split
  · rfl
  · split <;> rfl

/-- Neither does a new cell. -/
theorem settled?_push (m : Machine) (c : Cell) :
    (m.push c).settled? = m.settled?.map fun (i, n) => (i, n.push c) := by
  unfold settled? push
  dsimp only
  split
  · rfl
  · split <;> rfl

end Machine

namespace Act

variable {call : Caller} {m n : Machine} {i : Nat}

/-- Asking for the settings in effect puts some into effect where there are none. -/
theorem getConfig_of_settled (settled : m.settled? = some (i, n)) :
    getConfig [] m = (.done i, n) := by
  unfold Machine.settled? at settled
  unfold getConfig
  rw [read_bind]
  split at settled
  · next current =>
    cases settled
    rw [current]
    rfl
  · next current =>
    rw [current]
    unfold buildSettings
    simp only [bind_assoc, read_bind]
    split at settled
    · next built =>
      cases settled
      rw [built]
      rfl
    · cases settled

/-- Where none can be built, a new fault says so, and nothing else has happened. What it says
depends on the surroundings alone. -/
theorem exists_failure_of_unsettled (surroundings : Surroundings) :
    ∃ failure : Fault, failure.cls = .known (.fault .validationError) ∧
      ∀ m : Machine, m.surroundings = surroundings → m.settled? = none →
        getConfig [] m = (.raised m.heap.size, m.push (.fault failure)) := by
  cases built : (Config.sourcesIn surroundings []).build with
  | ok s =>
    refine ⟨.fresh (.known (.fault .validationError)) [] [], rfl, fun m same unsettled => ?_⟩
    unfold Machine.settled? at unsettled
    rw [same, built] at unsettled
    split at unsettled <;> cases unsettled
  | error failure =>
    refine ⟨{ Fault.fresh (.known (.fault .validationError)) [] [] with failure := some failure },
      rfl, fun m same unsettled => ?_⟩
    unfold Machine.settled? at unsettled
    unfold getConfig
    rw [read_bind]
    split at unsettled
    · cases unsettled
    · next current =>
      rw [current]
      unfold buildSettings
      simp only [bind_assoc, read_bind]
      rw [same, built]
      rfl

theorem exists_getConfig_of_unsettled (unsettled : m.settled? = none) :
    ∃ failure, getConfig [] m = (.raised m.heap.size, m.push (.fault failure)) ∧
      failure.cls = .known (.fault .validationError) := by
  obtain ⟨failure, cls, fails⟩ := exists_failure_of_unsettled m.surroundings
  exact ⟨failure, fails m rfl unsettled, cls⟩

/-- Settings tell whether they ask for events. -/
theorem getAttribute_flag (honest : m.Honest) (i : Nat) :
    getAttribute call (.config i) "emit_span_events" m =
      (.done (.bool (m.asksForEvents i)), m) := by
  have cls : m.classOf (.config i) = .known .config := rfl
  have usual := honest.names (special "getattribute") (by simp [reportNames])
  have untouched := honest.names "emit_span_events" (by simp [reportNames])
  apply getAttribute_of_done
  rw [lookUpByClass_of_untouched usual cls rfl]
  refine lookUpInObject_of_none untouched cls rfl ?_
  have built : (settingFields m i).get? "emit_span_events" =
      some (((m.attachedTo (.config i)).get? "emit_span_events").getD
        (.bool (m.configs.getD i ⟨"auto", true, "warning"⟩).emitSpanEvents)) := rfl
  unfold ownField? ownFields Machine.asksForEvents
  dsimp only
  rw [read_bind]
  cases given : (m.attachedTo (.config i)).get? "emit_span_events" with
  | none =>
    rw [given] at built
    dsimp only
    rw [read_bind, built]
    rfl
  | some x =>
    obtain ⟨b, rfl⟩ : ∃ b, x = .bool b := by
      unfold Machine.attachedTo at given
      cases there : m.attached.find? ((Value.config i).same ·.1) with
      | none =>
        rw [there] at given
        cases given
      | some p =>
        rw [there] at given
        obtain ⟨mem, same⟩ := Machine.exists_of_find?_attached there nofun
        exact honest.flags p mem i same x given
    cases b <;> rfl

end Act

end Covenant
