import Covenant.Proofs.Contract.Decoration
import Covenant.Proofs.Object.Snapshot
import Mathlib.Data.List.Sort

/-!
# Which fields a snapshot takes

A snapshot is made of named values or of the entries of a dictionary, all of them or none
(`snapshots_take_unshadowed_fields`). It refuses names that its class has as attributes. They are
reported together, in ascending order (`Snapshot.shadowing_sorted`), and which of them are
reported depends on nothing but the set of them (`Snapshot.shadowing_eq`).

The keys of a dictionary are read as names before any of them is looked for
(`fieldsOfEntries_of_text`), so a key that is no text is what is reported, whatever the others are
(`exists_fieldsOfEntries_of_foreign`).
-/

namespace Covenant

namespace Snapshot

variable {m n : Machine} {names others : List String} {name : String}

/-! ## The names that are reported -/

theorem shadowing_perm (m : Machine) (names : List String) :
    (shadowing m names).Perm (names.filter (isShadowing m)) :=
  List.mergeSort_perm _ _

@[simp] theorem mem_shadowing :
    name ∈ shadowing m names ↔ name ∈ names ∧ isShadowing m name = true := by
  rw [(shadowing_perm m names).mem_iff, List.mem_filter]

theorem shadowing_sorted (m : Machine) (names : List String) :
    (shadowing m names).Pairwise (· ≤ ·) :=
  List.pairwise_mergeSort' (· ≤ ·) _

/-- None is reported twice if none is given twice. -/
theorem shadowing_nodup (distinct : names.Nodup) : (shadowing m names).Nodup :=
  (shadowing_perm m names).nodup_iff.2 (distinct.filter _)

theorem shadowing_ascending (distinct : names.Nodup) : (shadowing m names).Pairwise (· < ·) :=
  (shadowing_sorted m names).imp₂
    (fun _ _ ascend differ => String.not_le.1 fun below => differ (String.le_antisymm ascend below))
    (shadowing_nodup distinct)

/-- The names that shadow attributes decide what is reported, whatever their order and whatever
stands among them. -/
theorem shadowing_eq (distinct : names.Nodup) (distinct' : others.Nodup)
    (same : ∀ name, (name ∈ names ∧ isShadowing m name = true) ↔
      (name ∈ others ∧ isShadowing n name = true)) : shadowing m names = shadowing n others := by
  have perm : (shadowing m names).Perm (shadowing n others) := by
    refine (List.perm_ext_iff_of_nodup (shadowing_nodup distinct) (shadowing_nodup distinct')).2 ?_
    intro name
    rw [mem_shadowing, mem_shadowing, same]
  exact perm.eq_of_pairwise' (shadowing_sorted m names) (shadowing_sorted n others)

theorem shadowing_eq_nil_iff :
    shadowing m names = [] ↔ ∀ name ∈ names, isShadowing m name = false := by
  rw [List.eq_nil_iff_forall_not_mem]
  simp

/-- A fault reports names in a single problem, which is a wrong value, is at no place in particular,
and lists them in the order in which they are given here. -/
structure Lists (f : Fault) (names : List String) : Prop where
  cls : f.cls = .known (.fault .validationError)
  unlinked : f.cause = none ∧ f.context = none
  failure : f.failure = some {
    title := "OldState"
    problems := [{
      kind := "value_error"
      location := []
      message := "Value error, OldState field names shadow model attributes: " ++
        ", ".intercalate names }] }

/-- What comes of making a snapshot of fields: one that holds just these, in a new cell, if none of
their names shadows an attribute; and if some do, a fault that lists them, and no snapshot. -/
structure Taken (m : Machine) (fields : Fields) (ended : Outcome Value × Machine) : Prop where
  accepted : (∃ v k, ended = (.done v, k)) ↔ ∀ p ∈ fields, isShadowing m p.1 = false
  made : (∀ p ∈ fields, isShadowing m p.1 = false) →
    ended = (.done (.ref m.heap.size), m.push (.snapshot fields))
  refused : (∃ p ∈ fields, isShadowing m p.1 = true) → ∃ f,
    ended = (.raised m.heap.size, m.push (.fault f)) ∧ Lists f (shadowing m (fields.map (·.1)))

/-- The entries of a dictionary whose keys are texts, as fields. -/
def textFields (entries : List (Value × Value)) : Fields :=
  entries.filterMap fun p => p.1.text?.map fun name => (name, p.2)

/-- None of the entries is left out, and each keeps its value. -/
theorem textFields_of_text {entries : List (Value × Value)}
    (texts : ∀ p ∈ entries, p.1.text?.isSome = true) :
    (textFields entries).map (fun p => (some p.1, p.2)) =
      entries.map fun p => (p.1.text?, p.2) := by
  induction entries with
  | nil => rfl
  | cons p rest ih =>
    obtain ⟨here, later⟩ := List.forall_mem_cons.1 texts
    obtain ⟨name, read⟩ := Option.isSome_iff_exists.1 here
    have listed : textFields (p :: rest) = (name, p.2) :: textFields rest := by
      simp [textFields, read]
    rw [listed, List.map_cons, List.map_cons, ih later, read]

end Snapshot

namespace Act

open Snapshot

variable {call : Caller} {m : Machine} {fields : Fields} {entries : List (Value × Value)}

/-- Making a snapshot takes all fields or none. -/
theorem newSnapshot_taken (m : Machine) (fields : Fields) :
    Taken m fields (newSnapshot fields m) := by
  have none_iff : shadowing m (fields.map (·.1)) = [] ↔
      ∀ p ∈ fields, isShadowing m p.1 = false := by
    rw [shadowing_eq_nil_iff, List.forall_mem_map]
  have made : (∀ p ∈ fields, isShadowing m p.1 = false) →
      newSnapshot fields m = (.done (.ref m.heap.size), m.push (.snapshot fields)) := by
    intro free
    unfold newSnapshot
    rw [read_bind, none_iff.2 free]
    rfl
  have refused : (∃ p ∈ fields, isShadowing m p.1 = true) → ∃ f,
      newSnapshot fields m = (.raised m.heap.size, m.push (.fault f)) ∧
        Lists f (shadowing m (fields.map (·.1))) := by
    rintro ⟨p, mem, shadows⟩
    have nonempty : shadowing m (fields.map (·.1)) ≠ [] := by
      intro none
      rw [none_iff.1 none p mem] at shadows
      cases shadows
    refine ⟨{ Fault.fresh (.known (.fault .validationError)) [] [] with
      failure := some (shadowFailure (shadowing m (fields.map (·.1)))) }, ?_, rfl, ⟨rfl, rfl⟩, rfl⟩
    unfold newSnapshot
    rw [read_bind]
    cases listed : shadowing m (fields.map (·.1)) with
    | nil => exact absurd listed nonempty
    | cons name rest => rfl
  refine ⟨⟨?_, fun free => ⟨_, _, made free⟩⟩, made, refused⟩
  rintro ⟨v, k, done⟩ p mem
  by_contra shadows
  obtain ⟨f, raised, -⟩ := refused ⟨p, mem, by simpa using shadows⟩
  rw [raised] at done
  cases done

/-! ## Keys of dictionaries -/

/-- Keys that are texts are read as names. -/
theorem fieldsOfEntries_of_text (texts : ∀ p ∈ entries, p.1.text?.isSome = true) :
    fieldsOfEntries entries m = (.done (textFields entries), m) := by
  induction entries with
  | nil => rfl
  | cons p rest ih =>
    obtain ⟨here, later⟩ := List.forall_mem_cons.1 texts
    obtain ⟨name, read⟩ := Option.isSome_iff_exists.1 here
    have listed : textFields (p :: rest) = (name, p.2) :: textFields rest := by
      simp [textFields, read]
    unfold fieldsOfEntries
    rw [read, listed]
    exact bind_of_done (ih later) _

/-- The first key that is no text is reported. -/
theorem exists_fieldsOfEntries_of_foreign (foreign : ∃ p ∈ entries, p.1.text? = none) :
    ∃ p ∈ entries, p.1.text? = none ∧ ∃ k context,
      fieldsOfEntries entries m = (.raised m.heap.size, k) ∧ k = { m with heap := k.heap } ∧
      k.cell m.heap.size = .fault { Fault.fresh (.known (.fault .typeError))
        [.text ("attribute name must be string, not '" ++ m.typeName p.1 ++ "'")] [] with
        context } := by
  induction entries with
  | nil => simp at foreign
  | cons p rest ih =>
    cases read : p.1.text? with
    | none =>
      refine ⟨p, List.mem_cons_self, read, ?_⟩
      obtain ⟨k, context, raised, others, stands⟩ := exists_fail Fields .typeError
        ("attribute name must be string, not '" ++ m.typeName p.1 ++ "'") m
      refine ⟨k, context, ?_, others, stands⟩
      unfold fieldsOfEntries
      rw [read]
      exact raised
    | some name =>
      have later : ∃ q ∈ rest, q.1.text? = none := by
        obtain ⟨q, mem, none⟩ := foreign
        rcases List.mem_cons.1 mem with rfl | mem
        · rw [read] at none
          cases none
        · exact ⟨q, mem, none⟩
      obtain ⟨q, mem, none, k, context, raised, others, stands⟩ := ih later
      refine ⟨q, List.mem_cons_of_mem _ mem, none, k, context, ?_, others, stands⟩
      unfold fieldsOfEntries
      rw [read]
      exact bind_of_raised raised _

/-! ## Dictionaries -/

/-- A dictionary whose keys are texts becomes a snapshot as its entries would by name. -/
theorem validateSnapshot_of_text {r : Ref} (cell : m.cell r = .dict entries)
    (texts : ∀ p ∈ entries, p.1.text?.isSome = true) :
    validateSnapshot (.ref r) m = newSnapshot (textFields entries) m := by
  simp only [validateSnapshot, load_bind, cell]
  exact bind_of_done (fieldsOfEntries_of_text texts) _

/-- A dictionary with a key that is no text becomes none, whatever its other keys are. -/
theorem exists_validateSnapshot_of_foreign {r : Ref} (cell : m.cell r = .dict entries)
    (foreign : ∃ p ∈ entries, p.1.text? = none) :
    ∃ p ∈ entries, p.1.text? = none ∧ ∃ k context,
      validateSnapshot (.ref r) m = (.raised m.heap.size, k) ∧ k = { m with heap := k.heap } ∧
      k.cell m.heap.size = .fault { Fault.fresh (.known (.fault .typeError))
        [.text ("attribute name must be string, not '" ++ m.typeName p.1 ++ "'")] [] with
        context } := by
  obtain ⟨p, mem, none, k, context, raised, others, stands⟩ :=
    exists_fieldsOfEntries_of_foreign (m := m) foreign
  refine ⟨p, mem, none, k, context, ?_, others, stands⟩
  simp only [validateSnapshot, load_bind, cell]
  exact bind_of_raised raised _

/-- A dictionary becomes a snapshot if and only if all its keys are names a snapshot can have. -/
theorem validateSnapshot_done_iff {r : Ref} (cell : m.cell r = .dict entries) :
    (∃ v k, validateSnapshot (.ref r) m = (.done v, k)) ↔
      ∀ p ∈ entries, ∃ name, p.1.text? = some name ∧ isShadowing m name = false := by
  by_cases texts : ∀ p ∈ entries, p.1.text?.isSome = true
  · rw [validateSnapshot_of_text cell texts, (newSnapshot_taken m _).accepted]
    constructor
    · intro free p mem
      obtain ⟨name, read⟩ := Option.isSome_iff_exists.1 (texts p mem)
      exact ⟨name, read, free (name, p.2) (List.mem_filterMap.2 ⟨p, mem, by rw [read]; rfl⟩)⟩
    · intro free q mem
      obtain ⟨p, mem, named⟩ := List.mem_filterMap.1 mem
      obtain ⟨name, read, unshadowed⟩ := free p mem
      rw [read] at named
      cases named
      exact unshadowed
  · constructor
    · rintro ⟨v, k, done⟩
      obtain ⟨p, mem, none⟩ : ∃ p ∈ entries, p.1.text? = none := by simpa using texts
      obtain ⟨-, -, -, k', context, raised, -⟩ :=
        exists_validateSnapshot_of_foreign cell ⟨p, mem, none⟩
      rw [raised] at done
      cases done
    · intro free
      refine absurd (fun p mem => ?_) texts
      obtain ⟨name, read, -⟩ := free p mem
      rw [read]
      rfl

/-! ## Calls -/

/-- What takes a first argument by position and any others by name is given both. -/
theorem matched_placed (title first : String) (self : Value) (named : Fields) (m : Machine) :
    matched ⟨title, [.placed first], false, true⟩ [self] named m =
      (.done ⟨[some self], [], named⟩, m) := by
  let s : Signature := ⟨title, [.placed first], false, true⟩
  have other : ∀ q ∈ named, s.place? q.1 = none := by
    intro q _
    simp [s, Signature.place?, Parameter.placed]
  have each : [self].length = s.parameters.length := rfl
  exact matched_others rfl each (.inr rfl) other m

/-- Calling the class of snapshots makes one of the named arguments. -/
theorem construct_snapshot (call : Caller) (fields : Fields)
    (usual : m.classAttribute? (.known .snapshot) (special "new") = none) :
    construct call (.known .snapshot) [] fields m = newSnapshot fields m := by
  unfold construct
  simp only [read_bind, usual, Machine.knownAbove_known]
  exact bind_of_done (matched_placed _ _ _ _ m) _

/-- The method that validates a value as a snapshot takes just the value. -/
theorem callRoutine_validateSnapshot (call : Caller) (v : Value) (m : Machine) :
    callRoutine call .validateSnapshot [v] [] m = validateSnapshot v m :=
  bind_of_done rfl _

/-- Scripts have not replaced how snapshots are made. Then named arguments, or the entries of a
dictionary whose keys are all texts, become a snapshot that holds just them if and only if none of
their names is an attribute of the class. If some are, a failed validation has a single problem,
whose message lists exactly those, each as often as it is given, in ascending order. That list, and
the message with it, depends only on the set of these names. A key that is no text is reported
instead, and there is no snapshot. A snapshot is taken as it is. -/
theorem snapshots_take_unshadowed_fields (depth : Nat) (m : Machine)
    (usual : m.classAttribute? (.known .snapshot) (special "new") = none) :
    let call := callWithin (depth + 1)
    let validated (v : Value) := call (.routine .validateSnapshot) [v] [] m
    (∀ fields, Taken m fields (call (.cls (.known .snapshot)) [] fields m)) ∧
    (∀ r entries, m.cell r = .dict entries →
      ((∃ v k, validated (.ref r) = (.done v, k)) ↔
        ∀ p ∈ entries, ∃ name, p.1.text? = some name ∧ isShadowing m name = false) ∧
      ((∀ p ∈ entries, p.1.text?.isSome = true) →
        (textFields entries).map (fun p => (some p.1, p.2)) =
          entries.map (fun p => (p.1.text?, p.2)) ∧
        Taken m (textFields entries) (validated (.ref r))) ∧
      ((∃ p ∈ entries, p.1.text? = none) → ∃ p ∈ entries, p.1.text? = none ∧ ∃ k context,
        validated (.ref r) = (.raised m.heap.size, k) ∧ k = { m with heap := k.heap } ∧
        k.cell m.heap.size = .fault { Fault.fresh (.known (.fault .typeError))
          [.text ("attribute name must be string, not '" ++ m.typeName p.1 ++ "'")] [] with
          context })) ∧
    (∀ r fields, m.cell r = .snapshot fields → validated (.ref r) = (.done (.ref r), m)) ∧
    (∀ names, (shadowing m names).Perm (names.filter (isShadowing m)) ∧
      (shadowing m names).Pairwise (· ≤ ·) ∧
      (names.Nodup → (shadowing m names).Pairwise (· < ·) ∧
        ∀ n others, others.Nodup →
          (∀ name, (name ∈ names ∧ isShadowing m name = true) ↔
            (name ∈ others ∧ isShadowing n name = true)) →
          shadowing m names = shadowing n others)) := by
  intro call validated
  have made (fields : Fields) :
      call (.cls (.known .snapshot)) [] fields m = newSnapshot fields m :=
    construct_snapshot (callWithin depth) fields usual
  have validates (v : Value) : validated v = validateSnapshot v m :=
    callRoutine_validateSnapshot (callWithin depth) v m
  refine ⟨fun fields => ?_, fun r entries cell => ⟨?_, fun texts => ⟨?_, ?_⟩, fun foreign => ?_⟩,
    fun r fields cell => ?_, fun names => ⟨shadowing_perm m names, shadowing_sorted m names,
      fun distinct => ⟨shadowing_ascending distinct, fun n others distinct' same => ?_⟩⟩⟩
  · rw [made]
    exact newSnapshot_taken m fields
  · rw [validates]
    exact validateSnapshot_done_iff cell
  · exact textFields_of_text texts
  · rw [validates, validateSnapshot_of_text cell texts]
    exact newSnapshot_taken m _
  · rw [validates]
    exact exists_validateSnapshot_of_foreign cell foreign
  · rw [validates]
    simp only [validateSnapshot, load_bind, cell]
    rfl
  · exact shadowing_eq distinct distinct' same

/-- Of three names two are reserved, and they are reported in order, not as they are given. -/
theorem snapshots_take_unshadowed_fields_two_reserved :
    let m := threeFaults.push (.dict [(.text "copy", .int 1), (.text "balance", .int 2),
      (.text "as_dict", .int 3)])
    m.classAttribute? (.known .snapshot) (special "new") = none ∧
    ∃ f, callWithin 1 (.routine .validateSnapshot) [.ref 5] [] m = (.raised 6, m.push (.fault f)) ∧
      f.failure = some ⟨"OldState", [⟨"value_error", [],
        "Value error, OldState field names shadow model attributes: as_dict, copy"⟩]⟩ := by
  intro m
  have usual : m.classAttribute? (.known .snapshot) (special "new") = none := by decide +kernel
  refine ⟨usual, ?_⟩
  have kept : ["copy", "balance", "as_dict"].filter (isShadowing m) = ["copy", "as_dict"] := by
    decide +kernel
  have perm : (shadowing m ["copy", "balance", "as_dict"]).Perm ["as_dict", "copy"] := by
    refine (shadowing_perm m _).trans ?_
    rw [kept]
    exact .swap _ _ _
  have listed := perm.eq_of_pairwise' (shadowing_sorted m _) (by decide)
  obtain ⟨-, dicts, -⟩ := snapshots_take_unshadowed_fields 0 m usual
  obtain ⟨-, taken⟩ := (dicts 5 _ rfl).2.1 (by decide)
  obtain ⟨f, raised, lists⟩ :=
    taken.refused ⟨("copy", .int 1), List.mem_cons_self, by decide +kernel⟩
  refine ⟨f, raised, lists.failure.trans ?_⟩
  have names : (textFields [(.text "copy", .int 1), (.text "balance", .int 2),
      (.text "as_dict", .int 3)]).map (·.1) = ["copy", "balance", "as_dict"] := rfl
  rw [names, listed]
  rfl

end Act

end Covenant
