import Covenant.Proofs.Config.Sources

/-!
# Which names of a settings file matter

A settings file is read binding by binding (`read_eq`). A value may refer to names, and takes in
what was bound to them before, or what the environment has for them (`Atom.resolve`). So if the
names that are of interest take in all those that their values refer to, other names can be left out
of the file and of the environment before it is read (`among_foldl_add`), and whatever these are,
the names of interest are bound to the same (`among_foldl_add_eq`).
-/

namespace Covenant.Config.EnvFile

open Covenant.Text

variable {keep : String → Bool} {environment environment' : List (String × String)}
  {bindings written : List Binding} {b : Binding} {name : String} {α : Type}

/-- The bindings as they are written in a file. -/
def writtenIn (text : String) : List Binding :=
  let s := normalizeLines (dropMark text.toList)
  bindingsOf (s.length + 1) s

/-- A value with the names inside it replaced. -/
def resolved (environment : List (String × String)) (bindings : List Binding) (value : String) :
    String :=
  String.ofList ((atomsOf (value.length + 1) value.toList).flatMap
    (Atom.resolve bindings environment))

/-- Bindings with one more as it is written. -/
def add (environment : List (String × String)) (bindings : List Binding) (b : Binding) :
    List Binding :=
  insertBinding bindings (b.1, b.2.map (resolved environment bindings))

theorem read_eq (environment : List (String × String)) (text : String) :
    read environment text = (writtenIn text).foldl (add environment) [] :=
  rfl

/-- The names that a value refers to. -/
def references (value : String) : List String :=
  (atomsOf (value.length + 1) value.toList).filterMap fun
    | .variable name _ => some name
    | .plain _ => none

/-- The entries whose names are of interest. -/
def among (keep : String → Bool) (entries : List (String × α)) : List (String × α) :=
  entries.filter fun p => keep p.1

/-- The values of the names of interest refer to names of interest only. -/
def Closed (keep : String → Bool) (written : List Binding) : Prop :=
  ∀ b ∈ written, keep b.1 = true → ∀ value, b.2 = some value →
    ∀ name ∈ references value, keep name = true

theorem find?_among (kept : keep name = true) (entries : List (String × α)) :
    (among keep entries).find? (·.1 == name) = entries.find? (·.1 == name) := by
  unfold among
  rw [List.find?_filter]
  congr 1
  funext p
  by_cases same : p.1 = name
  · simp [same, kept]
  · simp [same]

/-- A part of a value that refers to a name of interest needs no other names. -/
theorem resolve_among {a : Atom} (kept : ∀ name default, a = .variable name default →
      keep name = true) (environment : List (String × String)) (bindings : List Binding) :
    a.resolve (among keep bindings) (among keep environment) = a.resolve bindings environment := by
  cases a with
  | plain s => rfl
  | «variable» name default =>
    unfold Atom.resolve bindingOf?
    dsimp only
    rw [find?_among (kept name default rfl), find?_among (kept name default rfl)]

theorem resolved_among {value : String} (kept : ∀ name ∈ references value, keep name = true)
    (environment : List (String × String)) (bindings : List Binding) :
    resolved (among keep environment) (among keep bindings) value =
      resolved environment bindings value := by
  have parts : ∀ a ∈ atomsOf (value.length + 1) value.toList,
      a.resolve (among keep bindings) (among keep environment) =
        a.resolve bindings environment := by
    refine fun a mem => resolve_among (fun name default same => ?_) _ _
    exact kept name (List.mem_filterMap.2 ⟨a, mem, by rw [same]⟩)
  unfold resolved
  rw [List.flatMap_def, List.flatMap_def, List.map_congr_left parts]

/-- Overwriting a binding in place keeps the names. -/
theorem among_overwrite (b : Binding) (bindings : List Binding) :
    among keep (bindings.map fun p => if p.1 == b.1 then b else p) =
      (among keep bindings).map fun p => if p.1 == b.1 then b else p := by
  have named (p : Binding) : keep (if p.1 == b.1 then b else p).1 = keep p.1 := by
    split
    · next same => rw [eq_of_beq same]
    · rfl
  unfold among
  rw [List.filter_map]
  congr 2
  funext p
  exact named p

/-- A binding of interest is inserted among the others of interest as among all. -/
theorem among_insertBinding (kept : keep b.1 = true) (bindings : List Binding) :
    among keep (insertBinding bindings b) = insertBinding (among keep bindings) b := by
  have there : (among keep bindings).any (·.1 == b.1) = bindings.any (·.1 == b.1) := by
    rw [Bool.eq_iff_iff, List.any_eq_true, List.any_eq_true]
    constructor
    · rintro ⟨p, mem, same⟩
      exact ⟨p, (List.mem_filter.1 mem).1, same⟩
    · rintro ⟨p, mem, same⟩
      exact ⟨p, List.mem_filter.2 ⟨mem, by rw [eq_of_beq same]; exact kept⟩, same⟩
  unfold insertBinding
  rw [there]
  split
  · exact among_overwrite b bindings
  · unfold among
    rw [List.filter_append]
    simp [kept]

/-- No other binding makes a difference to those. -/
theorem among_insertBinding_of_other (other : keep b.1 = false) (bindings : List Binding) :
    among keep (insertBinding bindings b) = among keep bindings := by
  unfold insertBinding
  split
  · have fixed : ∀ p ∈ among keep bindings, (if p.1 == b.1 then b else p) = p := by
      intro p mem
      refine if_neg fun same => ?_
      have kept : keep p.1 = true := (List.mem_filter.1 mem).2
      rw [eq_of_beq same, other] at kept
      cases kept
    rw [among_overwrite, List.map_congr_left fixed, List.map_id']
  · unfold among
    rw [List.filter_append]
    simp [other]

theorem among_add (kept : keep b.1 = true)
    (refers : ∀ value, b.2 = some value → ∀ name ∈ references value, keep name = true)
    (environment : List (String × String)) (bindings : List Binding) :
    among keep (add environment bindings b) =
      add (among keep environment) (among keep bindings) b := by
  unfold add
  rw [among_insertBinding (by exact kept)]
  cases value : b.2 with
  | none => rfl
  | some v => simp only [Option.map_some, resolved_among (refers v value)]

/-- Other names can be left out before a file is read. -/
theorem among_foldl_add (closed : Closed keep written) (environment : List (String × String))
    (bindings : List Binding) :
    among keep (written.foldl (add environment) bindings) =
      (among keep written).foldl (add (among keep environment)) (among keep bindings) := by
  induction written generalizing bindings with
  | nil => rfl
  | cons b rest ih =>
    have later : Closed keep rest := fun b mem => closed b (List.mem_cons_of_mem _ mem)
    rw [List.foldl_cons, ih later]
    cases kept : keep b.1 with
    | false =>
      have out : among keep (b :: rest) = among keep rest := by simp [among, kept]
      have same : among keep (add environment bindings b) = among keep bindings :=
        among_insertBinding_of_other (by exact kept) bindings
      rw [same, out]
    | true =>
      have first : among keep (b :: rest) = b :: among keep rest := by simp [among, kept]
      rw [first, List.foldl_cons, among_add kept (closed b List.mem_cons_self kept)]

/-- Whatever other names there are, those of interest are bound to the same. -/
theorem among_foldl_add_eq {written' : List Binding} (closed : Closed keep written)
    (surrounded : among keep environment = among keep environment')
    (bound : among keep written = among keep written') :
    among keep (written.foldl (add environment) []) =
      among keep (written'.foldl (add environment') []) := by
  have closed' : Closed keep written' := by
    intro b mem kept
    have mem' : b ∈ among keep written := by
      rw [bound]
      exact List.mem_filter.2 ⟨mem, kept⟩
    exact closed b (List.mem_filter.1 mem').1 kept
  rw [among_foldl_add closed, among_foldl_add closed', surrounded, bound]

end Covenant.Config.EnvFile
