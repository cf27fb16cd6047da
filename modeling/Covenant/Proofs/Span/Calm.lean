import Covenant.Proofs.Contract.Report

/-!
# Machines on which reports are heard as they are

On a calm machine scripts have left alone what the report of any new violation asks for: the initial
classes, the members of enumerations and the settings are honest, and an address at which nothing
stands yet has been given no attribute that a report asks for (`Machine.Calm`). So a violation tells
what it holds as soon as it is made (`Calm.tells_push`).

A machine stays calm where nothing is done to the attributes that scripts have given
(`Machine.Keeps`), and also where some are given under names that reports do not heed
(`Calm.attach`, `Calm.setClassFields`).
-/

namespace Covenant

/-- The names under which scripts can change what reports ask for. -/
def heededNames : List String :=
  "_value_" :: special "dict" :: reportNames

namespace Machine

variable {m n k : Machine} {v : Value} {fields : Fields} {name : String}

/-- Scripts have left alone what the report of a new violation asks for. -/
structure Calm (m : Machine) : Prop extends m.Honest where
  vacant : ∀ p ∈ m.attached, ∀ r, p.1 = .ref r → m.heap.size ≤ r →
    ∀ name ∈ reportNames, p.2.get? name = none

/-- Between two machines scripts have given no attributes, and no cell has gone. -/
structure Keeps (m n : Machine) : Prop where
  patches : n.patches = m.patches
  attached : n.attached = m.attached
  size : m.heap.size ≤ n.heap.size

theorem Keeps.refl (m : Machine) : m.Keeps m :=
  ⟨rfl, rfl, Nat.le_refl _⟩

/-- What has been given to no value is as good as nothing. -/
theorem get?_attachedTo_eq_none (none : ∀ p ∈ m.attached, p.1 = v → p.2.get? name = none)
    (exact : ∀ x mark, v ≠ .float x mark) : (m.attachedTo v).get? name = .none := by
  unfold attachedTo
  cases found : m.attached.find? (v.same ·.1) with
  | none => rfl
  | some p =>
    obtain ⟨mem, same⟩ := exists_of_find?_attached found exact
    exact none p mem same

namespace Calm

theorem keeps (calm : m.Calm) (kept : m.Keeps n) : n.Calm := by
  refine ⟨calm.toHonest.extend kept.patches kept.attached, ?_⟩
  rw [kept.attached]
  exact fun p mem r same le => calm.vacant p mem r same (Nat.le_trans kept.size le)

/-- A new violation tells what it holds. -/
theorem tells_push (calm : m.Calm) (f : Fault) : (m.push (.fault f)).Tells m.heap.size := by
  refine ⟨calm.toHonest.extend rfl rfl, fun name mem => ?_⟩
  refine get?_attachedTo_eq_none (fun p given same => ?_) nofun
  exact calm.vacant p given _ same (Nat.le_refl _) name mem

end Calm

/-! ## Giving attributes -/

/-- Fields that a value can be given on a calm machine without harm. -/
structure Suits (m : Machine) (v : Value) (fields : Fields) : Prop where
  member : ∀ x, v = .member x → fields.get? "_value_" = some (.text x.text)
  config : ∀ i, v = .config i →
    ∀ x, fields.get? "emit_span_events" = some x → ∃ b, x = .bool b
  ref : ∀ r, v = .ref r → m.heap.size ≤ r → ∀ name ∈ reportNames, fields.get? name = none

/-- They still can if a field that reports do not heed is another. -/
theorem Suits.change {other : Fields} (suits : m.Suits v fields) (unheeded : name ∉ heededNames)
    (same : ∀ heeded, heeded ≠ name → other.get? heeded = fields.get? heeded) :
    m.Suits v other := by
  have kept {heeded : String} (mem : heeded ∈ heededNames) :
      other.get? heeded = fields.get? heeded := by
    refine same heeded ?_
    rintro rfl
    exact unheeded mem
  refine ⟨fun x is => ?_, fun i is x => ?_, fun r is le asked mem => ?_⟩
  · rw [kept (by simp [heededNames])]
    exact suits.member x is
  · rw [kept (by simp [heededNames, reportNames])]
    exact suits.config i is x
  · rw [kept (List.mem_cons_of_mem _ (List.mem_cons_of_mem _ mem))]
    exact suits.ref r is le asked mem

theorem Suits.set (suits : m.Suits v fields) (unheeded : name ∉ heededNames) (x : Value) :
    m.Suits v (fields.set name x) :=
  suits.change unheeded fun _ ne => Fields.get?_set_of_ne ne

theorem Suits.erase (suits : m.Suits v fields) (unheeded : name ∉ heededNames) :
    m.Suits v (fields.erase name) :=
  suits.change unheeded fun _ ne => Fields.get?_erase_of_ne ne

/-- What has been given to a value suits it. -/
theorem Calm.suits_attachedTo (calm : m.Calm) (other : ∀ x, v ≠ .member x)
    (exact : ∀ x mark, v ≠ .float x mark) : m.Suits v (m.attachedTo v) := by
  refine ⟨fun x is => absurd is (other x), fun i is x given => ?_, fun r is le name mem => ?_⟩
  · unfold attachedTo at given
    cases found : m.attached.find? (v.same ·.1) with
    | none =>
      rw [found] at given
      cases given
    | some p =>
      rw [found] at given
      obtain ⟨mem, same⟩ := exists_of_find?_attached found exact
      exact calm.flags p mem i (same.trans is) x given
  · exact get?_attachedTo_eq_none (fun p given same =>
      calm.vacant p given r (same.trans is) le name mem) exact

/-- Giving a value fields that suit it leaves the machine calm. -/
theorem Calm.attach (calm : m.Calm) (suits : m.Suits v fields) : (m.attach v fields).Calm := by
  have given {p : Value × Fields} (mem : p ∈ (m.attach v fields).attached) :
      p = (v, fields) ∨ p ∈ m.attached :=
    (List.mem_cons.1 mem).imp id fun rest => (List.mem_filter.1 rest).1
  refine ⟨⟨calm.names, fun p mem x is => ?_, fun p mem i is => ?_⟩, fun p mem r is => ?_⟩
  · rcases given mem with rfl | before
    · exact suits.member x is
    · exact calm.members p before x is
  · rcases given mem with rfl | before
    · exact suits.config i is
    · exact calm.flags p before i is
  · rcases given mem with rfl | before
    · exact suits.ref r is
    · exact calm.vacant p before r is

/-- So does giving a class other fields, if reports find in them what they did before. -/
theorem Calm.setClassFields (calm : m.Calm) {c : ClassRef}
    (same : ∀ name ∈ reportNames, fields.get? name = (m.classFields c).get? name) :
    (m.setClassFields c fields).Calm := by
  have untouched : ∀ name ∈ reportNames, (m.setClassFields c fields).Untouched name :=
    fun name mem => (calm.names name mem).setClassFields (same name mem)
  cases c with
  | known k => exact ⟨⟨untouched, calm.members, calm.flags⟩, calm.vacant⟩
  | made i =>
    unfold Machine.setClassFields
    dsimp only
    split
    · exact calm
    · exact calm.keeps ⟨rfl, rfl, Nat.le_refl _⟩

end Machine

end Covenant
