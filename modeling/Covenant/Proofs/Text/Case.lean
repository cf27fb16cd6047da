import Covenant.Text.Blank
import Covenant.Text.Case
import Mathlib.Data.List.TakeWhile

/-!
# Words in small letters

Names and settings are compared in small letters with words of ASCII letters. For that the small
letters of the whole character database come to the same as those of ASCII and the Kelvin sign
(`lower_eq_iff`): every other character has small letters that do not belong to ASCII, or keeps one
that does not (`toSmallBetween_cases`).

Neither the case of ASCII letters nor blanks at the two ends of a text matter to such a comparison
(`lower_strip_eq`).
-/

namespace Covenant.Text

/-- The characters of ASCII. -/
def IsAscii (c : Char) : Prop :=
  c.toNat < 128

instance (c : Char) : Decidable (IsAscii c) :=
  inferInstanceAs (Decidable (c.toNat < 128))

variable {p : Char → Bool} {before after s t word : List Char} {c d : Char}

/-! ## Characters -/

theorem toNat_toLower (c : Char) :
    c.toLower.toNat = if 0x41 ≤ c.toNat ∧ c.toNat ≤ 0x5a then c.toNat + 32 else c.toNat := by
  have first : 'A'.val.toNat = 0x41 := rfl
  have last : 'Z'.val.toNat = 0x5a := rfl
  have shift : ('a'.val - 'A'.val).toNat = 32 := rfl
  unfold Char.toLower Char.toNat
  simp only [ge_iff_le, UInt32.le_iff_toNat_le, first, last]
  split
  · rw [UInt32.toNat_add, shift]
    omega
  · rfl

theorem isAscii_toLower : IsAscii c.toLower ↔ IsAscii c := by
  unfold IsAscii
  rw [toNat_toLower]
  split <;> omega

theorem toLower_toLower (c : Char) : c.toLower.toLower = c.toLower := by
  apply Char.toNat_inj.1
  rw [toNat_toLower c.toLower, if_neg]
  rw [toNat_toLower]
  split <;> omega

/-- Capitals of ASCII are mapped as their small letters are. -/
theorem lowerChar_toLower (c : Char) : lowerChar c.toLower = lowerChar c := by
  have same : c.toLower.toNat = 0x212a ↔ c.toNat = 0x212a := by
    rw [toNat_toLower]
    split <;> omega
  unfold lowerChar
  simp only [beq_iff_eq, same, toLower_toLower]

/-- Letters are no blanks. -/
theorem isBlank_of_letter (first : 0x41 ≤ c.toNat) (last : c.toNat ≤ 0x7a) : isBlank c = false := by
  unfold isBlank
  simp
  omega

/-- Mapping to small letters neither makes a blank nor takes one away. -/
theorem isBlank_lowerChar (c : Char) : isBlank (lowerChar c) = isBlank c := by
  unfold lowerChar
  split
  · next kelvin =>
    have same : c = Char.ofNat 0x212a := Char.toNat_inj.1 (by simpa using kelvin)
    rw [same]
    rfl
  · by_cases capital : 0x41 ≤ c.toNat ∧ c.toNat ≤ 0x5a
    · have moved := toNat_toLower c
      rw [if_pos capital] at moved
      rw [isBlank_of_letter (by omega) (by omega), isBlank_of_letter capital.1 (by omega)]
    · have kept := toNat_toLower c
      rw [if_neg capital] at kept
      rw [Char.toNat_inj.1 kept]

/-! ## The small letters of the database -/

/-- A run that is found belongs to the table and holds the number. -/
theorem run?_spec {table : Array Run} {n steps low high : Nat} {r : Run}
    (within : high ≤ table.size) (found : run? table n steps low high = some r) :
    r ∈ table ∧ r.first ≤ n ∧ n ≤ r.last := by
  induction steps generalizing low high with
  | zero => cases found
  | succ steps ih =>
    unfold run? at found
    split at found
    · cases found
    · have lt : (low + high) / 2 < table.size := by omega
      have mem : table.getD ((low + high) / 2) ⟨0, 0, 1, 0⟩ ∈ table := by
        rw [Array.getD_eq_getD_getElem?, Array.getElem?_eq_getElem lt]
        exact Array.getElem_mem lt
      dsimp only at found
      generalize table.getD ((low + high) / 2) ⟨0, 0, 1, 0⟩ = q at found mem
      split at found
      · exact ih (by omega) found
      · split at found
        · exact ih within found
        · split at found
          · cases found
            exact ⟨mem, by omega, by omega⟩
          · cases found

/-- Apart from the capitals of ASCII and the Kelvin sign, the small letter of a character that is
moved is a character beyond ASCII. -/
theorem toSmallRuns_cases : ∀ r ∈ toSmallRuns,
    r = ⟨0x41, 0x5a, 1, 32⟩ ∨ r = ⟨0x212a, 0x212a, 1, -8383⟩ ∨
      (128 ≤ r.first ∧ 128 ≤ r.first + r.shift ∧
        (r.last + r.shift < 0xd800 ∨
          (0xdfff < r.first + r.shift ∧ r.last + r.shift < 0x110000))) := by
  decide +kernel

/-- The small letters of ASCII. -/
theorem toSmall_of_isAscii (ascii : IsAscii c) : toSmall c = [c.toLower] := by
  have each : ∀ n < 128, toSmall (Char.ofNat n) = [(Char.ofNat n).toLower] := by decide +kernel
  have this := each c.toNat ascii
  rwa [Char.ofNat_toNat] at this

/-- The small letter of a character beyond ASCII, of the Kelvin sign and the capital `i` with a dot
apart, is beyond ASCII. -/
theorem exists_toSmall_of_not_isAscii (foreign : ¬IsAscii c) (kelvin : c.toNat ≠ 0x212a)
    (dotted : c.toNat ≠ 0x130) : ∃ d, toSmall c = [d] ∧ ¬IsAscii d := by
  unfold toSmall moved?
  rw [if_neg dotted]
  refine ⟨_, rfl, ?_⟩
  cases found : runOf? toSmallRuns c with
  | none => exact foreign
  | some r =>
    unfold IsAscii at foreign ⊢
    obtain ⟨mem, first, last⟩ := run?_spec (Nat.le_refl _) found
    rcases toSmallRuns_cases r mem with rfl | rfl | ⟨-, low, range⟩
    · dsimp only at last
      omega
    · dsimp only at first last
      omega
    · have valid : ((c.toNat : Int) + r.shift).toNat.isValidChar := by
        unfold Nat.isValidChar
        omega
      dsimp only [Option.map_some, Option.getD_some]
      unfold Char.ofNat
      rw [dif_pos valid]
      show ¬((c.toNat : Int) + r.shift).toNat < 128
      omega

/-- What is beyond ASCII keeps to be so when it is not the Kelvin sign. -/
theorem isAscii_lowerChar (other : c.toNat ≠ 0x212a) : IsAscii (lowerChar c) ↔ IsAscii c := by
  unfold lowerChar
  rw [if_neg (by simpa using other), isAscii_toLower]

/-- Either the small letters of a character are the one of ASCII that it is mapped to, or both the
database and the mapping give a character beyond ASCII. -/
theorem toSmallBetween_cases (before after : List Char) (c : Char) :
    (IsAscii (lowerChar c) ∧ toSmallBetween before after c = [lowerChar c]) ∨
      (¬IsAscii (lowerChar c) ∧ ∃ d ∈ toSmallBetween before after c, ¬IsAscii d) := by
  by_cases kelvin : c.toNat = 0x212a
  · have same : c = Char.ofNat 0x212a := Char.toNat_inj.1 kelvin
    have small : toSmall (Char.ofNat 0x212a) = ['k'] := by decide +kernel
    rw [same]
    exact .inl ⟨by decide, small⟩
  by_cases ascii : IsAscii c
  · refine .inl ⟨(isAscii_lowerChar kelvin).2 ascii, ?_⟩
    have sigma : c.toNat ≠ 0x3a3 := by
      unfold IsAscii at ascii
      omega
    unfold toSmallBetween lowerChar
    rw [if_neg sigma, if_neg (by simpa using kelvin), toSmall_of_isAscii ascii]
  · refine .inr ⟨fun h => ascii ((isAscii_lowerChar kelvin).1 h), ?_⟩
    unfold toSmallBetween
    split
    · split
      · exact ⟨_, List.mem_singleton_self _, by decide⟩
      · exact ⟨_, List.mem_singleton_self _, by decide⟩
    · by_cases dotted : c.toNat = 0x130
      · refine ⟨Char.ofNat 0x307, ?_, by decide⟩
        simp [toSmall, dotted]
      · obtain ⟨d, small, foreign⟩ := exists_toSmall_of_not_isAscii ascii kelvin dotted
        rw [small]
        exact ⟨d, List.mem_singleton_self d, foreign⟩

theorem mapBetween_toSmallBetween_eq_iff (ascii : ∀ c ∈ word, IsAscii c) :
    mapBetween toSmallBetween before s = word ↔ s.map lowerChar = word := by
  induction s generalizing before word with
  | nil => rfl
  | cons c rest ih =>
    unfold mapBetween
    rw [List.map_cons]
    rcases toSmallBetween_cases before rest c with ⟨-, same⟩ | ⟨foreign, d, mem, beyond⟩
    · rw [same, List.singleton_append]
      cases word with
      | nil => simp
      | cons x word =>
        rw [List.cons.injEq, List.cons.injEq, ih fun y mem => ascii y (List.mem_cons_of_mem x mem)]
    · constructor
      · rintro rfl
        exact absurd (ascii d (List.mem_append_left _ mem)) beyond
      · rintro rfl
        exact absurd (ascii _ List.mem_cons_self) foreign

/-- Words of ASCII can be told by the mapping of single characters. -/
theorem small_eq_iff (ascii : ∀ c ∈ word, IsAscii c) :
    small s = word ↔ s.map lowerChar = word :=
  mapBetween_toSmallBetween_eq_iff ascii

theorem lower_eq_iff {s word : String} (ascii : ∀ c ∈ word.toList, IsAscii c) :
    lower s = word ↔ small s.toList = word.toList := by
  rw [small_eq_iff ascii, ← String.toList_inj, lower, String.toList_ofList]

/-! ## Blanks at the two ends -/

/-- What does not change whether a character is cut off can be done before or after. -/
theorem stripChars_map {f : Char → Char} (same : ∀ c, p (f c) = p c) (s : List Char) :
    stripChars p (s.map f) = (stripChars p s).map f := by
  have keeps : p ∘ f = p := funext same
  unfold stripChars
  rw [List.dropWhile_map, ← List.map_reverse, List.dropWhile_map, ← List.map_reverse, keeps]

/-- Nothing is left of what is cut off at an end. -/
theorem stripChars_append_left (cut : ∀ c ∈ before, p c = true) :
    stripChars p (before ++ s) = stripChars p s := by
  unfold stripChars
  rw [List.dropWhile_append_of_pos cut]

theorem stripChars_append_right (cut : ∀ c ∈ after, p c = true) :
    stripChars p (s ++ after) = stripChars p s := by
  unfold stripChars
  rw [List.dropWhile_append]
  split
  · next none =>
    rw [List.dropWhile_eq_nil_iff.2 cut, List.isEmpty_iff.1 none]
  · rw [List.reverse_append,
      List.dropWhile_append_of_pos fun c mem => cut c (List.mem_reverse.1 mem)]

theorem stripChars_append (cut : ∀ c ∈ before, p c = true) (cut' : ∀ c ∈ after, p c = true) :
    stripChars p (before ++ s ++ after) = stripChars p s := by
  rw [stripChars_append_right cut', stripChars_append_left cut]

/-- Texts that differ in the case of letters of ASCII and in blanks at the two ends alone. -/
def Alike (s t : String) : Prop :=
  ∃ before core after before' core' after',
    s.toList = before ++ core ++ after ∧ t.toList = before' ++ core' ++ after' ∧
    (∀ c ∈ before ++ after ++ before' ++ after', isBlank c = true) ∧
    core.map Char.toLower = core'.map Char.toLower

/-- Such texts are the same word when they are compared. -/
theorem lower_strip_eq {s t : String} (alike : Alike s t) : lower (strip s) = lower (strip t) := by
  obtain ⟨before, core, after, before', core', after', split, split', blank, same⟩ := alike
  have lowered (s : List Char) : (s.map Char.toLower).map lowerChar = s.map lowerChar := by
    rw [List.map_map]
    exact List.map_congr_left fun c _ => lowerChar_toLower c
  unfold lower strip
  rw [String.toList_ofList, String.toList_ofList, split, split',
    stripChars_append (fun c mem => blank c (by simp [mem])) (fun c mem => blank c (by simp [mem])),
    stripChars_append (fun c mem => blank c (by simp [mem])) (fun c mem => blank c (by simp [mem])),
    ← stripChars_map isBlank_lowerChar, ← stripChars_map isBlank_lowerChar, ← lowered core, same,
    lowered core']

end Covenant.Text
