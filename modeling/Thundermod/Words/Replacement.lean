import Mathlib.Data.List.Pairwise
import Thundermod.Words.Occurrence

/-!
# Replacing a list of windows

The combined effect of overwriting several windows with one word: entries
outside every window are left alone, and disjoint windows hold the complete
word at the end.
-/

namespace Words

variable {α : Type*}

/-- Overwrite the windows at the listed offsets, in order. -/
def replaceAt (new buffer : List α) (offsets : List Nat) : List α :=
  offsets.foldl (fun current offset => overwrite current offset new) buffer

/-- The windows at the listed offsets fit into the buffer. -/
def Fits (width : Nat) (buffer : List α) (offsets : List Nat) : Prop :=
  ∀ offset ∈ offsets, offset + width ≤ buffer.length

/-- No two of the listed windows share an entry. -/
def WindowsDisjoint (width : Nat) (offsets : List Nat) : Prop :=
  offsets.Pairwise fun first second => first + width ≤ second ∨ second + width ≤ first

theorem WindowsDisjoint.apart {width : Nat} {offsets : List Nat} {first second : Nat}
    (disjoint : WindowsDisjoint width offsets) (memberFirst : first ∈ offsets)
    (memberSecond : second ∈ offsets) (different : first ≠ second) :
    first + width ≤ second ∨ second + width ≤ first :=
  have : Std.Symm fun first second : Nat => first + width ≤ second ∨ second + width ≤ first :=
    ⟨fun _ _ => Or.symm⟩
  disjoint.forall memberFirst memberSecond different

theorem replaceAt_append (new buffer : List α) (first second : List Nat) :
    replaceAt new buffer (first ++ second) = replaceAt new (replaceAt new buffer first) second :=
  List.foldl_append

theorem length_replaceAt {new buffer : List α} {offsets : List Nat}
    (fits : Fits new.length buffer offsets) :
    (replaceAt new buffer offsets).length = buffer.length := by
  induction offsets generalizing buffer with
  | nil => rfl
  | cons offset rest ih =>
      have room := fits offset List.mem_cons_self
      have same := length_overwrite room
      have fitsRest : Fits new.length (overwrite buffer offset new) rest := by
        intro other member
        rw [same]
        exact fits other (List.mem_cons_of_mem _ member)
      exact (ih fitsRest).trans same

/-- Entries outside every listed window are left alone. -/
theorem getElem?_replaceAt_outside {new buffer : List α} {offsets : List Nat}
    (fits : Fits new.length buffer offsets) (index : Nat)
    (outside : ∀ offset ∈ offsets, index < offset ∨ offset + new.length ≤ index) :
    (replaceAt new buffer offsets)[index]? = buffer[index]? := by
  induction offsets generalizing buffer with
  | nil => rfl
  | cons offset rest ih =>
      have room := fits offset List.mem_cons_self
      have fitsRest : Fits new.length (overwrite buffer offset new) rest := by
        intro other member
        rw [length_overwrite room]
        exact fits other (List.mem_cons_of_mem _ member)
      have outsideRest := fun other member => outside other (List.mem_cons_of_mem offset member)
      exact (ih fitsRest outsideRest).trans
        (getElem?_overwrite_outside room (outside offset List.mem_cons_self))

/-- Every one of several disjoint windows holds the complete new word at the end. -/
theorem occursAt_replaceAt {new buffer : List α} {offsets : List Nat} {offset : Nat}
    (fits : Fits new.length buffer offsets) (disjoint : WindowsDisjoint new.length offsets)
    (member : offset ∈ offsets) : OccursAt new (replaceAt new buffer offsets) offset := by
  obtain ⟨before, after, rfl⟩ := List.append_of_mem member
  have fitsBefore : Fits new.length buffer before := fun other inside =>
    fits other (List.mem_append_left _ inside)
  have sameLength := length_replaceAt fitsBefore
  have room : offset + new.length ≤ (replaceAt new buffer before).length := by
    rw [sameLength]
    exact fits offset member
  have later := (List.pairwise_cons.mp (List.pairwise_append.mp disjoint).2.1).1
  have fitsAfter : Fits new.length (overwrite (replaceAt new buffer before) offset new) after := by
    intro other inside
    rw [length_overwrite room, sameLength]
    exact fits other (List.mem_append_right _ (List.mem_cons_of_mem _ inside))
  rw [replaceAt_append, occursAt_iff]
  intro index hindex
  have kept := getElem?_replaceAt_outside fitsAfter (offset + index) (by
    intro other inside
    have := later other inside
    omega)
  exact kept.trans (occursAt_iff.mp (occursAt_overwrite_self room) index hindex)

/-- Where the new word is foreign to the buffer, it occurs exactly in the replaced windows. -/
theorem occursAt_replaceAt_iff {new buffer : List α} {offsets : List Nat} {offset : Nat}
    (foreign : ∀ other, ¬ OccursAt new buffer other) (self : ¬ Straddles new new)
    (fits : Fits new.length buffer offsets) (disjoint : WindowsDisjoint new.length offsets) :
    OccursAt new (replaceAt new buffer offsets) offset ↔ offset ∈ offsets := by
  constructor
  · intro occurs
    by_contra absent
    apply foreign offset
    refine (occursAt_congr fun index inside => ?_).mp occurs
    apply getElem?_replaceAt_outside fits
    intro window member
    have held := occursAt_replaceAt fits disjoint member
    rcases Nat.lt_trichotomy offset window with before | rfl | after
    · have := mt (straddles_of_occursAt rfl occurs held before) self
      omega
    · exact absurd member absent
    · have := mt (straddles_of_occursAt rfl held occurs after) self
      omega
  · exact occursAt_replaceAt fits disjoint

/-- Writing back the original word of one window is the same as never replacing it. -/
theorem overwrite_replaceAt {old new buffer : List α} {offsets : List Nat} {offset : Nat}
    (lengths : new.length = old.length) (fits : Fits new.length buffer offsets)
    (disjoint : WindowsDisjoint new.length offsets) (member : offset ∈ offsets)
    (original : OccursAt old buffer offset) :
    overwrite (replaceAt new buffer offsets) offset old =
      replaceAt new buffer (offsets.filter (· ≠ offset)) := by
  have fitsRest : Fits new.length buffer (offsets.filter (· ≠ offset)) :=
    fun other inside => fits other (List.mem_filter.mp inside).1
  have disjointRest : WindowsDisjoint new.length (offsets.filter (· ≠ offset)) :=
    disjoint.sublist List.filter_sublist
  have room : offset + old.length ≤ (replaceAt new buffer offsets).length := by
    rw [length_replaceAt fits, ← lengths]
    exact fits offset member
  apply List.ext_getElem?
  intro index
  rw [getElem?_overwrite room]
  split
  · next inside =>
      rw [getElem?_replaceAt_outside fitsRest, original.getElem? index inside.1 inside.2]
      intro other kept
      obtain ⟨listed, different⟩ := List.mem_filter.mp kept
      have apart := disjoint.apart member listed (Ne.symm (by simpa using different))
      omega
  · next outside =>
      by_cases covered : ∃ other ∈ offsets, other ≤ index ∧ index < other + new.length
      · obtain ⟨other, listed, lower, upper⟩ := covered
        have kept : other ∈ offsets.filter (· ≠ offset) := by
          refine List.mem_filter.mpr ⟨listed, ?_⟩
          simp only [ne_eq, decide_not, Bool.not_eq_true', decide_eq_false_iff_not]
          rintro rfl
          omega
        rw [(occursAt_replaceAt fits disjoint listed).getElem? index lower upper,
          (occursAt_replaceAt fitsRest disjointRest kept).getElem? index lower upper]
      · have free (other : Nat) (listed : other ∈ offsets) :
            index < other ∨ other + new.length ≤ index := by
          by_contra meets
          exact covered ⟨other, listed, by omega⟩
        rw [getElem?_replaceAt_outside fits index free,
          getElem?_replaceAt_outside fitsRest index
            (fun other kept => free other (List.mem_filter.mp kept).1)]

end Words
