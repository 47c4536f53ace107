import Mathlib.Data.List.Infix
import Mathlib.Data.List.TakeDrop
import Mathlib.Tactic.Common

/-!
# Occurrences of a word in a buffer

A word occurs at an offset when the buffer read from that offset starts with
it.  Overwriting replaces one window of a buffer by a word of the same length.
The module settles when two occurrences can overlap, and when overwriting one
window can create or destroy an occurrence at another offset.
-/

namespace Words

variable {α : Type*}

/-- The buffer read from `offset` starts with `word`. -/
def OccursAt (word buffer : List α) (offset : Nat) : Prop :=
  (buffer.drop offset).take word.length = word

instance [DecidableEq α] (word buffer : List α) (offset : Nat) :
    Decidable (OccursAt word buffer offset) :=
  inferInstanceAs (Decidable (_ = _))

/-- Replace the window of `word.length` entries that starts at `offset`. -/
def overwrite (buffer : List α) (offset : Nat) (word : List α) : List α :=
  buffer.take offset ++ word ++ buffer.drop (offset + word.length)

/-- Some nonempty proper suffix of `left` is a prefix of `right`. -/
def Straddles (left right : List α) : Prop :=
  ∃ piece, piece ≠ [] ∧ piece ≠ left ∧ piece <:+ left ∧ piece <+: right

/-- A straddling piece is what is left of the left word behind some inner offset. -/
theorem straddles_iff {left right : List α} :
    Straddles left right ↔ ∃ offset < left.length, 0 < offset ∧ left.drop offset <+: right := by
  constructor
  · rintro ⟨piece, nonempty, proper, ⟨front, rfl⟩, isPrefix⟩
    refine ⟨front.length, ?_, ?_, by simpa using isPrefix⟩
    · rw [List.length_append]
      exact Nat.lt_add_of_pos_right (List.length_pos_iff.mpr nonempty)
    · refine List.length_pos_iff.mpr ?_
      rintro rfl
      exact proper rfl
  · rintro ⟨offset, inside, positive, isPrefix⟩
    refine ⟨left.drop offset, ?_, ?_, List.drop_suffix _ _, isPrefix⟩
    · exact List.ne_nil_of_length_pos (by rw [List.length_drop]; omega)
    · intro whole
      have := congrArg List.length whole
      rw [List.length_drop] at this
      omega

instance [DecidableEq α] (left right : List α) : Decidable (Straddles left right) :=
  decidable_of_iff _ straddles_iff.symm

/-! ## Reading an occurrence entry by entry -/

theorem occursAt_iff {word buffer : List α} {offset : Nat} :
    OccursAt word buffer offset ↔
      ∀ index < word.length, buffer[offset + index]? = word[index]? := by
  constructor
  · intro occurs index hindex
    have read := congrArg (fun entries => entries[index]?) occurs
    simpa [hindex] using read
  · intro entries
    apply List.ext_getElem?
    intro index
    by_cases hindex : index < word.length
    · simpa [hindex] using entries index hindex
    · rw [List.getElem?_eq_none (by rw [List.length_take]; omega),
        List.getElem?_eq_none (Nat.not_lt.mp hindex)]

theorem OccursAt.getElem? {word buffer : List α} {offset : Nat}
    (occurs : OccursAt word buffer offset) (index : Nat)
    (lower : offset ≤ index) (upper : index < offset + word.length) :
    buffer[index]? = word[index - offset]? := by
  have read := occursAt_iff.mp occurs (index - offset) (by omega)
  rwa [Nat.add_sub_cancel' lower] at read

/-- A nonempty word occurs only where the buffer still has room for it. -/
theorem OccursAt.le_length {word buffer : List α} {offset : Nat}
    (occurs : OccursAt word buffer offset) (nonempty : 0 < word.length) :
    offset + word.length ≤ buffer.length := by
  by_contra short
  have last := occurs.getElem? (offset + word.length - 1) (by omega) (by omega)
  rw [List.getElem?_eq_none (by omega), List.getElem?_eq_getElem (by omega)] at last
  cases last

/-- Occurrence only depends on the entries of the window. -/
theorem occursAt_congr {word first second : List α} {offset offset' : Nat}
    (same : ∀ index < word.length, first[offset + index]? = second[offset' + index]?) :
    OccursAt word first offset ↔ OccursAt word second offset' := by
  rw [occursAt_iff, occursAt_iff]
  constructor
  · intro entries index hindex
    rw [← same index hindex]
    exact entries index hindex
  · intro entries index hindex
    rw [same index hindex]
    exact entries index hindex

/-- Two words of one length that occur at the same offset are equal. -/
theorem OccursAt.unique {left right buffer : List α} {offset : Nat}
    (occursLeft : OccursAt left buffer offset) (occursRight : OccursAt right buffer offset)
    (lengths : left.length = right.length) : left = right := by
  rw [← occursLeft, ← occursRight, lengths]

/-! ## Overlapping occurrences -/

/-- Occurrences that overlap at different offsets share a suffix and a prefix. -/
theorem straddles_of_occursAt {left right buffer : List α} {first second : Nat}
    (lengths : left.length = right.length)
    (occursLeft : OccursAt left buffer first) (occursRight : OccursAt right buffer second)
    (lower : first < second) (upper : second < first + left.length) :
    Straddles left right := by
  have shared : left.drop (second - first) = right.take (left.length - (second - first)) := by
    apply List.ext_getElem?
    intro index
    rw [List.getElem?_drop]
    by_cases inside : index < left.length - (second - first)
    · rw [List.getElem?_take_of_lt inside]
      have readLeft := occursLeft.getElem? (second + index) (by omega) (by omega)
      have readRight := occursRight.getElem? (second + index) (by omega) (by omega)
      rw [Nat.add_sub_cancel_left] at readRight
      rw [← readRight, readLeft]
      congr 1
      omega
    · rw [List.getElem?_eq_none (by omega), List.getElem?_eq_none (by simp; omega)]
  refine straddles_iff.mpr ⟨second - first, by omega, by omega, ?_⟩
  rw [shared]
  exact List.take_prefix _ _

/-- Words that never straddle one another occur in disjoint windows. -/
theorem OccursAt.apart {left right buffer : List α} {first second : Nat}
    (lengths : left.length = right.length) (different : left ≠ right)
    (leftRight : ¬ Straddles left right) (rightLeft : ¬ Straddles right left)
    (occursLeft : OccursAt left buffer first) (occursRight : OccursAt right buffer second) :
    first + left.length ≤ second ∨ second + left.length ≤ first := by
  rcases Nat.lt_trichotomy first second with before | same | after
  · refine Or.inl (Nat.not_lt.mp fun overlap => leftRight ?_)
    exact straddles_of_occursAt lengths occursLeft occursRight before overlap
  · subst same
    exact absurd (occursLeft.unique occursRight lengths) different
  · refine Or.inr (Nat.not_lt.mp fun overlap => rightLeft ?_)
    exact straddles_of_occursAt lengths.symm occursRight occursLeft after (lengths ▸ overlap)

/-! ## Overwriting a window -/

theorem length_overwrite {buffer word : List α} {offset : Nat}
    (room : offset + word.length ≤ buffer.length) :
    (overwrite buffer offset word).length = buffer.length := by
  simp [overwrite]
  omega

theorem getElem?_overwrite {buffer word : List α} {offset : Nat}
    (room : offset + word.length ≤ buffer.length) (index : Nat) :
    (overwrite buffer offset word)[index]? =
      if offset ≤ index ∧ index < offset + word.length then word[index - offset]?
      else buffer[index]? := by
  have taken : (buffer.take offset).length = offset := by
    rw [List.length_take]
    omega
  unfold overwrite
  rw [List.append_assoc]
  by_cases before : index < offset
  · rw [List.getElem?_append_left (by omega), List.getElem?_take_of_lt before,
      if_neg (by omega)]
  · rw [List.getElem?_append_right (by omega), taken]
    by_cases inside : index < offset + word.length
    · rw [List.getElem?_append_left (by omega), if_pos (by omega)]
    · rw [List.getElem?_append_right (by omega), List.getElem?_drop, if_neg (by omega)]
      congr 1
      omega

theorem getElem?_overwrite_outside {buffer word : List α} {offset index : Nat}
    (room : offset + word.length ≤ buffer.length)
    (outside : index < offset ∨ offset + word.length ≤ index) :
    (overwrite buffer offset word)[index]? = buffer[index]? := by
  rw [getElem?_overwrite room, if_neg (by omega)]

/-- The window just overwritten holds the complete word. -/
theorem occursAt_overwrite_self {buffer word : List α} {offset : Nat}
    (room : offset + word.length ≤ buffer.length) :
    OccursAt word (overwrite buffer offset word) offset := by
  rw [occursAt_iff]
  intro index hindex
  rw [getElem?_overwrite room, if_pos (by omega), Nat.add_sub_cancel_left]

/-- Overwriting a disjoint window leaves an occurrence alone. -/
theorem occursAt_overwrite_of_apart {word written buffer : List α} {offset target : Nat}
    (room : target + written.length ≤ buffer.length)
    (apart : offset + word.length ≤ target ∨ target + written.length ≤ offset) :
    OccursAt word (overwrite buffer target written) offset ↔ OccursAt word buffer offset := by
  apply occursAt_congr
  intro index hindex
  exact getElem?_overwrite_outside room (by omega)

/-- Windows that do not meet can be overwritten in either order. -/
theorem overwrite_comm {buffer first second : List α} {left right : Nat}
    (roomFirst : left + first.length ≤ buffer.length)
    (roomSecond : right + second.length ≤ buffer.length)
    (apart : left + first.length ≤ right ∨ right + second.length ≤ left) :
    overwrite (overwrite buffer left first) right second =
      overwrite (overwrite buffer right second) left first := by
  apply List.ext_getElem?
  intro index
  have roomFirst' : left + first.length ≤ (overwrite buffer right second).length := by
    rwa [length_overwrite roomSecond]
  have roomSecond' : right + second.length ≤ (overwrite buffer left first).length := by
    rwa [length_overwrite roomFirst]
  rw [getElem?_overwrite roomSecond', getElem?_overwrite roomFirst',
    getElem?_overwrite roomFirst, getElem?_overwrite roomSecond]
  split <;> split <;> first | rfl | omega

/--
Replacing an occurrence of one word neither creates nor destroys occurrences of
a word that straddles neither the replaced word nor its replacement.
-/
theorem occursAt_overwrite_iff {word replaced written buffer : List α} {offset target : Nat}
    (nonempty : 0 < replaced.length)
    (lengths : word.length = replaced.length) (lengths' : written.length = replaced.length)
    (occurs : OccursAt replaced buffer target)
    (ne : word ≠ replaced) (ne' : word ≠ written)
    (old : ¬ Straddles word replaced) (old' : ¬ Straddles replaced word)
    (new : ¬ Straddles word written) (new' : ¬ Straddles written word) :
    OccursAt word (overwrite buffer target written) offset ↔ OccursAt word buffer offset := by
  have room : target + written.length ≤ buffer.length := by
    rw [lengths']
    exact occurs.le_length nonempty
  constructor
  · intro after
    have apart := after.apart (lengths.trans lengths'.symm) ne' new new'
      (occursAt_overwrite_self room)
    exact (occursAt_overwrite_of_apart room (by omega)).mp after
  · intro before
    have apart := before.apart lengths ne old old' occurs
    exact (occursAt_overwrite_of_apart room (by omega)).mpr before

end Words
