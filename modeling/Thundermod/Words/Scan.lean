import Thundermod.Words.Replacement

/-!
# In-place scanning

An in-place scan visits the offsets of a buffer in ascending order and
overwrites every window in which the old word is found at the time of the
visit.  The scan reads what it has already written, so a visit may find the old
word across a window that an earlier visit produced.
-/

namespace Words

variable {α : Type*}

/-- A buffer together with the offsets written so far, in the order of the writes. -/
structure Scan (α : Type*) where
  buffer : List α
  written : List Nat
  deriving DecidableEq

variable [DecidableEq α]

/-- Visit one offset in place: compare the window and overwrite it on a match. -/
def visit (old new : List α) (offset : Nat) (state : Scan α) : Scan α :=
  if OccursAt old state.buffer offset then
    ⟨overwrite state.buffer offset new, state.written ++ [offset]⟩
  else
    state

/-- Visit the offsets below `limit` in ascending order. -/
def scan (old new buffer : List α) : Nat → Scan α
  | 0 => ⟨buffer, []⟩
  | limit + 1 => visit old new limit (scan old new buffer limit)

theorem visit_of_occurs {old new : List α} {offset : Nat} {state : Scan α}
    (occurs : OccursAt old state.buffer offset) :
    visit old new offset state =
      ⟨overwrite state.buffer offset new, state.written ++ [offset]⟩ :=
  if_pos occurs

theorem visit_of_not_occurs {old new : List α} {offset : Nat} {state : Scan α}
    (absent : ¬ OccursAt old state.buffer offset) :
    visit old new offset state = state :=
  if_neg absent

theorem scan_buffer (old new buffer : List α) (limit : Nat) :
    (scan old new buffer limit).buffer =
      replaceAt new buffer (scan old new buffer limit).written := by
  induction limit with
  | zero => rfl
  | succ limit ih =>
      rw [scan]
      by_cases occurs : OccursAt old (scan old new buffer limit).buffer limit
      · rw [visit_of_occurs occurs, replaceAt_append, ← ih]
        rfl
      · rw [visit_of_not_occurs occurs]
        exact ih

theorem lt_of_mem_written {old new buffer : List α} {limit offset : Nat}
    (member : offset ∈ (scan old new buffer limit).written) : offset < limit := by
  induction limit with
  | zero => cases member
  | succ limit ih =>
      rw [scan] at member
      by_cases occurs : OccursAt old (scan old new buffer limit).buffer limit
      · rw [visit_of_occurs occurs] at member
        rcases List.mem_append.mp member with earlier | last
        · exact Nat.lt_succ_of_lt (ih earlier)
        · rw [List.mem_singleton.mp last]
          exact Nat.lt_succ_self limit
      · rw [visit_of_not_occurs occurs] at member
        exact Nat.lt_succ_of_lt (ih member)

/-- What has been written stays recorded while the scan goes on. -/
theorem written_extends (old new buffer : List α) {first second : Nat} (le : first ≤ second) :
    (scan old new buffer first).written <+: (scan old new buffer second).written := by
  induction second, le using Nat.le_induction with
  | base => exact List.prefix_refl _
  | succ second _ ih =>
      rw [scan]
      by_cases occurs : OccursAt old (scan old new buffer second).buffer second
      · rw [visit_of_occurs occurs]
        exact ih.trans (List.prefix_append _ _)
      · rw [visit_of_not_occurs occurs]
        exact ih

/-- An offset below the limit is written exactly when its visit finds the old word. -/
theorem mem_written_iff {old new buffer : List α} {limit offset : Nat} (below : offset < limit) :
    offset ∈ (scan old new buffer limit).written ↔
      OccursAt old (scan old new buffer offset).buffer offset := by
  induction limit with
  | zero => cases below
  | succ limit ih =>
      rw [scan]
      by_cases occurs : OccursAt old (scan old new buffer limit).buffer limit
      · rw [visit_of_occurs occurs, List.mem_append, List.mem_singleton]
        rcases Nat.lt_succ_iff_lt_or_eq.mp below with earlier | rfl
        · rw [ih earlier]
          exact or_iff_left (Nat.ne_of_lt earlier)
        · exact ⟨fun _ => occurs, fun _ => Or.inr rfl⟩
      · rw [visit_of_not_occurs occurs]
        rcases Nat.lt_succ_iff_lt_or_eq.mp below with earlier | rfl
        · exact ih earlier
        · exact ⟨fun member => absurd (lt_of_mem_written member) (Nat.lt_irrefl _),
            fun found => absurd found occurs⟩

/-- A scan writes nothing exactly if the old word is nowhere below the limit. -/
theorem written_eq_nil_iff {old new buffer : List α} {limit : Nat} :
    (scan old new buffer limit).written = [] ↔ ∀ offset < limit, ¬ OccursAt old buffer offset := by
  induction limit with
  | zero => exact ⟨fun _ _ below => absurd below (Nat.not_lt_zero _), fun _ => rfl⟩
  | succ limit ih =>
      constructor
      · intro nothing offset below occurs
        have before : (scan old new buffer offset).written = [] :=
          List.prefix_nil.mp (nothing ▸ written_extends old new buffer (Nat.le_of_lt below))
        have visited : OccursAt old (scan old new buffer offset).buffer offset := by
          rw [scan_buffer, before]
          exact occurs
        have member := (mem_written_iff below).mpr visited
        rw [nothing] at member
        exact List.not_mem_nil member
      · intro absent
        have nothing := ih.mpr fun offset below => absent offset (Nat.lt_succ_of_lt below)
        have missing : ¬ OccursAt old (scan old new buffer limit).buffer limit := by
          rw [scan_buffer, nothing]
          exact absent limit (Nat.lt_succ_self limit)
        rw [scan, visit_of_not_occurs missing, nothing]

section Widths

variable {old new : List α} (nonempty : 0 < old.length) (lengths : new.length = old.length)
include nonempty lengths

theorem length_scan (buffer : List α) (limit : Nat) :
    (scan old new buffer limit).buffer.length = buffer.length := by
  induction limit with
  | zero => rfl
  | succ limit ih =>
      rw [scan]
      by_cases occurs : OccursAt old (scan old new buffer limit).buffer limit
      · rw [visit_of_occurs occurs]
        have room := occurs.le_length nonempty
        exact (length_overwrite (by rwa [lengths])).trans ih
      · rw [visit_of_not_occurs occurs]
        exact ih

/-- Every written window lies inside the buffer. -/
theorem written_fits (buffer : List α) (limit : Nat) :
    Fits new.length buffer (scan old new buffer limit).written := by
  intro offset member
  have occurs := (mem_written_iff (lt_of_mem_written member)).mp member
  have room := occurs.le_length nonempty
  rwa [length_scan nonempty lengths, ← lengths] at room

end Widths

end Words
