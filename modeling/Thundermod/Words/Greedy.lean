import Thundermod.Words.Scan

/-!
# The greedy reference

The greedy left-to-right substitution resumes behind each window it replaces.
In-place scanning agrees with it exactly when no occurrence straddles the end
of a replaced window, and exactly then the written windows are disjoint.
-/

namespace Words

variable {α : Type*} [DecidableEq α]

/--
The windows of the greedy left-to-right substitution that starts at `offset`:
it resumes behind each window it takes.
-/
def greedyFrom (old buffer : List α) (limit offset : Nat) : List Nat :=
  if offset < limit then
    if OccursAt old buffer offset then
      offset :: greedyFrom old buffer limit (offset + max 1 old.length)
    else
      greedyFrom old buffer limit (offset + 1)
  else
    []
termination_by limit - offset

/-- The greedy windows below `limit`. -/
def greedy (old buffer : List α) (limit : Nat) : List Nat :=
  greedyFrom old buffer limit 0

theorem greedyFrom_of_le {old buffer : List α} {limit offset : Nat} (le : limit ≤ offset) :
    greedyFrom old buffer limit offset = [] := by
  rw [greedyFrom, if_neg (by omega)]

theorem greedyFrom_of_occurs {old buffer : List α} {limit offset : Nat}
    (nonempty : 0 < old.length) (below : offset < limit) (occurs : OccursAt old buffer offset) :
    greedyFrom old buffer limit offset =
      offset :: greedyFrom old buffer limit (offset + old.length) := by
  rw [greedyFrom, if_pos below, if_pos occurs, Nat.max_eq_right nonempty]

theorem greedyFrom_of_not_occurs {old buffer : List α} {limit offset : Nat}
    (below : offset < limit) (absent : ¬ OccursAt old buffer offset) :
    greedyFrom old buffer limit offset = greedyFrom old buffer limit (offset + 1) := by
  rw [greedyFrom, if_pos below, if_neg absent]

/--
No occurrence of the old word straddles the end of a greedily replaced window:
the new word followed by what comes behind the window does not contain it.
-/
def RescanFree (old new buffer : List α) (limit : Nat) : Prop :=
  ∀ offset ∈ greedy old buffer limit, ∀ shift, 0 < shift → shift < old.length →
    offset + shift < limit →
      ¬ OccursAt old (new ++ buffer.drop (offset + old.length)) shift

/-! ## In-place scanning follows the greedy reference -/

/--
The first `reached` visits have followed the greedy reference: they wrote
disjoint windows, and the reference continues at `next`, the first offset that
is neither visited nor covered by a written window.
-/
structure Follows (old new buffer : List α) (limit reached next : Nat) : Prop where
  ahead : reached ≤ next
  covered : ∀ offset ∈ (scan old new buffer reached).written, offset + old.length ≤ next
  resumes : next = reached ∨
    ∃ offset ∈ (scan old new buffer reached).written, next = offset + old.length
  disjoint : WindowsDisjoint old.length (scan old new buffer reached).written
  greedy_eq : (scan old new buffer reached).written ++ greedyFrom old buffer limit next =
    greedy old buffer limit

namespace Follows

theorem start (old new buffer : List α) (limit : Nat) : Follows old new buffer limit 0 0 where
  ahead := Nat.le_refl 0
  covered := fun _ member => nomatch member
  resumes := Or.inl rfl
  disjoint := List.Pairwise.nil
  greedy_eq := rfl

section Widths

variable {old new buffer : List α} {limit reached next : Nat}
variable (nonempty : 0 < old.length) (lengths : new.length = old.length)
include nonempty lengths

/-- Behind the last covered offset the buffer is still the original one. -/
theorem untouched (follows : Follows old new buffer limit reached next) (index : Nat)
    (le : next ≤ index) : (scan old new buffer reached).buffer[index]? = buffer[index]? := by
  rw [scan_buffer]
  apply getElem?_replaceAt_outside (written_fits nonempty lengths buffer reached)
  intro offset member
  rw [lengths]
  exact Or.inr (Nat.le_trans (follows.covered offset member) le)

/-- From the last written window on, the buffer reads as the new word and the original rest. -/
theorem view (follows : Follows old new buffer limit reached next) {offset shift : Nat}
    (member : offset ∈ (scan old new buffer reached).written) (last : next = offset + old.length) :
    OccursAt old (scan old new buffer reached).buffer (offset + shift) ↔
      OccursAt old (new ++ buffer.drop (offset + old.length)) shift := by
  have entries (index : Nat) : (scan old new buffer reached).buffer[offset + index]? =
      (new ++ buffer.drop (offset + old.length))[index]? := by
    by_cases inside : index < new.length
    · rw [List.getElem?_append_left inside, scan_buffer]
      have disjoint := follows.disjoint
      rw [← lengths] at disjoint
      have held := occursAt_replaceAt (written_fits nonempty lengths buffer reached) disjoint member
      exact occursAt_iff.mp held index inside
    · rw [List.getElem?_append_right (Nat.not_lt.mp inside), List.getElem?_drop,
        follows.untouched nonempty lengths (offset + index) (by omega)]
      congr 1
      omega
  apply occursAt_congr
  intro index _
  rw [Nat.add_assoc]
  exact entries (shift + index)

omit nonempty lengths in
/-- A visit inside a written window that finds nothing leaves the reference where it is. -/
theorem step_covered (follows : Follows old new buffer limit reached next) (covered : reached < next)
    (absent : ¬ OccursAt old (scan old new buffer reached).buffer reached) :
    Follows old new buffer limit (reached + 1) next := by
  have same : scan old new buffer (reached + 1) = scan old new buffer reached :=
    visit_of_not_occurs absent
  constructor
  · exact covered
  · rw [same]
    exact follows.covered
  · rw [same]
    exact Or.inr (follows.resumes.resolve_left (Nat.ne_of_gt covered))
  · rw [same]
    exact follows.disjoint
  · rw [same]
    exact follows.greedy_eq

/-- At the front, the buffer reads like the original one. -/
theorem occursAt_front (follows : Follows old new buffer limit reached reached) :
    OccursAt old (scan old new buffer reached).buffer reached ↔ OccursAt old buffer reached := by
  apply occursAt_congr
  intro index _
  exact follows.untouched nonempty lengths _ (Nat.le_add_right _ _)

/-- A visit at the front that finds the old word takes the same window as the reference. -/
theorem step_taken (follows : Follows old new buffer limit reached reached)
    (below : reached < limit) (occurs : OccursAt old (scan old new buffer reached).buffer reached) :
    Follows old new buffer limit (reached + 1) (reached + old.length) := by
  have written : (scan old new buffer (reached + 1)).written =
      (scan old new buffer reached).written ++ [reached] := by
    rw [scan, visit_of_occurs occurs]
  constructor
  · omega
  · rw [written]
    intro offset member
    rcases List.mem_append.mp member with earlier | here
    · exact Nat.le_trans (follows.covered offset earlier) (Nat.le_add_right _ _)
    · rw [List.mem_singleton.mp here]
  · rw [written]
    exact Or.inr ⟨reached, List.mem_append_right _ (List.mem_singleton_self _), rfl⟩
  · rw [written]
    refine List.pairwise_append.mpr ⟨follows.disjoint, List.pairwise_singleton _ _, ?_⟩
    intro offset earlier last here
    rw [List.mem_singleton.mp here]
    exact Or.inl (follows.covered offset earlier)
  · have original := (follows.occursAt_front nonempty lengths).mp occurs
    have greedy_eq := follows.greedy_eq
    rw [greedyFrom_of_occurs nonempty below original] at greedy_eq
    rw [written, List.append_assoc]
    exact greedy_eq

/-- A visit at the front that finds nothing moves the front. -/
theorem step_skipped (follows : Follows old new buffer limit reached reached)
    (below : reached < limit)
    (absent : ¬ OccursAt old (scan old new buffer reached).buffer reached) :
    Follows old new buffer limit (reached + 1) (reached + 1) := by
  have same : scan old new buffer (reached + 1) = scan old new buffer reached :=
    visit_of_not_occurs absent
  constructor
  · exact Nat.le_refl _
  · rw [same]
    intro offset member
    exact Nat.le_succ_of_le (follows.covered offset member)
  · exact Or.inl rfl
  · rw [same]
    exact follows.disjoint
  · rw [same, ← greedyFrom_of_not_occurs below
      (fun found => absent ((follows.occursAt_front nonempty lengths).mpr found))]
    exact follows.greedy_eq

/--
One visit keeps following the reference, provided a visit inside a written
window does not find the old word again.
-/
theorem step (follows : Follows old new buffer limit reached next) (below : reached < limit)
    (clean : reached < next → ¬ OccursAt old (scan old new buffer reached).buffer reached) :
    ∃ after, Follows old new buffer limit (reached + 1) after := by
  rcases Nat.lt_or_eq_of_le follows.ahead with covered | rfl
  · exact ⟨next, follows.step_covered covered (clean covered)⟩
  · by_cases occurs : OccursAt old (scan old new buffer reached).buffer reached
    · exact ⟨reached + old.length, follows.step_taken nonempty lengths below occurs⟩
    · exact ⟨reached + 1, follows.step_skipped nonempty lengths below occurs⟩

/-- Without rescanned occurrences every number of visits follows the reference. -/
theorem run (clean : ∀ reached < limit, ∀ next, Follows old new buffer limit reached next →
      reached < next → ¬ OccursAt old (scan old new buffer reached).buffer reached) :
    ∀ reached ≤ limit, ∃ next, Follows old new buffer limit reached next := by
  intro reached
  induction reached with
  | zero => exact fun _ => ⟨0, start old new buffer limit⟩
  | succ reached ih =>
      intro le
      obtain ⟨next, follows⟩ := ih (Nat.le_of_succ_le le)
      exact follows.step nonempty lengths le (clean reached le next follows)

/-- A reference without straddling occurrences leaves nothing to rescan. -/
theorem clean_of_rescanFree (free : RescanFree old new buffer limit)
    (follows : Follows old new buffer limit reached next) (below : reached < limit)
    (covered : reached < next) :
    ¬ OccursAt old (scan old new buffer reached).buffer reached := by
  obtain ⟨offset, member, last⟩ := follows.resumes.resolve_left (Nat.ne_of_gt covered)
  have before := lt_of_mem_written member
  have taken : offset ∈ greedy old buffer limit := by
    rw [← follows.greedy_eq]
    exact List.mem_append_left _ member
  have absent := free offset taken (reached - offset) (by omega) (by omega) (by omega)
  rw [← follows.view nonempty lengths member last] at absent
  rwa [Nat.add_sub_cancel' (Nat.le_of_lt before)] at absent

end Widths

/-- Disjoint windows leave nothing to rescan. -/
theorem clean_of_disjoint {old new buffer : List α} {limit reached next : Nat}
    (disjoint : WindowsDisjoint old.length (scan old new buffer limit).written)
    (follows : Follows old new buffer limit reached next) (below : reached < limit)
    (covered : reached < next) :
    ¬ OccursAt old (scan old new buffer reached).buffer reached := by
  intro occurs
  obtain ⟨offset, member, last⟩ := follows.resumes.resolve_left (Nat.ne_of_gt covered)
  have before := lt_of_mem_written member
  have first := (written_extends old new buffer (Nat.le_of_lt below)).subset member
  have second := (mem_written_iff below).mpr occurs
  have apart := disjoint.apart first second (Nat.ne_of_lt before)
  omega

/-- A finished scan that follows the reference wrote exactly the greedy windows. -/
theorem written_eq {old new buffer : List α} {limit next : Nat}
    (follows : Follows old new buffer limit limit next) :
    (scan old new buffer limit).written = greedy old buffer limit := by
  rw [← follows.greedy_eq, greedyFrom_of_le follows.ahead, List.append_nil]

end Follows

/-! ## Exact agreement -/

section Widths

variable {old new : List α} (nonempty : 0 < old.length) (lengths : new.length = old.length)
include nonempty lengths

theorem written_eq_greedy {buffer : List α} {limit : Nat} (free : RescanFree old new buffer limit) :
    (scan old new buffer limit).written = greedy old buffer limit := by
  obtain ⟨next, follows⟩ := Follows.run nonempty lengths
    (fun reached below next follows covered =>
      follows.clean_of_rescanFree nonempty lengths free below covered) limit (Nat.le_refl _)
  exact follows.written_eq

/-- The in-place scan writes disjoint windows exactly when nothing is rescanned. -/
theorem windowsDisjoint_iff {buffer : List α} {limit : Nat} :
    WindowsDisjoint old.length (scan old new buffer limit).written ↔
      RescanFree old new buffer limit := by
  constructor
  · intro disjoint
    have followed := Follows.run nonempty lengths
      (fun reached below next follows covered =>
        follows.clean_of_disjoint disjoint below covered)
    obtain ⟨_, finished⟩ := followed limit (Nat.le_refl _)
    intro offset taken shift positive short below
    rw [← finished.written_eq] at taken
    obtain ⟨next, follows⟩ := followed (offset + shift) (Nat.le_of_lt below)
    have occurs := (mem_written_iff (by omega)).mp taken
    have member : offset ∈ (scan old new buffer (offset + shift)).written :=
      (mem_written_iff (by omega)).mpr occurs
    have covered := follows.covered offset member
    have last : next = offset + old.length := by
      obtain ⟨other, otherMember, otherLast⟩ := follows.resumes.resolve_left (by omega)
      by_contra different
      have apart := follows.disjoint.apart member otherMember (by
        rintro rfl
        exact different otherLast)
      have := lt_of_mem_written otherMember
      omega
    rw [← follows.view nonempty lengths member last]
    exact follows.clean_of_disjoint disjoint below (by omega)
  · intro free
    obtain ⟨_, follows⟩ := Follows.run nonempty lengths
      (fun reached below next follows covered =>
        follows.clean_of_rescanFree nonempty lengths free below covered) limit (Nat.le_refl _)
    exact follows.disjoint

end Widths

end Words
