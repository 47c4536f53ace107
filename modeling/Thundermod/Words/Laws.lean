import Thundermod.Words.Greedy

/-!
# Laws of in-place scanning

Three laws about whole scans: what is left of the old word, when two scans
commute, and when a second scan restores the buffer.  Each reduces to what one
visit can do to the occurrences of a word.
-/

namespace Words

variable {α : Type*} [DecidableEq α]

/-! ## The greedy windows are occurrences -/

theorem mem_greedyFrom {old buffer : List α} {limit offset taken : Nat}
    (member : taken ∈ greedyFrom old buffer limit offset) :
    taken < limit ∧ OccursAt old buffer taken := by
  fun_induction greedyFrom old buffer limit offset with
  | case1 offset below occurs ih =>
      rcases List.mem_cons.mp member with rfl | later
      · exact ⟨below, occurs⟩
      · exact ih later
  | case2 offset below absent ih => exact ih member
  | case3 offset above => cases member

/-- Every greedy window held the old word in the original buffer. -/
theorem occursAt_of_mem_greedy {old buffer : List α} {limit taken : Nat}
    (member : taken ∈ greedy old buffer limit) : OccursAt old buffer taken :=
  (mem_greedyFrom member).2

section Widths

variable {old new : List α} (nonempty : 0 < old.length) (lengths : new.length = old.length)

/-- Words that do not straddle never make the scan find anything again. -/
theorem rescanFree_of_not_straddles (lengths : new.length = old.length)
    (apart : ¬ Straddles new old) (buffer : List α) (limit : Nat) :
    RescanFree old new buffer limit := by
  intro offset _ shift positive short _ occurs
  apply apart
  have here : OccursAt new (new ++ buffer.drop (offset + old.length)) 0 := by
    simp [OccursAt]
  exact straddles_of_occursAt lengths here occurs positive (by omega)

include nonempty lengths

/-! ## What is left of the old word -/

/-- An occurrence of the old word that survives a scan was never visited. -/
theorem limit_le_of_occursAt_scan (different : old ≠ new)
    (oldNew : ¬ Straddles old new) (newOld : ¬ Straddles new old)
    {buffer : List α} {limit offset : Nat}
    (occurs : OccursAt old (scan old new buffer limit).buffer offset) : limit ≤ offset := by
  by_contra below
  have disjoint := (windowsDisjoint_iff nonempty lengths).mpr
    (rescanFree_of_not_straddles lengths newOld buffer limit)
  have fits := written_fits nonempty lengths buffer limit
  rw [← lengths] at disjoint
  have held {window : Nat} (member : window ∈ (scan old new buffer limit).written) :
      OccursAt new (scan old new buffer limit).buffer window := by
    rw [scan_buffer]
    exact occursAt_replaceAt fits disjoint member
  have apart (window : Nat) (member : window ∈ (scan old new buffer limit).written) :
      offset + old.length ≤ window ∨ window + new.length ≤ offset := by
    have := occurs.apart lengths.symm different oldNew newOld (held member)
    omega
  have earlier : OccursAt old (scan old new buffer offset).buffer offset := by
    refine (occursAt_congr fun index inside => ?_).mp occurs
    have before := written_extends old new buffer (Nat.le_of_not_le below)
    rw [scan_buffer, scan_buffer, getElem?_replaceAt_outside fits,
      getElem?_replaceAt_outside (written_fits nonempty lengths buffer offset)]
    · intro window member
      have := apart window (before.subset member)
      omega
    · intro window member
      have := apart window member
      omega
  have member := (mem_written_iff (Nat.lt_of_not_le below)).mpr earlier
  have := apart offset member
  omega

/--
Nothing of the old word is left and the scan reports it faithfully, if and only
if the greedy substitution over one offset more does not take that last offset.
-/
theorem scan_complete_iff (different : old ≠ new)
    (oldNew : ¬ Straddles old new) (newOld : ¬ Straddles new old)
    (buffer : List α) (limit : Nat) :
    ((∀ offset ≤ limit, ¬ OccursAt old (scan old new buffer limit).buffer offset) ∧
        ((scan old new buffer limit).written ≠ [] ↔
          ∃ offset ≤ limit, OccursAt old buffer offset)) ↔
      limit ∉ greedy old buffer (limit + 1) := by
  have last : limit ∈ greedy old buffer (limit + 1) ↔
      OccursAt old (scan old new buffer limit).buffer limit := by
    rw [← written_eq_greedy nonempty lengths
      (rescanFree_of_not_straddles lengths newOld buffer (limit + 1))]
    exact mem_written_iff (Nat.lt_succ_self limit)
  rw [last]
  constructor
  · intro complete
    exact complete.1 limit (Nat.le_refl limit)
  · intro absent
    have clean : ∀ offset ≤ limit, ¬ OccursAt old (scan old new buffer limit).buffer offset := by
      intro offset le occurs
      have reached := limit_le_of_occursAt_scan nonempty lengths different oldNew newOld occurs
      rw [Nat.le_antisymm le reached] at occurs
      exact absent occurs
    refine ⟨clean, ?_, ?_⟩
    · intro some
      obtain ⟨offset, member⟩ := List.exists_mem_of_ne_nil _ some
      have taken := member
      rw [written_eq_greedy nonempty lengths
        (rescanFree_of_not_straddles lengths newOld buffer limit)] at taken
      exact ⟨offset, Nat.le_of_lt (lt_of_mem_written member), occursAt_of_mem_greedy taken⟩
    · rintro ⟨offset, le, occurs⟩ none
      apply clean offset le
      rw [scan_buffer, none]
      exact occurs

/-! ## Undoing a scan -/

omit [DecidableEq α] nonempty lengths in
theorem filter_le_succ (windows : List Nat) (reached : Nat) :
    (windows.filter (reached ≤ ·)).filter (· ≠ reached) = windows.filter (reached + 1 ≤ ·) := by
  rw [List.filter_filter]
  apply List.filter_congr
  intro other _
  rw [Bool.eq_iff_iff, Bool.and_eq_true]
  simp only [decide_eq_true_eq]
  omega

omit [DecidableEq α] nonempty lengths in
theorem filter_le_succ_of_not_mem {windows : List Nat} {reached : Nat}
    (absent : reached ∉ windows.filter (reached ≤ ·)) :
    windows.filter (reached ≤ ·) = windows.filter (reached + 1 ≤ ·) := by
  rw [← filter_le_succ]
  refine (List.filter_eq_self.mpr ?_).symm
  intro other member
  refine decide_eq_true ?_
  rintro rfl
  exact absent member

omit nonempty in
/-- After `reached` visits of the way back exactly the windows below `reached` are restored. -/
theorem scan_replaceAt (newNew : ¬ Straddles new new) {buffer : List α} {windows : List Nat}
    (foreign : ∀ offset, ¬ OccursAt new buffer offset) (fits : Fits new.length buffer windows)
    (disjoint : WindowsDisjoint new.length windows)
    (original : ∀ offset ∈ windows, OccursAt old buffer offset) (reached : Nat) :
    (scan new old (replaceAt new buffer windows) reached).buffer =
      replaceAt new buffer (windows.filter (reached ≤ ·)) := by
  induction reached with
  | zero => simp [scan]
  | succ reached ih =>
      have fitsRest : Fits new.length buffer (windows.filter (reached ≤ ·)) :=
        fun other inside => fits other (List.mem_filter.mp inside).1
      have disjointRest : WindowsDisjoint new.length (windows.filter (reached ≤ ·)) :=
        disjoint.sublist List.filter_sublist
      have found : OccursAt new (replaceAt new buffer (windows.filter (reached ≤ ·))) reached ↔
          reached ∈ windows.filter (reached ≤ ·) :=
        occursAt_replaceAt_iff foreign newNew fitsRest disjointRest
      rw [scan]
      by_cases member : reached ∈ windows.filter (reached ≤ ·)
      · rw [visit_of_occurs (by rw [ih]; exact found.mpr member)]
        change overwrite _ reached old = _
        rw [ih, overwrite_replaceAt lengths fitsRest disjointRest member
          (original reached (List.mem_filter.mp member).1), filter_le_succ]
      · rw [visit_of_not_occurs (by rw [ih]; exact fun occurs => member (found.mp occurs)), ih,
          filter_le_succ_of_not_mem member]

/--
Scanning back restores the buffer: the second scan finds exactly the windows the
first one wrote, and never its own output.
-/
theorem scan_scan_cancel (newNew : ¬ Straddles new new) (newOld : ¬ Straddles new old)
    {buffer : List α} (foreign : ∀ offset, ¬ OccursAt new buffer offset) (limit : Nat) :
    (scan new old (scan old new buffer limit).buffer limit).buffer = buffer := by
  have free := rescanFree_of_not_straddles lengths newOld buffer limit
  have fits := written_fits nonempty lengths buffer limit
  have disjoint := (windowsDisjoint_iff nonempty lengths).mpr free
  rw [← lengths] at disjoint
  have original (offset : Nat) (member : offset ∈ (scan old new buffer limit).written) :
      OccursAt old buffer offset := by
    rw [written_eq_greedy nonempty lengths free] at member
    exact occursAt_of_mem_greedy member
  have finished : (scan old new buffer limit).written.filter (limit ≤ ·) = [] := by
    refine List.filter_eq_nil_iff.mpr ?_
    intro offset member
    have below := lt_of_mem_written member
    simp only [decide_eq_true_eq]
    omega
  rw [scan_buffer old new buffer limit,
    scan_replaceAt lengths newNew foreign fits disjoint original, finished]
  rfl

end Widths

/-! ## Commuting scans -/

/-- What one visit does to the buffer. -/
def rewriteAt (old new : List α) (offset : Nat) (buffer : List α) : List α :=
  if OccursAt old buffer offset then overwrite buffer offset new else buffer

theorem scan_succ_buffer (old new buffer : List α) (limit : Nat) :
    (scan old new buffer (limit + 1)).buffer =
      rewriteAt old new limit (scan old new buffer limit).buffer := by
  rw [scan, visit, rewriteAt]
  split <;> rfl

/--
Two substitutions are unrelated when neither old word is the other's old or new
word, and no member of one pair straddles a member of the other.
-/
structure Unrelated (old₁ new₁ old₂ new₂ : List α) : Prop where
  old_ne_old : old₁ ≠ old₂
  old_ne_new : old₁ ≠ new₂
  new_ne_old : old₂ ≠ new₁
  forward : ∀ left ∈ [old₁, new₁], ∀ right ∈ [old₂, new₂], ¬ Straddles left right
  backward : ∀ left ∈ [old₁, new₁], ∀ right ∈ [old₂, new₂], ¬ Straddles right left

instance (old₁ new₁ old₂ new₂ : List α) : Decidable (Unrelated old₁ new₁ old₂ new₂) :=
  decidable_of_iff
    ((old₁ ≠ old₂ ∧ old₁ ≠ new₂ ∧ old₂ ≠ new₁) ∧
      (∀ left ∈ [old₁, new₁], ∀ right ∈ [old₂, new₂], ¬ Straddles left right) ∧
      ∀ left ∈ [old₁, new₁], ∀ right ∈ [old₂, new₂], ¬ Straddles right left)
    ⟨fun ⟨⟨olds, oldNew, newOld⟩, forward, backward⟩ =>
        ⟨olds, oldNew, newOld, forward, backward⟩,
      fun unrelated => ⟨⟨unrelated.old_ne_old, unrelated.old_ne_new, unrelated.new_ne_old⟩,
        unrelated.forward, unrelated.backward⟩⟩

omit [DecidableEq α] in
theorem Unrelated.symm {old₁ new₁ old₂ new₂ : List α} (unrelated : Unrelated old₁ new₁ old₂ new₂) :
    Unrelated old₂ new₂ old₁ new₁ where
  old_ne_old := unrelated.old_ne_old.symm
  old_ne_new := unrelated.new_ne_old
  new_ne_old := unrelated.old_ne_new
  forward := fun left hleft right hright => unrelated.backward right hright left hleft
  backward := fun left hleft right hright => unrelated.forward right hright left hleft

/-- Visits that leave each other's old word where it is, or is not, commute. -/
theorem rewriteAt_comm_of_kept {old₁ new₁ old₂ new₂ buffer : List α} {first second : Nat}
    (nonempty₁ : 0 < old₁.length) (nonempty₂ : 0 < old₂.length)
    (lengths₁ : new₁.length = old₁.length) (lengths₂ : new₂.length = old₂.length)
    (keepsFirst : OccursAt old₁ (rewriteAt old₂ new₂ second buffer) first ↔
      OccursAt old₁ buffer first)
    (keepsSecond : OccursAt old₂ (rewriteAt old₁ new₁ first buffer) second ↔
      OccursAt old₂ buffer second)
    (apart : OccursAt old₁ buffer first → OccursAt old₂ buffer second →
      first + old₁.length ≤ second ∨ second + old₂.length ≤ first) :
    rewriteAt old₂ new₂ second (rewriteAt old₁ new₁ first buffer) =
      rewriteAt old₁ new₁ first (rewriteAt old₂ new₂ second buffer) := by
  by_cases occursFirst : OccursAt old₁ buffer first
  · by_cases occursSecond : OccursAt old₂ buffer second
    · have disjoint := apart occursFirst occursSecond
      have roomFirst := occursFirst.le_length nonempty₁
      have roomSecond := occursSecond.le_length nonempty₂
      rw [rewriteAt, if_pos (keepsSecond.mpr occursSecond), rewriteAt, if_pos occursFirst,
        rewriteAt, if_pos (keepsFirst.mpr occursFirst), rewriteAt, if_pos occursSecond]
      exact overwrite_comm (by omega) (by omega) (by omega)
    · rw [rewriteAt, if_neg (fun occurs => occursSecond (keepsSecond.mp occurs)),
        rewriteAt.eq_1 old₂, if_neg occursSecond]
  · rw [rewriteAt.eq_1 old₁ new₁ first buffer, if_neg occursFirst, rewriteAt.eq_1 old₁,
      if_neg (fun occurs => occursFirst (keepsFirst.mp occurs))]

section Commuting

variable {old₁ new₁ old₂ new₂ : List α}
variable (nonempty : 0 < old₁.length) (lengths : old₂.length = old₁.length)
variable (lengths₁ : new₁.length = old₁.length) (lengths₂ : new₂.length = old₁.length)
variable (unrelated : Unrelated old₁ new₁ old₂ new₂)
include nonempty lengths lengths₂ unrelated

/-- A visit of the second scan leaves every occurrence of the first old word as it is. -/
theorem occursAt_rewriteAt_iff (buffer : List α) (offset target : Nat) :
    OccursAt old₁ (rewriteAt old₂ new₂ target buffer) offset ↔ OccursAt old₁ buffer offset := by
  rw [rewriteAt]
  split
  · next occurs =>
      refine occursAt_overwrite_iff (lengths ▸ nonempty) lengths.symm (lengths₂.trans lengths.symm)
        occurs unrelated.old_ne_old unrelated.old_ne_new ?_ ?_ ?_ ?_
      · exact unrelated.forward old₁ (by simp) old₂ (by simp)
      · exact unrelated.backward old₁ (by simp) old₂ (by simp)
      · exact unrelated.forward old₁ (by simp) new₂ (by simp)
      · exact unrelated.backward old₁ (by simp) new₂ (by simp)
  · exact Iff.rfl

/-- A whole second scan leaves every occurrence of the first old word as it is. -/
theorem occursAt_scan_iff (buffer : List α) (limit offset : Nat) :
    OccursAt old₁ (scan old₂ new₂ buffer limit).buffer offset ↔ OccursAt old₁ buffer offset := by
  induction limit with
  | zero => exact Iff.rfl
  | succ limit ih =>
      rw [scan_succ_buffer, occursAt_rewriteAt_iff nonempty lengths lengths₂ unrelated, ih]

include lengths₁

/-- Single visits of unrelated scans commute, wherever they look. -/
theorem rewriteAt_comm (buffer : List α) (first second : Nat) :
    rewriteAt old₂ new₂ second (rewriteAt old₁ new₁ first buffer) =
      rewriteAt old₁ new₁ first (rewriteAt old₂ new₂ second buffer) := by
  refine rewriteAt_comm_of_kept nonempty (lengths ▸ nonempty) lengths₁ (lengths₂.trans lengths.symm)
    (occursAt_rewriteAt_iff nonempty lengths lengths₂ unrelated buffer first second)
    (occursAt_rewriteAt_iff (lengths ▸ nonempty) lengths.symm (lengths₁.trans lengths.symm)
      unrelated.symm buffer second first) ?_
  intro occursFirst occursSecond
  rw [lengths]
  exact occursFirst.apart lengths.symm unrelated.old_ne_old
    (unrelated.forward old₁ (by simp) old₂ (by simp))
    (unrelated.backward old₁ (by simp) old₂ (by simp)) occursSecond

/-- One visit of the second scan can be moved in front of the whole first scan. -/
theorem rewriteAt_scan (buffer : List α) (limit second : Nat) :
    rewriteAt old₂ new₂ second (scan old₁ new₁ buffer limit).buffer =
      (scan old₁ new₁ (rewriteAt old₂ new₂ second buffer) limit).buffer := by
  induction limit with
  | zero => rfl
  | succ limit ih =>
      rw [scan_succ_buffer, scan_succ_buffer,
        rewriteAt_comm nonempty lengths lengths₁ lengths₂ unrelated, ih]

/-- Scans of unrelated substitutions commute. -/
theorem scan_comm (buffer : List α) (first second : Nat) :
    (scan old₂ new₂ (scan old₁ new₁ buffer first).buffer second).buffer =
      (scan old₁ new₁ (scan old₂ new₂ buffer second).buffer first).buffer := by
  induction second with
  | zero => rfl
  | succ second ih =>
      rw [scan_succ_buffer, scan_succ_buffer, ih,
        rewriteAt_scan nonempty lengths lengths₁ lengths₂ unrelated]

/-- A preceding unrelated scan does not change where a scan writes. -/
theorem written_scan_comm (buffer : List α) (first second : Nat) :
    (scan old₁ new₁ (scan old₂ new₂ buffer second).buffer first).written =
      (scan old₁ new₁ buffer first).written := by
  induction first with
  | zero => rfl
  | succ first ih =>
      have kept : OccursAt old₁ (scan old₁ new₁ (scan old₂ new₂ buffer second).buffer first).buffer
          first ↔ OccursAt old₁ (scan old₁ new₁ buffer first).buffer first := by
        rw [← scan_comm nonempty lengths lengths₁ lengths₂ unrelated]
        exact occursAt_scan_iff nonempty lengths lengths₂ unrelated _ _ _
      rw [scan, scan]
      by_cases occurs : OccursAt old₁ (scan old₁ new₁ buffer first).buffer first
      · rw [visit_of_occurs occurs, visit_of_occurs (kept.mpr occurs), ih]
      · rw [visit_of_not_occurs occurs,
          visit_of_not_occurs (fun found => occurs (kept.mp found)), ih]

end Commuting

end Words
