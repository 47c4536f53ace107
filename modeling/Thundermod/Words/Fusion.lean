import Thundermod.Words.Laws

/-!
# Substitutions that fuse

A word that is written may end with the first entries of a word that is searched for
later.  Where the rest of that word happens to follow, the two substitutions do not
commute.  Everywhere else they do.
-/

namespace Words

variable {α : Type*}

/-! ## Words that never meet -/

/-- Occurrences of the two words never share an entry of a buffer. -/
structure NeverMeet (left right : List α) : Prop where
  forward : ¬ Straddles left right
  backward : ¬ Straddles right left
  notInside : ¬ left <:+: right
  notAround : ¬ right <:+: left

instance [DecidableEq α] (left right : List α) : Decidable (NeverMeet left right) :=
  decidable_of_iff
    (¬ Straddles left right ∧ ¬ Straddles right left ∧ ¬ left <:+: right ∧ ¬ right <:+: left)
    ⟨fun ⟨forward, backward, notInside, notAround⟩ => ⟨forward, backward, notInside, notAround⟩,
      fun never => ⟨never.forward, never.backward, never.notInside, never.notAround⟩⟩

theorem NeverMeet.symm {left right : List α} (never : NeverMeet left right) :
    NeverMeet right left :=
  ⟨never.backward, never.forward, never.notAround, never.notInside⟩

variable {left right buffer : List α} {first second : Nat}

/-- What is left of an occurrence behind the start of a longer one is a prefix of it. -/
theorem drop_isPrefix_of_occursAt (occursLeft : OccursAt left buffer first)
    (occursRight : OccursAt right buffer second) (lower : first ≤ second)
    (reaches : first + left.length ≤ second + right.length) :
    left.drop (second - first) <+: right := by
  have shared : left.drop (second - first) = right.take (left.length - (second - first)) := by
    apply List.ext_getElem?
    intro index
    rw [List.getElem?_drop]
    by_cases inside : index < left.length - (second - first)
    · rw [List.getElem?_take_of_lt inside]
      have readLeft := occursLeft.getElem? (second + index) (by omega) (by omega)
      have readRight := occursRight.getElem? (second + index) (by omega) (by omega)
      rw [Nat.add_sub_cancel_left] at readRight
      rw [← readRight, readLeft]
      congr 1
      omega
    · rw [List.getElem?_eq_none (by omega), List.getElem?_eq_none (by simp; omega)]
  rw [shared]
  exact List.take_prefix _ _

/-- An occurrence inside of another one is part of its word. -/
theorem isInfix_of_occursAt (occursLeft : OccursAt left buffer first)
    (occursRight : OccursAt right buffer second) (lower : first ≤ second)
    (inside : second + right.length ≤ first + left.length) : right <:+: left := by
  have part : right = (left.drop (second - first)).take right.length := by
    apply List.ext_getElem?
    intro index
    by_cases within : index < right.length
    · have readLeft := occursLeft.getElem? (second + index) (by omega) (by omega)
      have readRight := occursRight.getElem? (second + index) (by omega) (by omega)
      rw [Nat.add_sub_cancel_left] at readRight
      rw [List.getElem?_take_of_lt within, List.getElem?_drop, ← readRight, readLeft]
      congr 1
      omega
    · rw [List.getElem?_eq_none (by omega), List.getElem?_eq_none (by simp; omega)]
  rw [part]
  exact (List.take_prefix _ _).isInfix.trans (List.drop_suffix _ _).isInfix

theorem NeverMeet.apart_of_le (never : NeverMeet left right)
    (occursLeft : OccursAt left buffer first) (occursRight : OccursAt right buffer second)
    (lower : first ≤ second) : first + left.length ≤ second := by
  by_contra overlap
  by_cases inside : second + right.length ≤ first + left.length
  · exact never.notAround (isInfix_of_occursAt occursLeft occursRight lower inside)
  · have isPrefix := drop_isPrefix_of_occursAt occursLeft occursRight lower (by omega)
    by_cases same : first = second
    · rw [same, Nat.sub_self, List.drop_zero] at isPrefix
      exact never.notInside isPrefix.isInfix
    · exact never.forward (straddles_iff.mpr ⟨second - first, by omega, by omega, isPrefix⟩)

/-- Occurrences of words that never meet lie apart. -/
theorem NeverMeet.apart (never : NeverMeet left right) (occursLeft : OccursAt left buffer first)
    (occursRight : OccursAt right buffer second) :
    first + left.length ≤ second ∨ second + right.length ≤ first := by
  rcases Nat.le_total first second with lower | lower
  · exact Or.inl (never.apart_of_le occursLeft occursRight lower)
  · exact Or.inr (never.symm.apart_of_le occursRight occursLeft lower)

/-- A word occurs if its two parts occur one behind the other. -/
theorem occursAt_append {front back : List α} :
    OccursAt (front ++ back) buffer first ↔
      OccursAt front buffer first ∧ OccursAt back buffer (first + front.length) := by
  simp only [occursAt_iff, List.length_append]
  constructor
  · intro whole
    constructor
    · intro index inside
      rw [whole index (by omega), List.getElem?_append_left inside]
    · intro index inside
      have entry := whole (front.length + index) (by omega)
      rwa [List.getElem?_append_right (by omega), Nat.add_sub_cancel_left, ← Nat.add_assoc] at entry
  · rintro ⟨before, behind⟩ index inside
    by_cases early : index < front.length
    · rw [before index early, List.getElem?_append_left early]
    · have entry := behind (index - front.length) (by omega)
      rw [List.getElem?_append_right (by omega), ← entry]
      congr 1
      omega

/-- A word occurs if the two parts into which it is cut do. -/
theorem occursAt_cut {word : List α} {count : Nat} (inside : count ≤ word.length) :
    OccursAt word buffer first ↔
      OccursAt (word.take count) buffer first ∧
        OccursAt (word.drop count) buffer (first + count) := by
  have cut := @occursAt_append _ buffer first (word.take count) (word.drop count)
  rwa [List.take_append_drop, List.length_take, Nat.min_eq_left inside] at cut

/-! ## Visits -/

variable [DecidableEq α] {word old new : List α} {offset target limit : Nat}

section Widths

variable (nonempty : 0 < old.length) (lengths : new.length = old.length)
include nonempty lengths

/-- A visit changes nothing outside of its window. -/
theorem occursAt_rewriteAt_of_apart
    (apart : OccursAt old buffer target →
      offset + word.length ≤ target ∨ target + old.length ≤ offset) :
    OccursAt word (rewriteAt old new target buffer) offset ↔ OccursAt word buffer offset := by
  unfold rewriteAt
  split
  · next occurs =>
      have room := occurs.le_length nonempty
      exact occursAt_overwrite_of_apart (by omega) (by have := apart occurs; omega)
  · exact Iff.rfl

theorem NeverMeet.kept (never : NeverMeet word old) (occurs : OccursAt word buffer offset) :
    OccursAt word (rewriteAt old new target buffer) offset :=
  (occursAt_rewriteAt_of_apart nonempty lengths fun found => never.apart occurs found).mpr occurs

theorem NeverMeet.kept_scan (never : NeverMeet word old) (occurs : OccursAt word buffer offset) :
    OccursAt word (scan old new buffer limit).buffer offset := by
  induction limit with
  | zero => exact occurs
  | succ limit ih =>
      rw [scan_succ_buffer]
      exact never.kept nonempty lengths ih

/-- A word that never meets the new one is not produced by a visit. -/
theorem NeverMeet.not_new (never : NeverMeet word new)
    (occurs : OccursAt word (rewriteAt old new target buffer) offset) :
    OccursAt word buffer offset := by
  refine (occursAt_rewriteAt_of_apart nonempty lengths fun found => ?_).mp occurs
  have room := found.le_length nonempty
  rw [rewriteAt, if_pos found] at occurs
  have apart := never.apart occurs (occursAt_overwrite_self (by omega))
  omega

theorem NeverMeet.not_new_scan (never : NeverMeet word new)
    (occurs : OccursAt word (scan old new buffer limit).buffer offset) :
    OccursAt word buffer offset := by
  induction limit with
  | zero => exact occurs
  | succ limit ih =>
      rw [scan_succ_buffer] at occurs
      exact ih (never.not_new nonempty lengths occurs)

/-- A scan replaces an occurrence that no earlier one reaches into. -/
theorem occursAt_scan_of_alone (never : NeverMeet new old)
    (alone : ∀ other < offset, OccursAt old buffer other → other + old.length ≤ offset)
    (occurs : OccursAt old buffer offset) (below : offset < limit) :
    OccursAt new (scan old new buffer limit).buffer offset := by
  have waits (limit : Nat) (le : limit ≤ offset) :
      OccursAt old (scan old new buffer limit).buffer offset := by
    induction limit with
    | zero => exact occurs
    | succ limit ih =>
        rw [scan_succ_buffer]
        refine (occursAt_rewriteAt_of_apart nonempty lengths fun found => Or.inr ?_).mpr
          (ih (by omega))
        exact alone limit (by omega) (never.symm.not_new_scan nonempty lengths found)
  induction limit, below using Nat.le_induction with
  | base =>
      have found := waits offset (Nat.le_refl _)
      have room := found.le_length nonempty
      rw [Nat.succ_eq_add_one, scan_succ_buffer, rewriteAt, if_pos found]
      exact occursAt_overwrite_self (by omega)
  | succ limit _ ih =>
      rw [scan_succ_buffer]
      exact never.kept nonempty lengths ih

/-- A scan writes the new word wherever it comes across the old one. -/
theorem occursAt_scan_of_lt (self : ¬ Straddles old old) (never : NeverMeet new old)
    (occurs : OccursAt old buffer offset) (below : offset < limit) :
    OccursAt new (scan old new buffer limit).buffer offset := by
  refine occursAt_scan_of_alone nonempty lengths never (fun other lower found => ?_) occurs below
  by_contra overlap
  exact self (straddles_of_occursAt rfl found occurs lower (by omega))

/-- What is left of the old word was never visited. -/
theorem NeverMeet.le_of_occursAt_scan (never : NeverMeet new old)
    (occurs : OccursAt old (scan old new buffer limit).buffer offset) : limit ≤ offset := by
  refine limit_le_of_occursAt_scan nonempty lengths ?_ never.backward never.forward occurs
  rintro rfl
  exact never.notInside List.infix_rfl

end Widths

/-! ## Fusion -/

/-- What a file has to hold for the first substitution to produce the second old word. -/
def fused (old₁ old₂ : List α) (overlap : Nat) : List α :=
  old₁ ++ old₂.drop overlap

section Doubled

variable {overlap : Nat}

/-- The end of the word is its start again, in one way only. -/
structure Doubles (word : List α) (overlap : Nat) : Prop where
  proper : 0 < overlap ∧ overlap < word.length
  joins : word.drop (word.length - overlap) = word.take overlap
  only : ∀ start, 0 < start → start < word.length → word.drop start <+: word →
    start = word.length - overlap

omit [DecidableEq α] in
/-- Two occurrences that share entries make up the word fused with itself. -/
theorem Doubles.occursAt_fused (doubles : Doubles word overlap)
    (occursFirst : OccursAt word buffer first) (occursSecond : OccursAt word buffer second)
    (lower : first < second) (overlapping : second < first + word.length) :
    second = first + (word.length - overlap) ∧
      OccursAt (fused word word overlap) buffer first := by
  have proper := doubles.proper
  have isPrefix := drop_isPrefix_of_occursAt occursFirst occursSecond (by omega) (by omega)
  have start := doubles.only (second - first) (by omega) (by omega) isPrefix
  obtain ⟨_, back⟩ := (occursAt_cut proper.2.le).mp occursSecond
  rw [show second + overlap = first + word.length by omega] at back
  exact ⟨by omega, occursAt_append.mpr ⟨occursFirst, back⟩⟩

omit [DecidableEq α] in
theorem Doubles.occursAt_both (doubles : Doubles word overlap)
    (occurs : OccursAt (fused word word overlap) buffer first) :
    OccursAt word buffer first ∧ OccursAt word buffer (first + (word.length - overlap)) := by
  have proper := doubles.proper
  obtain ⟨front, back⟩ := occursAt_append.mp occurs
  obtain ⟨_, start⟩ := (occursAt_cut (Nat.sub_le word.length overlap)).mp front
  rw [doubles.joins] at start
  refine ⟨front, (occursAt_cut proper.2.le).mpr ⟨start, ?_⟩⟩
  rwa [show first + (word.length - overlap) + overlap = first + word.length by omega]

end Doubled

/--
The first new word ends with `overlap` entries of the second old word, and in no other
way do the two substitutions get into each other's way.
-/
structure Fuses (old₁ new₁ old₂ new₂ : List α) (overlap : Nat) : Prop where
  proper : 0 < overlap ∧ overlap < old₂.length
  joins : new₁.drop (new₁.length - overlap) = old₂.take overlap
  only : ∀ start, 0 < start → start < new₁.length → new₁.drop start <+: old₂ →
    start = new₁.length - overlap
  new_ne_old : new₁ ≠ old₂
  backward : ¬ Straddles old₂ new₁
  olds : NeverMeet old₁ old₂
  oldNew : NeverMeet old₁ new₂
  fusedNew₁ : NeverMeet (fused old₁ old₂ overlap) new₁
  fusedNew₂ : NeverMeet (fused old₁ old₂ overlap) new₂

/-- The word does not start below the limit. -/
def Free (word : List α) (limit : Nat) (buffer : List α) : Prop :=
  ∀ offset < limit, ¬ OccursAt word buffer offset

section Fusing

variable {old₁ new₁ old₂ new₂ : List α} {overlap : Nat}
variable (nonempty : 0 < old₁.length) (lengths : old₂.length = old₁.length)
variable (lengths₁ : new₁.length = old₁.length) (lengths₂ : new₂.length = old₁.length)
variable (fuses : Fuses old₁ new₁ old₂ new₂ overlap)
include nonempty lengths lengths₁ lengths₂ fuses

omit [DecidableEq α] in
/-- The second old word, produced by a visit, continues behind the window of that visit. -/
theorem Fuses.occursAt_fused (occurs : OccursAt old₁ buffer first)
    (produced : OccursAt old₂ (overwrite buffer first new₁)
      (first + (new₁.length - overlap))) :
    OccursAt (fused old₁ old₂ overlap) buffer first := by
  have room := occurs.le_length nonempty
  have proper := fuses.proper
  rw [fused, occursAt_append]
  refine ⟨occurs, ?_⟩
  obtain ⟨_, back⟩ := (occursAt_cut proper.2.le).mp produced
  rw [show first + (new₁.length - overlap) + overlap = first + old₁.length by omega] at back
  exact (occursAt_overwrite_of_apart (by omega) (Or.inr (by omega))).mp back

omit [DecidableEq α] nonempty in
/-- The second old word meets the first new one at the joint only. -/
theorem Fuses.apart_or_joined (written : OccursAt new₁ buffer first)
    (found : OccursAt old₂ buffer second) :
    (first + new₁.length ≤ second ∨ second + old₂.length ≤ first) ∨
      second = first + (new₁.length - overlap) := by
  by_contra overlapping
  rcases Nat.lt_trichotomy first second with before | same | behind
  · have isPrefix := drop_isPrefix_of_occursAt written found (by omega) (by omega)
    have start := fuses.only (second - first) (by omega) (by omega) isPrefix
    omega
  · subst same
    exact fuses.new_ne_old (written.unique found (by omega))
  · exact fuses.backward (straddles_of_occursAt (by omega) found written behind (by omega))

/-- Where the fused word does not occur, the first substitution produces no second old word. -/
theorem Fuses.keeps_second
    (free : second = first + (new₁.length - overlap) →
      ¬ OccursAt (fused old₁ old₂ overlap) buffer first) :
    OccursAt old₂ (rewriteAt old₁ new₁ first buffer) second ↔ OccursAt old₂ buffer second := by
  by_cases occurs : OccursAt old₁ buffer first
  · have room := occurs.le_length nonempty
    have fits : first + new₁.length ≤ buffer.length := by omega
    have written := occursAt_overwrite_self fits
    rw [rewriteAt, if_pos occurs]
    constructor
    · intro after
      refine (occursAt_overwrite_of_apart fits ?_).mp after
      rcases fuses.apart_or_joined lengths lengths₁ lengths₂ written after with apart | rfl
      · omega
      · exact absurd (fuses.occursAt_fused nonempty lengths lengths₁ lengths₂ occurs after)
          (free rfl)
    · intro before
      have apart := fuses.olds.apart occurs before
      exact (occursAt_overwrite_of_apart fits (by omega)).mpr before
  · rw [rewriteAt, if_neg occurs]

/-- The same for a whole scan: only the visit in front of the second word could produce it. -/
theorem Fuses.keeps_second_scan
    (free : ∀ first, second = first + (new₁.length - overlap) →
      ¬ OccursAt (fused old₁ old₂ overlap) buffer first) :
    OccursAt old₂ (scan old₁ new₁ buffer limit).buffer second ↔ OccursAt old₂ buffer second := by
  induction limit with
  | zero => exact Iff.rfl
  | succ limit ih =>
      rw [scan_succ_buffer, ← ih]
      refine fuses.keeps_second nonempty lengths lengths₁ lengths₂ fun joined occurs => ?_
      exact free limit joined (fuses.fusedNew₁.not_new_scan nonempty lengths₁ occurs)

omit lengths lengths₂ in
theorem Fuses.free_rewriteAt₁ (free : Free (fused old₁ old₂ overlap) limit buffer)
    (target : Nat) : Free (fused old₁ old₂ overlap) limit (rewriteAt old₁ new₁ target buffer) :=
  fun offset below occurs =>
    free offset below (fuses.fusedNew₁.not_new nonempty lengths₁ occurs)

omit lengths₁ in
theorem Fuses.free_rewriteAt₂ (free : Free (fused old₁ old₂ overlap) limit buffer)
    (target : Nat) : Free (fused old₁ old₂ overlap) limit (rewriteAt old₂ new₂ target buffer) :=
  fun offset below occurs => free offset below
    (fuses.fusedNew₂.not_new (lengths ▸ nonempty) (lengths₂.trans lengths.symm) occurs)

/-- Single visits commute unless the second one looks at what the first one has produced. -/
theorem Fuses.rewriteAt_comm
    (free : second = first + (new₁.length - overlap) →
      ¬ OccursAt (fused old₁ old₂ overlap) buffer first) :
    rewriteAt old₂ new₂ second (rewriteAt old₁ new₁ first buffer) =
      rewriteAt old₁ new₁ first (rewriteAt old₂ new₂ second buffer) := by
  have positive : 0 < old₂.length := lengths ▸ nonempty
  have same := lengths₂.trans lengths.symm
  exact rewriteAt_comm_of_kept nonempty positive lengths₁ same
    ⟨fuses.oldNew.not_new positive same, fuses.olds.kept positive same⟩
    (fuses.keeps_second nonempty lengths lengths₁ lengths₂ free)
    fun occursFirst occursSecond => fuses.olds.apart occursFirst occursSecond

variable {reach : Nat}

/-- A visit of the second scan can be moved in front of the whole first scan. -/
theorem Fuses.rewriteAt_scan (below : second < reach)
    (free : Free (fused old₁ old₂ overlap) (reach - (new₁.length - overlap)) buffer) :
    rewriteAt old₂ new₂ second (scan old₁ new₁ buffer limit).buffer =
      (scan old₁ new₁ (rewriteAt old₂ new₂ second buffer) limit).buffer := by
  have stays (limit : Nat) : Free (fused old₁ old₂ overlap) (reach - (new₁.length - overlap))
      (scan old₁ new₁ buffer limit).buffer := by
    induction limit with
    | zero => exact free
    | succ limit ih =>
        rw [scan_succ_buffer]
        exact fuses.free_rewriteAt₁ nonempty lengths₁ ih limit
  induction limit with
  | zero => rfl
  | succ limit ih =>
      rw [scan_succ_buffer, scan_succ_buffer, ← ih]
      refine fuses.rewriteAt_comm nonempty lengths lengths₁ lengths₂ fun meets => ?_
      exact stays limit limit (by omega)

/-- Without the fused word, the scans commute. -/
theorem Fuses.scan_comm {limit' : Nat} (le : limit ≤ reach)
    (free : Free (fused old₁ old₂ overlap) (reach - (new₁.length - overlap)) buffer) :
    (scan old₂ new₂ (scan old₁ new₁ buffer limit').buffer limit).buffer =
      (scan old₁ new₁ (scan old₂ new₂ buffer limit).buffer limit').buffer := by
  have stays (limit : Nat) : Free (fused old₁ old₂ overlap) (reach - (new₁.length - overlap))
      (scan old₂ new₂ buffer limit).buffer := by
    induction limit with
    | zero => exact free
    | succ limit ih =>
        rw [scan_succ_buffer]
        exact fuses.free_rewriteAt₂ nonempty lengths lengths₂ ih limit
  induction limit with
  | zero => rfl
  | succ limit ih =>
      rw [scan_succ_buffer, scan_succ_buffer, ih (by omega)]
      exact fuses.rewriteAt_scan nonempty lengths lengths₁ lengths₂ (by omega) (stays limit)

end Fusing

/-! ## The fused word in a file -/

/-- The two substitutions find every occurrence of their old words, and their results differ. -/
structure FusesVisibly (old₁ new₁ old₂ new₂ : List α) (overlap : Nat) : Prop extends
    Fuses old₁ new₁ old₂ new₂ overlap where
  self₁ : ¬ Straddles old₁ old₁
  self₂ : ¬ Straddles old₂ old₂
  written₁ : NeverMeet new₁ old₁
  written₂ : NeverMeet new₂ old₂
  fusedOld₂ : NeverMeet (fused old₁ old₂ overlap) old₂
  tail : NeverMeet (old₂.drop overlap) old₁
  heads : new₂.head? ≠ old₂.head?

section Visibly

variable {old₁ new₁ old₂ new₂ : List α} {overlap reach : Nat}
variable (nonempty : 0 < old₁.length) (lengths : old₂.length = old₁.length)
variable (lengths₁ : new₁.length = old₁.length) (lengths₂ : new₂.length = old₁.length)
variable (fuses : FusesVisibly old₁ new₁ old₂ new₂ overlap)
include nonempty lengths lengths₁ lengths₂ fuses

omit [DecidableEq α] nonempty lengths lengths₁ lengths₂ in
/-- The first new word ends with the start of the second old word. -/
theorem FusesVisibly.occursAt_start (written : OccursAt new₁ buffer first) :
    OccursAt (old₂.take overlap) buffer (first + (new₁.length - overlap)) := by
  obtain ⟨_, joint⟩ := (occursAt_cut (Nat.sub_le new₁.length overlap)).mp written
  rwa [fuses.joins] at joint

/-- In the order of the substitutions, the second one finds what the first one produced. -/
theorem FusesVisibly.occursAt_second
    (occurs : OccursAt (fused old₁ old₂ overlap) buffer first)
    (below : first + (new₁.length - overlap) < reach) :
    OccursAt new₂ (scan old₂ new₂ (scan old₁ new₁ buffer reach).buffer reach).buffer
      (first + (new₁.length - overlap)) := by
  have proper := fuses.proper
  obtain ⟨front, back⟩ := occursAt_append.mp occurs
  have written := occursAt_scan_of_lt nonempty lengths₁ fuses.self₁ fuses.written₁ front
    (show first < reach by omega)
  have start := fuses.occursAt_start written
  have rest : OccursAt (old₂.drop overlap) (scan old₁ new₁ buffer reach).buffer
      (first + old₁.length) := fuses.tail.kept_scan nonempty lengths₁ back
  have produced : OccursAt old₂ (scan old₁ new₁ buffer reach).buffer
      (first + (new₁.length - overlap)) := by
    refine (occursAt_cut proper.2.le).mpr ⟨start, ?_⟩
    rwa [show first + (new₁.length - overlap) + overlap = first + old₁.length by omega]
  exact occursAt_scan_of_lt (lengths ▸ nonempty) (lengths₂.trans lengths.symm) fuses.self₂
    fuses.written₂ produced below

/-- In the other order, the first new word stays. -/
theorem FusesVisibly.occursAt_first
    (occurs : OccursAt (fused old₁ old₂ overlap) buffer first) (below : first < reach) :
    OccursAt new₁ (scan old₁ new₁ (scan old₂ new₂ buffer reach).buffer reach).buffer first := by
  have kept : OccursAt (fused old₁ old₂ overlap) (scan old₂ new₂ buffer reach).buffer first :=
    fuses.fusedOld₂.kept_scan (lengths ▸ nonempty) (lengths₂.trans lengths.symm) occurs
  exact occursAt_scan_of_lt nonempty lengths₁ fuses.self₁ fuses.written₁
    (occursAt_append.mp kept).1 below

/-- The first new word stays when the second scan does not come across a fused word. -/
theorem FusesVisibly.occursAt_first_of_not_fused (occurs : OccursAt old₁ buffer first)
    (below : first < reach)
    (free : first + (new₁.length - overlap) < reach →
      ¬ OccursAt (fused old₁ old₂ overlap) buffer first) :
    OccursAt new₁ (scan old₂ new₂ (scan old₁ new₁ buffer reach).buffer reach).buffer first := by
  have proper := fuses.proper
  have nonempty₂ : 0 < old₂.length := lengths ▸ nonempty
  have lengths' := lengths₂.trans lengths.symm
  have written := occursAt_scan_of_lt nonempty lengths₁ fuses.self₁ fuses.written₁ occurs below
  have stays (limit : Nat) (le : limit ≤ reach) :
      OccursAt new₁ (scan old₂ new₂ (scan old₁ new₁ buffer reach).buffer limit).buffer first := by
    induction limit with
    | zero => exact written
    | succ limit ih =>
        rw [scan_succ_buffer]
        refine (occursAt_rewriteAt_of_apart nonempty₂ lengths' fun found => ?_).mpr (ih (by omega))
        -- What this visit finds was there before the second scan.
        have before := fuses.written₂.symm.not_new_scan nonempty₂ lengths' found
        rcases fuses.apart_or_joined lengths lengths₁ lengths₂ written before with apart | joined
        · exact apart
        · have alone := free (by omega)
          have second := (fuses.keeps_second_scan nonempty lengths lengths₁ lengths₂
            fun other place => by rwa [show other = first by omega]).mp before
          have apart := fuses.olds.apart occurs second
          omega
  exact stays reach (Nat.le_refl _)

omit [DecidableEq α] nonempty in
/-- The second new word does not start where the first one ends with the second old word. -/
theorem FusesVisibly.not_both (kept : OccursAt new₁ buffer first)
    (written : OccursAt new₂ buffer (first + (new₁.length - overlap))) : False := by
  have proper := fuses.proper
  have start := fuses.occursAt_start kept
  have entry := written.getElem? (first + (new₁.length - overlap)) (Nat.le_refl _) (by omega)
  have entry' := start.getElem? (first + (new₁.length - overlap)) (Nat.le_refl _)
    (by rw [List.length_take]; omega)
  rw [Nat.sub_self] at entry entry'
  rw [entry, List.getElem?_take_of_lt proper.1] at entry'
  exact fuses.heads (by rwa [List.head?_eq_getElem?, List.head?_eq_getElem?])

/-- Two scans that fuse commute on exactly the buffers without the fused word. -/
theorem FusesVisibly.scan_comm_iff :
    (scan old₂ new₂ (scan old₁ new₁ buffer reach).buffer reach).buffer =
        (scan old₁ new₁ (scan old₂ new₂ buffer reach).buffer reach).buffer ↔
      Free (fused old₁ old₂ overlap) (reach - (new₁.length - overlap)) buffer := by
  have proper := fuses.proper
  constructor
  · intro same first below occurs
    have second := fuses.occursAt_second nonempty lengths lengths₁ lengths₂ occurs
      (show first + (new₁.length - overlap) < reach by omega)
    have kept := fuses.occursAt_first nonempty lengths lengths₁ lengths₂ occurs
      (show first < reach by omega)
    rw [same] at second
    exact fuses.not_both lengths lengths₁ lengths₂ kept second
  · exact fuses.toFuses.scan_comm nonempty lengths lengths₁ lengths₂ (Nat.le_refl _)

end Visibly

end Words
