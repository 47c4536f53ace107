import Thundermod.Guidsub.Loop

/-!
# What one run of the loop substitutes

The loop stops one offset early: an occurrence that ends exactly at the end of
the file is neither replaced nor reported.  It also advances by one byte after a
write, so a pair of GUIDs that overlaps suitably makes it damage a GUID it has
just written.  Both defects are characterised exactly by the greedy
left-to-right windows of the input file.
-/

namespace Thundermod.Guidsub

open Words

/-! ## Completeness -/

/-- Nothing of the original GUID is left, and `substituted` says whether there was any. -/
def SubstitutionComplete (originalGuid newGuid : Uuid) (file : List UInt8) : Prop :=
  ∃ state, substitute originalGuid newGuid file = .ok state ∧
    (∀ offset ≤ file.length - 16, ¬ OccursAt originalGuid.bytes state.buffer offset) ∧
    (state.substituted = true ↔
      ∃ offset ≤ file.length - 16, OccursAt originalGuid.bytes file offset)

theorem substitutionComplete_iff_scanned (originalGuid newGuid : Uuid) {file : List UInt8}
    (lower : 16 ≤ file.length) (upper : file.length < 2 ^ 31) :
    SubstitutionComplete originalGuid newGuid file ↔
      (∀ offset ≤ file.length - 16, ¬ OccursAt originalGuid.bytes
          (scanned originalGuid newGuid file (file.length - 16)).buffer offset) ∧
        ((scanned originalGuid newGuid file (file.length - 16)).written ≠ [] ↔
          ∃ offset ≤ file.length - 16, OccursAt originalGuid.bytes file offset) := by
  rw [SubstitutionComplete, substitute_eq_scanned originalGuid newGuid lower upper,
    ← ofScan_substituted]
  constructor
  · rintro ⟨state, run, clean, reported⟩
    cases run
    exact ⟨clean, reported⟩
  · rintro ⟨clean, reported⟩
    exact ⟨_, rfl, clean, reported⟩

/--
The substitution is complete exactly when the greedy substitution of the whole
file does not take the window that ends at the end of the file.
-/
theorem substitution_complete_iff (originalGuid newGuid : Uuid) (file : List UInt8)
    (lower : 16 ≤ file.length) (upper : file.length < 2 ^ 31) (different : originalGuid ≠ newGuid)
    (originalNew : ¬ Straddles originalGuid.bytes newGuid.bytes)
    (newOriginal : ¬ Straddles newGuid.bytes originalGuid.bytes) :
    SubstitutionComplete originalGuid newGuid file ↔
      file.length - 16 ∉ greedy originalGuid.bytes file (file.length - 16 + 1) := by
  have bytes_ne : originalGuid.bytes ≠ newGuid.bytes := fun same => different (Uuid.ext same)
  rw [substitutionComplete_iff_scanned originalGuid newGuid lower upper]
  exact scan_complete_iff originalGuid.length_pos (newGuid.length_eq originalGuid) bytes_ne
    originalNew newOriginal file (file.length - 16)

theorem substitution_complete_at_first_guid :
    SubstitutionComplete efiDriverBindingProtocolGuid driverBindingProtocolSubstituteGuid
        (efiDriverBindingProtocolGuid.bytes ++ [0]) ↔
      (1 : Nat) ∉ greedy efiDriverBindingProtocolGuid.bytes
        (efiDriverBindingProtocolGuid.bytes ++ [0]) 2 :=
  substitution_complete_iff efiDriverBindingProtocolGuid driverBindingProtocolSubstituteGuid
    (efiDriverBindingProtocolGuid.bytes ++ [0]) (by decide) (by decide) (by decide) (by decide)
    (by decide)

/-- A file that is nothing but the original GUID is left as it is. -/
theorem substitution_misses_last_guid :
    ¬ ∀ (originalGuid newGuid : Uuid) (file : List UInt8), 16 ≤ file.length →
      file.length < 2 ^ 31 → originalGuid ≠ newGuid →
      ¬ Straddles originalGuid.bytes newGuid.bytes →
      ¬ Straddles newGuid.bytes originalGuid.bytes →
        SubstitutionComplete originalGuid newGuid file := by
  intro complete
  have whole := complete efiDriverBindingProtocolGuid driverBindingProtocolSubstituteGuid
    efiDriverBindingProtocolGuid.bytes (by decide) (by decide) (by decide) (by decide) (by decide)
  rw [substitutionComplete_iff_scanned _ _ (by decide) (by decide)] at whole
  exact whole.1 0 (by decide) (by decide)

/-! ## Integrity of what is written -/

/-- The state left by the greedy left-to-right substitution over the visited offsets. -/
structure GreedySubstitution (originalGuid newGuid : Uuid) (file : List UInt8)
    (state : LoopState) : Prop where
  windows : state.written = greedy originalGuid.bytes file (file.length - 16)
  bytes : state.buffer =
    replaceAt newGuid.bytes file (greedy originalGuid.bytes file (file.length - 16))
  disjoint : WindowsDisjoint 16 state.written
  original : ∀ offset ∈ state.written, OccursAt originalGuid.bytes file offset
  complete : ∀ offset ∈ state.written, OccursAt newGuid.bytes state.buffer offset
  outside : ∀ index, (∀ offset ∈ state.written, index < offset ∨ offset + 16 ≤ index) →
    state.buffer[index]? = file[index]?
  length : state.buffer.length = file.length

/-- The loop ends in the state of the greedy substitution. -/
def SubstitutesGreedily (originalGuid newGuid : Uuid) (file : List UInt8) : Prop :=
  ∃ state, substitute originalGuid newGuid file = .ok state ∧
    GreedySubstitution originalGuid newGuid file state

theorem windowsDisjoint_scanned_iff (originalGuid newGuid : Uuid) (file : List UInt8)
    (limit : Nat) :
    WindowsDisjoint 16 (scanned originalGuid newGuid file limit).written ↔
      RescanFree originalGuid.bytes newGuid.bytes file limit := by
  rw [← windowsDisjoint_iff originalGuid.length_pos (newGuid.length_eq originalGuid),
    originalGuid.length_bytes]
  exact Iff.rfl

/-- Without straddling occurrences the scan leaves the state of the greedy substitution. -/
theorem greedySubstitution_of_rescanFree (originalGuid newGuid : Uuid) (file : List UInt8)
    (free : RescanFree originalGuid.bytes newGuid.bytes file (file.length - 16)) :
    GreedySubstitution originalGuid newGuid file
      (.ofScan (scanned originalGuid newGuid file (file.length - 16))) := by
  have lengths := newGuid.length_eq originalGuid
  have written := written_eq_greedy originalGuid.length_pos lengths free
  have fits := written_fits originalGuid.length_pos lengths file (file.length - 16)
  have disjoint := (windowsDisjoint_scanned_iff originalGuid newGuid file _).mpr free
  have content := scan_buffer originalGuid.bytes newGuid.bytes file (file.length - 16)
  constructor
  · exact written
  · rw [← written]
    exact content
  · exact disjoint
  · intro offset member
    have taken : offset ∈ greedy originalGuid.bytes file (file.length - 16) := written ▸ member
    exact occursAt_of_mem_greedy taken
  · intro offset member
    change OccursAt _ (scan originalGuid.bytes newGuid.bytes file _).buffer _
    rw [content]
    refine occursAt_replaceAt fits ?_ member
    rw [newGuid.length_bytes]
    exact disjoint
  · intro index outside
    change (scan originalGuid.bytes newGuid.bytes file _).buffer[index]? = _
    rw [content]
    refine getElem?_replaceAt_outside fits index ?_
    rw [newGuid.length_bytes]
    exact outside
  · exact length_scanned originalGuid newGuid file _

/--
The in-place loop is the greedy substitution exactly when no occurrence of the
original GUID straddles the end of a greedy window with the new GUID in it.
-/
theorem substitutes_greedily_iff (originalGuid newGuid : Uuid) (file : List UInt8)
    (lower : 16 ≤ file.length) (upper : file.length < 2 ^ 31) :
    SubstitutesGreedily originalGuid newGuid file ↔
      RescanFree originalGuid.bytes newGuid.bytes file (file.length - 16) := by
  rw [SubstitutesGreedily, substitute_eq_scanned originalGuid newGuid lower upper]
  constructor
  · rintro ⟨state, run, greedily⟩
    cases run
    exact (windowsDisjoint_scanned_iff originalGuid newGuid file _).mp greedily.disjoint
  · intro free
    exact ⟨_, rfl, greedySubstitution_of_rescanFree originalGuid newGuid file free⟩

theorem substitutes_greedily_one_guid :
    SubstitutesGreedily efiDriverBindingProtocolGuid driverBindingProtocolSubstituteGuid
        (efiDriverBindingProtocolGuid.bytes ++ [0]) ↔
      RescanFree efiDriverBindingProtocolGuid.bytes driverBindingProtocolSubstituteGuid.bytes
        (efiDriverBindingProtocolGuid.bytes ++ [0]) 1 :=
  substitutes_greedily_iff efiDriverBindingProtocolGuid driverBindingProtocolSubstituteGuid
    (efiDriverBindingProtocolGuid.bytes ++ [0]) (by decide) (by decide)

/-- The nil GUID, replaced in a run of zeros, is found again in what was just written. -/
theorem substitution_damages_written_guid :
    ¬ ∀ (originalGuid newGuid : Uuid) (file : List UInt8), 16 ≤ file.length →
      file.length < 2 ^ 31 → SubstitutesGreedily originalGuid newGuid file := by
  intro greedily
  obtain ⟨state, run, result⟩ := greedily ⟨List.replicate 16 0, rfl⟩
    ⟨1 :: List.replicate 15 0, rfl⟩ (List.replicate 18 0) (by decide) (by decide)
  rw [substitute_eq_scanned _ _ (by decide) (by decide)] at run
  cases run
  have disjoint := result.disjoint
  revert disjoint
  unfold WindowsDisjoint
  decide

end Thundermod.Guidsub
