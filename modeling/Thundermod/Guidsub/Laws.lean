import Thundermod.Guidsub.Loop

/-!
# Several runs of the loop on one file

The driver image is prepared by three runs of the tool, one for each protocol
GUID.  Runs for unrelated pairs commute, and a run for the reversed pair
restores the file.
-/

namespace Thundermod.Guidsub

open Words

/-- Two pairs of GUIDs whose substitutions cannot disturb one another. -/
abbrev UnrelatedGuids (original₁ new₁ original₂ new₂ : Uuid) : Prop :=
  Unrelated original₁.bytes new₁.bytes original₂.bytes new₂.bytes

/-- The buffer and the report of one run, in terms of the scan. -/
theorem substitute_scanned_twice (original₁ new₁ original₂ new₂ : Uuid) {file : List UInt8}
    (lower : 16 ≤ file.length) (upper : file.length < 2 ^ 31) :
    substitute original₂ new₂ (scanned original₁ new₁ file (file.length - 16)).buffer =
      .ok (.ofScan (scanned original₂ new₂
        (scanned original₁ new₁ file (file.length - 16)).buffer (file.length - 16))) := by
  have same := length_scanned original₁ new₁ file (file.length - 16)
  rw [substitute_eq_scanned original₂ new₂ (by rwa [same]) (by rwa [same]), same]

/-- Unrelated substitutions commute, and each reports the same in either order. -/
theorem substitutions_commute (original₁ new₁ original₂ new₂ : Uuid) (file : List UInt8)
    (lower : 16 ≤ file.length) (upper : file.length < 2 ^ 31)
    (unrelated : UnrelatedGuids original₁ new₁ original₂ new₂) :
    ∃ first second secondAfterFirst firstAfterSecond : LoopState,
      substitute original₁ new₁ file = .ok first ∧
      substitute original₂ new₂ first.buffer = .ok secondAfterFirst ∧
      substitute original₂ new₂ file = .ok second ∧
      substitute original₁ new₁ second.buffer = .ok firstAfterSecond ∧
      secondAfterFirst.buffer = firstAfterSecond.buffer ∧
      first.substituted = firstAfterSecond.substituted ∧
      second.substituted = secondAfterFirst.substituted := by
  have nonempty := original₁.length_pos
  have nonempty' := original₂.length_pos
  have lengths := original₂.length_eq original₁
  have lengths₁ := new₁.length_eq original₁
  have lengths₂ := new₂.length_eq original₁
  have buffers := scan_comm nonempty lengths lengths₁ lengths₂ unrelated file
    (file.length - 16) (file.length - 16)
  have written₁ := written_scan_comm nonempty lengths lengths₁ lengths₂ unrelated file
    (file.length - 16) (file.length - 16)
  have written₂ := written_scan_comm nonempty' lengths.symm (new₂.length_eq original₂)
    (new₁.length_eq original₂) unrelated.symm file (file.length - 16) (file.length - 16)
  refine ⟨_, _, _, _, substitute_eq_scanned original₁ new₁ lower upper,
    substitute_scanned_twice original₁ new₁ original₂ new₂ lower upper,
    substitute_eq_scanned original₂ new₂ lower upper,
    substitute_scanned_twice original₂ new₂ original₁ new₁ lower upper, buffers, ?_, ?_⟩
  · exact congrArg (fun written => !written.isEmpty) written₁.symm
  · exact congrArg (fun written => !written.isEmpty) written₂.symm

/-- The driver-binding and the resource-allocation GUIDs of the shim are unrelated. -/
theorem unrelated_driverBinding_resourceAllocation :
    UnrelatedGuids efiDriverBindingProtocolGuid driverBindingProtocolSubstituteGuid
      efiPciHostBridgeResourceAllocationProtocolGuid pciHostBrgResAllocProtocolSubstituteGuid := by
  decide

/-- A file that holds both GUIDs, and a byte behind them so that the loop visits the second. -/
def sharedFile : List UInt8 :=
  efiDriverBindingProtocolGuid.bytes ++
    (efiPciHostBridgeResourceAllocationProtocolGuid.bytes ++ [0])

theorem driverBinding_resourceAllocation_commute :
    ∃ first second secondAfterFirst firstAfterSecond : LoopState,
      substitute efiDriverBindingProtocolGuid driverBindingProtocolSubstituteGuid
        sharedFile = .ok first ∧
      substitute efiPciHostBridgeResourceAllocationProtocolGuid
        pciHostBrgResAllocProtocolSubstituteGuid first.buffer = .ok secondAfterFirst ∧
      substitute efiPciHostBridgeResourceAllocationProtocolGuid
        pciHostBrgResAllocProtocolSubstituteGuid sharedFile = .ok second ∧
      substitute efiDriverBindingProtocolGuid driverBindingProtocolSubstituteGuid
        second.buffer = .ok firstAfterSecond ∧
      secondAfterFirst.buffer = firstAfterSecond.buffer ∧
      first.substituted = firstAfterSecond.substituted ∧
      second.substituted = secondAfterFirst.substituted :=
  substitutions_commute _ _ _ _ sharedFile (by decide) (by decide)
    unrelated_driverBinding_resourceAllocation

/--
A run for the reversed pair restores a file that does not contain the new GUID.
Suffixes of the original GUID need no condition: the second run never looks at
what it has restored.
-/
theorem substitution_undone (originalGuid newGuid : Uuid) (file : List UInt8)
    (lower : 16 ≤ file.length) (upper : file.length < 2 ^ 31)
    (newNew : ¬ Straddles newGuid.bytes newGuid.bytes)
    (newOriginal : ¬ Straddles newGuid.bytes originalGuid.bytes)
    (foreign : ∀ offset ≤ file.length - 16, ¬ OccursAt newGuid.bytes file offset) :
    ∃ there back : LoopState, substitute originalGuid newGuid file = .ok there ∧
      substitute newGuid originalGuid there.buffer = .ok back ∧ back.buffer = file := by
  have everywhere (offset : Nat) : ¬ OccursAt newGuid.bytes file offset := by
    intro occurs
    have room := occurs.le_length newGuid.length_pos
    rw [newGuid.length_bytes] at room
    exact foreign offset (by omega) occurs
  exact ⟨_, _, substitute_eq_scanned originalGuid newGuid lower upper,
    substitute_scanned_twice originalGuid newGuid newGuid originalGuid lower upper,
    scan_scan_cancel originalGuid.length_pos (newGuid.length_eq originalGuid) newNew newOriginal
      everywhere (file.length - 16)⟩

theorem substitution_undone_at_first_guid :
    ∃ there back : LoopState,
      substitute efiDriverBindingProtocolGuid driverBindingProtocolSubstituteGuid
        (efiDriverBindingProtocolGuid.bytes ++ [0]) = .ok there ∧
      substitute driverBindingProtocolSubstituteGuid efiDriverBindingProtocolGuid there.buffer =
        .ok back ∧ back.buffer = efiDriverBindingProtocolGuid.bytes ++ [0] :=
  substitution_undone efiDriverBindingProtocolGuid driverBindingProtocolSubstituteGuid
    (efiDriverBindingProtocolGuid.bytes ++ [0]) (by decide) (by decide) (by decide) (by decide)
    (by decide)

end Thundermod.Guidsub
