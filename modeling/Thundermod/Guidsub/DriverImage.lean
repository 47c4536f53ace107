import Mathlib.Tactic.IntervalCases
import Thundermod.Guidsub.Pipeline

/-!
# The image of the PCI bus driver

Two of the three pairs for the driver image fuse: the substitute of the driver-binding
GUID ends with the first byte of the root-bridge GUID.  The resource-allocation GUID ends
with its own first byte.  Apart from the files in which these bytes come together, the
three runs do what they are meant to do, in every order.
-/

namespace Thundermod.Guidsub

open Words

/-! ## The three runs -/

def efiPciRootBridgeIoProtocolGuid : Uuid :=
  ⟨[0xBB, 0x7E, 0x70, 0x2F, 0x1A, 0x4A, 0xD4, 0x11,
    0x9A, 0x38, 0x00, 0x90, 0x27, 0x3F, 0xC1, 0x4D], rfl⟩

def rootBridgeIoProtocolSubstituteGuid : Uuid :=
  ⟨[0xD2, 0x27, 0xE6, 0xF9, 0x2F, 0x48, 0xE9, 0x49,
    0xA1, 0x65, 0xF0, 0x22, 0xC9, 0x6A, 0xF1, 0x84], rfl⟩

def rootBridgeIoPair : GuidPair :=
  (efiPciRootBridgeIoProtocolGuid, rootBridgeIoProtocolSubstituteGuid)

/-- The runs that the build rule for `PciBusDxe.ffs` keeps as comments, in its order. -/
def driverImagePairs : List GuidPair :=
  [driverBindingPair, rootBridgeIoPair, resourceAllocationPair]

/-- A driver-binding GUID with all but the first byte of a root-bridge GUID behind it. -/
def fusedGuids : List UInt8 :=
  fused efiDriverBindingProtocolGuid.bytes efiPciRootBridgeIoProtocolGuid.bytes 1

theorem fuses_driverBinding_rootBridgeIo :
    FusesVisibly driverBindingPair.1.bytes driverBindingPair.2.bytes rootBridgeIoPair.1.bytes
      rootBridgeIoPair.2.bytes 1 where
  proper := by decide
  joins := by decide
  only := by
    intro start positive inside isPrefix
    have bound : start < 16 := inside
    interval_cases start <;> first | rfl | exact absurd isPrefix (by decide)
  new_ne_old := by decide
  backward := by decide
  olds := by decide
  oldNew := by decide
  fusedNew₁ := by decide
  fusedNew₂ := by decide
  self₁ := by decide
  self₂ := by decide
  written₁ := by decide
  written₂ := by decide
  fusedOld₂ := by decide
  tail := by decide
  heads := by decide

theorem unrelated_rootBridgeIo : UnrelatedPairs rootBridgeIoPair resourceAllocationPair := by
  unfold UnrelatedPairs
  decide

theorem fusedGuids_never_meets :
    NeverMeet fusedGuids resourceAllocationPair.1.bytes ∧
      NeverMeet fusedGuids resourceAllocationPair.2.bytes := by
  decide

/-! ## The order of the runs -/

section Order

variable {size : Nat} {file : List UInt8}

/-- The first two runs commute exactly on files without the fused GUIDs. -/
theorem driverBinding_rootBridgeIo_comm_iff :
    substituted size (substituted size file driverBindingPair) rootBridgeIoPair =
        substituted size (substituted size file rootBridgeIoPair) driverBindingPair ↔
      Free fusedGuids (size - 31) file := by
  have reach : size - 16 - (driverBindingPair.2.bytes.length - 1) = size - 31 := by
    rw [driverBindingPair.2.length_bytes]
    omega
  rw [← reach]
  exact fuses_driverBinding_rootBridgeIo.scan_comm_iff driverBindingPair.1.length_pos
    (rootBridgeIoPair.1.length_eq driverBindingPair.1)
    (driverBindingPair.2.length_eq driverBindingPair.1)
    (rootBridgeIoPair.2.length_eq driverBindingPair.1)

/-- The run for the third pair neither makes nor destroys fused GUIDs. -/
theorem free_resourceAllocation_iff {limit : Nat} :
    Free fusedGuids limit (substituted size file resourceAllocationPair) ↔
      Free fusedGuids limit file := by
  have nonempty := resourceAllocationPair.1.length_pos
  have lengths := resourceAllocationPair.2.length_eq resourceAllocationPair.1
  constructor
  · intro free offset below occurs
    exact free offset below (fusedGuids_never_meets.1.kept_scan nonempty lengths occurs)
  · intro free offset below occurs
    exact free offset below (fusedGuids_never_meets.2.not_new_scan nonempty lengths occurs)

/-- Without fused GUIDs all six orders leave the same file. -/
theorem foldl_driverImage {order : List GuidPair} (perm : order.Perm driverImagePairs)
    (free : Free fusedGuids (size - 31) file) :
    order.foldl (substituted size) file = driverImagePairs.foldl (substituted size) file := by
  have moveThird (file : List UInt8) :
      substituted size (substituted size file driverBindingPair) resourceAllocationPair =
        substituted size (substituted size file resourceAllocationPair) driverBindingPair :=
    substituted_comm unrelated_driverBinding file
  have moveThird' (file : List UInt8) :
      substituted size (substituted size file rootBridgeIoPair) resourceAllocationPair =
        substituted size (substituted size file resourceAllocationPair) rootBridgeIoPair :=
    substituted_comm unrelated_rootBridgeIo file
  have swap := driverBinding_rootBridgeIo_comm_iff.mpr free
  have free' : Free fusedGuids (size - 31) (substituted size file resourceAllocationPair) :=
    free_resourceAllocation_iff.mpr free
  have swap' := driverBinding_rootBridgeIo_comm_iff.mpr free'
  have orders : driverImagePairs.permutations' =
      [[driverBindingPair, rootBridgeIoPair, resourceAllocationPair],
        [rootBridgeIoPair, driverBindingPair, resourceAllocationPair],
        [rootBridgeIoPair, resourceAllocationPair, driverBindingPair],
        [driverBindingPair, resourceAllocationPair, rootBridgeIoPair],
        [resourceAllocationPair, driverBindingPair, rootBridgeIoPair],
        [resourceAllocationPair, rootBridgeIoPair, driverBindingPair]] := rfl
  have member := List.mem_permutations'.mpr perm
  simp only [orders, List.mem_cons, List.not_mem_nil, or_false] at member
  simp only [driverImagePairs]
  rcases member with rfl | rfl | rfl | rfl | rfl | rfl
  all_goals simp only [List.foldl_cons, List.foldl_nil]
  · rw [swap]
  · rw [← moveThird, swap]
  · rw [← moveThird']
  · rw [← moveThird, ← moveThird']
  · rw [← swap', ← moveThird, ← moveThird']

end Order

/--
All orders of the three runs leave the same file exactly if the file does not hold a
driver-binding GUID with the rest of a root-bridge GUID behind it, where the loop still
gets to see it.
-/
theorem driver_image_orders_agree_iff (libc : Libc) (works : libc.Works) (file : List UInt8)
    (lower : 16 ≤ file.length) (upper : file.length < 2 ^ 31) :
    (∀ order, order.Perm driverImagePairs →
        (runAll libc order file).map Prod.fst = (runAll libc driverImagePairs file).map Prod.fst) ↔
      ∀ offset, offset + 31 < file.length → ¬ OccursAt fusedGuids file offset := by
  have image (order : List GuidPair) : (runAll libc order file).map Prod.fst =
      .ok (order.foldl (substituted file.length) file) := by
    rw [runAll_eq lower upper works order rfl]
    rfl
  have free : Free fusedGuids (file.length - 31) file ↔
      ∀ offset, offset + 31 < file.length → ¬ OccursAt fusedGuids file offset :=
    forall_congr' fun offset => by rw [Nat.lt_sub_iff_add_lt]
  simp only [image, Except.ok.injEq, ← free]
  constructor
  · intro agree
    have swapped := agree [rootBridgeIoPair, driverBindingPair, resourceAllocationPair]
      (List.Perm.swap _ _ _)
    simp only [driverImagePairs, List.foldl_cons, List.foldl_nil] at swapped
    rw [substituted_comm unrelated_driverBinding, substituted_comm unrelated_rootBridgeIo file,
      substituted_comm unrelated_rootBridgeIo, substituted_comm unrelated_driverBinding file]
      at swapped
    exact free_resourceAllocation_iff.mp (driverBinding_rootBridgeIo_comm_iff.mp swapped.symm)
  · exact fun free order perm => foldl_driverImage perm free

/-- A file of one byte more than the fused GUIDs, on which the orders differ. -/
theorem driver_image_orders_differ :
    ¬ ∀ order, order.Perm driverImagePairs →
      (runAll workingLibc order (fusedGuids ++ [0])).map Prod.fst =
        (runAll workingLibc driverImagePairs (fusedGuids ++ [0])).map Prod.fst := by
  rw [driver_image_orders_agree_iff workingLibc workingLibc_works (fusedGuids ++ [0]) (by decide)
    (by decide)]
  exact fun absent => absent 0 (by decide) (by decide)

/-! ## What the driver image looks like -/

section Replaced

variable {size offset : Nat} {file : List UInt8} {pair : GuidPair} {word : List UInt8}

/-- A run leaves a word alone that never meets the GUID it searches for. -/
theorem kept_substituted (never : NeverMeet word pair.1.bytes)
    (occurs : OccursAt word file offset) :
    OccursAt word (substituted size file pair) offset :=
  never.kept_scan pair.1.length_pos (pair.2.length_eq pair.1) occurs

/-- A run does not produce a word that never meets the GUID it writes. -/
theorem of_substituted (never : NeverMeet word pair.2.bytes)
    (occurs : OccursAt word (substituted size file pair) offset) : OccursAt word file offset :=
  never.not_new_scan pair.1.length_pos (pair.2.length_eq pair.1) occurs

/-- An occurrence is replaced if no earlier one reaches into it. -/
theorem replaced_substituted (never : NeverMeet pair.2.bytes pair.1.bytes)
    (alone : ∀ other < offset, OccursAt pair.1.bytes file other → other + 16 ≤ offset)
    (occurs : OccursAt pair.1.bytes file offset) (below : offset + 16 < size) :
    OccursAt pair.2.bytes (substituted size file pair) offset := by
  have width := pair.1.length_bytes
  exact occursAt_scan_of_alone pair.1.length_pos (pair.2.length_eq pair.1) never
    (fun other lower found => width ▸ alone other lower found) occurs (by omega)

/-- What a run leaves of the GUID is out of its loop's reach. -/
theorem absent_substituted (never : NeverMeet pair.2.bytes pair.1.bytes)
    (below : offset + 16 < size) :
    ¬ OccursAt pair.1.bytes (substituted size file pair) offset := by
  intro occurs
  have unvisited :=
    never.le_of_occursAt_scan pair.1.length_pos (pair.2.length_eq pair.1) occurs
  omega

end Replaced

/-- Two resource-allocation GUIDs, the second of which starts with the last byte of the first. -/
def doubledGuid : List UInt8 :=
  fused efiPciHostBridgeResourceAllocationProtocolGuid.bytes
    efiPciHostBridgeResourceAllocationProtocolGuid.bytes 1

theorem doubles_resourceAllocation : Doubles resourceAllocationPair.1.bytes 1 where
  proper := by decide
  joins := by decide
  only := by
    intro start positive inside isPrefix
    have bound : start < 16 := inside
    interval_cases start <;> first | rfl | exact absurd isPrefix (by decide)

/-- Nothing that the other two runs look for or write meets the GUID of the last run. -/
theorem resourceAllocation_never_meets :
    ∀ word ∈ [driverBindingPair.1.bytes, driverBindingPair.2.bytes, rootBridgeIoPair.1.bytes,
        rootBridgeIoPair.2.bytes, resourceAllocationPair.2.bytes],
      NeverMeet word resourceAllocationPair.1.bytes := by
  decide

/-- The last run does not write anything that the other two look for. -/
theorem resourceAllocation_never_writes :
    ∀ word ∈ [driverBindingPair.1.bytes, rootBridgeIoPair.1.bytes],
      NeverMeet word resourceAllocationPair.2.bytes := by
  decide

/-- What the three runs make of a file. -/
def driverImage (size : Nat) (file : List UInt8) : List UInt8 :=
  driverImagePairs.foldl (substituted size) file

section Image

variable {size offset : Nat} {file : List UInt8}

/-- None of the GUIDs is left where the loops have looked. -/
theorem absent_driverImage (below : offset + 16 < size) :
    ∀ pair ∈ driverImagePairs, ¬ OccursAt pair.1.bytes (driverImage size file) offset := by
  have fuses := fuses_driverBinding_rootBridgeIo
  intro pair member occurs
  simp only [driverImagePairs, List.mem_cons, List.not_mem_nil, or_false] at member
  rcases member with rfl | rfl | rfl
  · have before := of_substituted (resourceAllocation_never_writes _ (by simp)) occurs
    exact absent_substituted fuses.written₁ below (of_substituted fuses.oldNew before)
  · have before := of_substituted (resourceAllocation_never_writes _ (by simp)) occurs
    exact absent_substituted fuses.written₂ below before
  · exact absent_substituted (resourceAllocation_never_meets _ (by simp)) below occurs

/-- A driver-binding GUID is replaced unless the second run comes across its substitute. -/
theorem driverBinding_replaced (occurs : OccursAt driverBindingPair.1.bytes file offset)
    (below : offset + 16 < size)
    (free : offset + 31 < size → ¬ OccursAt fusedGuids file offset) :
    OccursAt driverBindingPair.2.bytes (driverImage size file) offset := by
  have width := driverBindingPair.2.length_bytes
  refine kept_substituted (resourceAllocation_never_meets _ (by simp)) ?_
  refine fuses_driverBinding_rootBridgeIo.occursAt_first_of_not_fused
    driverBindingPair.1.length_pos (rootBridgeIoPair.1.length_eq driverBindingPair.1)
    (driverBindingPair.2.length_eq driverBindingPair.1)
    (rootBridgeIoPair.2.length_eq driverBindingPair.1) occurs (by omega) fun seen => ?_
  exact free (by omega)

theorem rootBridgeIo_replaced (occurs : OccursAt rootBridgeIoPair.1.bytes file offset)
    (below : offset + 16 < size) :
    OccursAt rootBridgeIoPair.2.bytes (driverImage size file) offset := by
  have fuses := fuses_driverBinding_rootBridgeIo
  have width := rootBridgeIoPair.1.length_bytes
  have before : OccursAt rootBridgeIoPair.1.bytes (substituted size file driverBindingPair)
      offset := kept_substituted fuses.olds.symm occurs
  refine kept_substituted (resourceAllocation_never_meets _ (by simp)) ?_
  refine replaced_substituted fuses.written₂ (fun other lower found => ?_) before below
  by_contra overlap
  exact fuses.self₂ (straddles_of_occursAt rfl found before lower (by omega))

/-- A resource-allocation GUID is replaced if there are no doubled ones. -/
theorem resourceAllocation_replaced
    (occurs : OccursAt resourceAllocationPair.1.bytes file offset) (below : offset + 16 < size)
    (free : ∀ other, other + 31 < size → ¬ OccursAt doubledGuid file other) :
    OccursAt resourceAllocationPair.2.bytes (driverImage size file) offset := by
  have width := resourceAllocationPair.1.length_bytes
  have never {word : List UInt8} (member : word ∈ [driverBindingPair.1.bytes,
      driverBindingPair.2.bytes, rootBridgeIoPair.1.bytes, rootBridgeIoPair.2.bytes,
      resourceAllocationPair.2.bytes]) : NeverMeet resourceAllocationPair.1.bytes word :=
    (resourceAllocation_never_meets word member).symm
  have before : OccursAt resourceAllocationPair.1.bytes
      (substituted size (substituted size file driverBindingPair) rootBridgeIoPair) offset :=
    kept_substituted (never (by simp)) (kept_substituted (never (by simp)) occurs)
  refine replaced_substituted (resourceAllocation_never_meets _ (by simp))
    (fun other lower found => ?_) before below
  -- Whatever this run comes across was there from the start.
  have original := of_substituted (never (by simp)) (of_substituted (never (by simp)) found)
  by_contra overlap
  obtain ⟨_, doubled⟩ :=
    doubles_resourceAllocation.occursAt_fused original occurs lower (by omega)
  exact free other (by omega) doubled

/-- The substitute of a driver-binding GUID does not survive where the second run strikes. -/
theorem not_replaced_of_fused (occurs : OccursAt fusedGuids file offset)
    (seen : offset + 31 < size) :
    ¬ OccursAt driverBindingPair.2.bytes (driverImage size file) offset := by
  have fuses := fuses_driverBinding_rootBridgeIo
  have lengths := rootBridgeIoPair.1.length_eq driverBindingPair.1
  have lengths₁ := driverBindingPair.2.length_eq driverBindingPair.1
  have lengths₂ := rootBridgeIoPair.2.length_eq driverBindingPair.1
  have width := driverBindingPair.2.length_bytes
  have second : OccursAt rootBridgeIoPair.2.bytes
      (substituted size (substituted size file driverBindingPair) rootBridgeIoPair)
      (offset + (driverBindingPair.2.bytes.length - 1)) :=
    fuses.occursAt_second driverBindingPair.1.length_pos lengths lengths₁ lengths₂ occurs
      (by omega)
  have written : OccursAt rootBridgeIoPair.2.bytes (driverImage size file)
      (offset + (driverBindingPair.2.bytes.length - 1)) :=
    kept_substituted (resourceAllocation_never_meets _ (by simp)) second
  exact fun kept => fuses.not_both lengths lengths₁ lengths₂ kept written

/-- Substitutes of two overlapping resource-allocation GUIDs would overlap as well. -/
theorem not_both_replaced_of_doubled {image : List UInt8}
    (first : OccursAt resourceAllocationPair.2.bytes image offset)
    (second : OccursAt resourceAllocationPair.2.bytes image (offset + 15)) : False := by
  have width := resourceAllocationPair.2.length_bytes
  have straddles := straddles_of_occursAt rfl first second (by omega) (by omega)
  revert straddles
  decide

/-- Every GUID that the loops get to see is replaced, but for the fused and the doubled ones. -/
theorem driverImage_replaces_iff :
    (∀ pair ∈ driverImagePairs, ∀ offset, offset + 16 < size →
        OccursAt pair.1.bytes file offset →
          OccursAt pair.2.bytes (driverImage size file) offset) ↔
      ∀ offset, offset + 31 < size →
        ¬ OccursAt fusedGuids file offset ∧ ¬ OccursAt doubledGuid file offset := by
  constructor
  · intro replaced offset seen
    refine ⟨fun fusedThere => ?_, fun doubledThere => ?_⟩
    · have old := (occursAt_append.mp fusedThere).1
      exact not_replaced_of_fused fusedThere seen
        (replaced driverBindingPair (by simp [driverImagePairs]) offset (by omega) old)
    · obtain ⟨first, second⟩ := doubles_resourceAllocation.occursAt_both doubledThere
      have replacedAt := replaced resourceAllocationPair (by simp [driverImagePairs])
      exact not_both_replaced_of_doubled (replacedAt offset (by omega) first)
        (replacedAt (offset + 15) (by omega) second)
  · intro free pair member offset below occurs
    simp only [driverImagePairs, List.mem_cons, List.not_mem_nil, or_false] at member
    rcases member with rfl | rfl | rfl
    · exact driverBinding_replaced occurs below fun seen => (free offset seen).1
    · exact rootBridgeIo_replaced occurs below
    · exact resourceAllocation_replaced occurs below fun other seen => (free other seen).2

end Image

/--
The image that the three runs leave holds none of the three GUIDs where the loops look.
Each of them has become its substitute exactly if the file holds neither fused GUIDs nor
two resource-allocation GUIDs that share a byte.
-/
theorem driver_image_complete_iff (libc : Libc) (works : libc.Works) (file : List UInt8)
    (lower : 16 ≤ file.length) (upper : file.length < 2 ^ 31) :
    ∃ image statuses, runAll libc driverImagePairs file = .ok (image, statuses) ∧
      (∀ pair ∈ driverImagePairs, ∀ offset, offset + 16 < file.length →
        ¬ OccursAt pair.1.bytes image offset) ∧
      ((∀ pair ∈ driverImagePairs, ∀ offset, offset + 16 < file.length →
          OccursAt pair.1.bytes file offset → OccursAt pair.2.bytes image offset) ↔
        ∀ offset, offset + 31 < file.length →
          ¬ OccursAt fusedGuids file offset ∧ ¬ OccursAt doubledGuid file offset) :=
  ⟨driverImage file.length file, reports file.length driverImagePairs file,
    runAll_eq lower upper works driverImagePairs rfl,
    fun pair member _ below => absent_driverImage below pair member, driverImage_replaces_iff⟩

/-- Of two resource-allocation GUIDs that share a byte, one is lost. -/
theorem driver_image_complete_doubled :
    ∃ image statuses,
      runAll workingLibc driverImagePairs (doubledGuid ++ [0]) = .ok (image, statuses) ∧
        ¬ ∀ pair ∈ driverImagePairs, ∀ offset, offset + 16 < (doubledGuid ++ [0]).length →
          OccursAt pair.1.bytes (doubledGuid ++ [0]) offset →
            OccursAt pair.2.bytes image offset := by
  obtain ⟨image, statuses, runs, _, replaced⟩ := driver_image_complete_iff workingLibc
    workingLibc_works (doubledGuid ++ [0]) (by decide) (by decide)
  refine ⟨image, statuses, runs, fun all => ?_⟩
  exact (replaced.mp all 0 (by decide)).2 (by decide)

end Thundermod.Guidsub
