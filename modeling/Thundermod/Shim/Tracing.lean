import Thundermod.Shim.Transparency
import Thundermod.Words.Records

/-!
# Trace output

`SubmitResources` and `NotifyPhase` print names that they look up by a raw resource
type and a raw phase before they pass the call on.
-/

namespace Thundermod.Shim

open Words

/-- A lookup is inside its table, and nothing is read behind the end of a buffer. -/
def Event.InRange : Event → Prop
  | .nameLookup entries index => index < entries
  | .overread _ => False
  | _ => True

/-- The descriptors whose fields have been printed, in the order of the output. -/
def printedDescriptors (events : List Event) : List (List UInt8) :=
  (events.filterMap fun
    | .printed descriptor => some descriptor
    | _ => none).reverse

/-- The bytes of an address-space descriptor. -/
abbrev IsDescriptor (bytes : List UInt8) : Prop :=
  IsRecord sizeofDescriptor acpiAddressSpaceDescriptor bytes

/-- `Descriptor->ResType`. -/
def resType (descriptor : List UInt8) : Nat :=
  (descriptor.getD resTypeOffset 0).toNat

/-! ## The walk -/

section Walk

variable {configuration : Buffer}

/-- What is printed of a descriptor depends only on its own bytes. -/
theorem traceDescriptor_take (desc : UInt8) (rest : List UInt8) (m : Machine) :
    traceDescriptor configuration (desc :: rest.take (sizeofDescriptor - 1)) m =
      traceDescriptor configuration (desc :: rest) m := by
  have room : sizeofDescriptor ≤ (desc :: rest.take (sizeofDescriptor - 1)).length ↔
      sizeofDescriptor ≤ (desc :: rest).length := by
    simp only [List.length_cons, List.length_take, sizeofDescriptor]
    omega
  have same : (desc :: rest.take (sizeofDescriptor - 1)).getD resTypeOffset 0 =
      (desc :: rest).getD resTypeOffset 0 := by
    simp [resTypeOffset, sizeofDescriptor]
  have fields : (desc :: rest.take (sizeofDescriptor - 1)).take sizeofDescriptor =
      (desc :: rest).take sizeofDescriptor := by
    simp [sizeofDescriptor, List.take_take]
  simp only [traceDescriptor, room, same, fields]

/-- The loop of `SubmitResources` is the walk over tagged records, whatever the bytes are. -/
theorem traceDescriptors_eq_foldl (bytes : List UInt8) (m : Machine) :
    traceDescriptors configuration bytes m =
      let walk := splitRecords sizeofDescriptor acpiAddressSpaceDescriptor bytes
      let traced := walk.1.foldl (fun m record => traceDescriptor configuration record m) m
      if walk.2 = [] then traced.record (.overread configuration.address) else traced := by
  fun_induction traceDescriptors configuration bytes m with
  | case1 m => rw [splitRecords]; rfl
  | case2 m rest ih =>
      rw [splitRecords, if_pos rfl, ih]
      simp only [List.foldl_cons, traceDescriptor_take]
  | case3 m desc rest other =>
      rw [splitRecords, if_neg other]
      rfl

/-- The output for a sequence of descriptors, the latest first. -/
def traceEvents (descriptors : List (List UInt8)) : List Event :=
  (descriptors.flatMap fun descriptor =>
    [.nameLookup mAcpiAddressSpaceTypeStr.length (resType descriptor),
      .printed descriptor]).reverse

theorem foldl_traceDescriptor {descriptors : List (List UInt8)}
    (all : ∀ descriptor ∈ descriptors, IsDescriptor descriptor) (m : Machine) :
    descriptors.foldl (fun m descriptor => traceDescriptor configuration descriptor m) m =
      { m with log := traceEvents descriptors ++ m.log } := by
  induction descriptors generalizing m with
  | nil => rfl
  | cons descriptor rest ih =>
      have size : descriptor.length = sizeofDescriptor := (all descriptor List.mem_cons_self).length
      have fields : descriptor.take sizeofDescriptor = descriptor :=
        List.take_of_length_le (Nat.le_of_eq size)
      rw [List.foldl_cons, ih fun other member => all other (List.mem_cons_of_mem _ member)]
      simp only [traceDescriptor, if_pos (Nat.le_of_eq size.symm), fields, lookupName,
        Machine.record, traceEvents, resType, List.flatMap_cons, List.reverse_append,
        List.append_assoc]
      rfl

/--
On descriptors that are followed by another item, the loop visits each of them once
and stops at that item.
-/
theorem traceDescriptors_of_complete {descriptors : List (List UInt8)} {tail : List UInt8}
    (all : ∀ descriptor ∈ descriptors, IsDescriptor descriptor) (ended : tail ≠ [])
    (stops : tail.head? ≠ some acpiAddressSpaceDescriptor) (m : Machine) :
    traceDescriptors configuration (descriptors.flatten ++ tail) m =
      { m with log := traceEvents descriptors ++ m.log } := by
  rw [traceDescriptors_eq_foldl, splitRecords_flatten all stops]
  dsimp only
  rw [if_neg ended, foldl_traceDescriptor all]

theorem inRange_traceEvents (descriptors : List (List UInt8)) :
    (∀ event ∈ traceEvents descriptors, event.InRange) ↔
      ∀ descriptor ∈ descriptors, resType descriptor < mAcpiAddressSpaceTypeStr.length := by
  constructor
  · intro inRange descriptor member
    have printed : .nameLookup mAcpiAddressSpaceTypeStr.length (resType descriptor) ∈
        traceEvents descriptors :=
      List.mem_reverse.mpr (List.mem_flatMap.mpr ⟨descriptor, member, List.mem_cons_self⟩)
    exact inRange _ printed
  · intro named event member
    obtain ⟨descriptor, inside, one⟩ := List.mem_flatMap.mp (List.mem_reverse.mp member)
    rcases List.mem_pair.mp one with rfl | rfl
    · exact named descriptor inside
    · trivial

theorem printedDescriptors_traceEvents (descriptors : List (List UInt8)) :
    printedDescriptors (traceEvents descriptors) = descriptors := by
  induction descriptors with
  | nil => rfl
  | cons descriptor rest ih =>
      simp only [printedDescriptors, traceEvents, ← List.filterMap_reverse, List.reverse_reverse,
        List.flatMap_cons] at ih ⊢
      exact congrArg (descriptor :: ·) ih

end Walk

/-! ## The two functions -/

section Functions

variable {σ : Type} {host : HostBridge σ} {this : ResourceAllocationPtr} {world : World σ}
  {original : HostResourceAllocation} {found : Machine}

/--
The call is passed on unmodified behind trace output of the given descriptors, each of
them once and in this order, and this output stays in range.  The output is what the log
of the result has in front of the log before.
-/
def TracedInRange {signature : ResourceAllocationSignature}
    (entry : ResourceAllocationEntry signature) (arguments : signature.Arguments)
    (original : HostResourceAllocation) (host : HostBridge σ) (world : World σ) (found : Machine)
    (visited : List (List UInt8)) (result : Except Fault (World σ × EfiStatus)) : Prop :=
  ∃ events,
    result = .ok
      (⟨{ found with log := events ++ found.log },
        (world.base.call host (.resourceAllocation original ⟨signature, entry, arguments⟩)).1⟩,
        (world.base.call host (.resourceAllocation original ⟨signature, entry, arguments⟩)).2) ∧
    printedDescriptors events = visited ∧ ∀ event ∈ events, event.InRange

/-- The output of a call that has returned is the one that its result shows. -/
theorem tracedInRange_iff {signature : ResourceAllocationSignature}
    {entry : ResourceAllocationEntry signature} {arguments : signature.Arguments}
    {events : List Event} {visited : List (List UInt8)}
    {result : Except Fault (World σ × EfiStatus)}
    (returns : result = .ok
      (⟨{ found with log := events ++ found.log },
        (world.base.call host (.resourceAllocation original ⟨signature, entry, arguments⟩)).1⟩,
        (world.base.call host (.resourceAllocation original ⟨signature, entry, arguments⟩)).2)) :
    TracedInRange entry arguments original host world found visited result ↔
      printedDescriptors events = visited ∧ ∀ event ∈ events, event.InRange := by
  constructor
  · rintro ⟨events', returns', visits, inRange⟩
    have logs := congrArg (·.1.machine.log) (Except.ok.inj (returns.symm.trans returns'))
    obtain rfl : events = events' := List.append_cancel_right logs
    exact ⟨visits, inRange⟩
  · exact fun traced => ⟨events, returns, traced⟩

variable
  (found_original : findResourceAllocationProtocolMappingBySubstitute this world.machine =
    .ok (some original, found))

include found_original in
/-- What a forwarder does once it has found the original. -/
theorem forwardResourceAllocation_of_found {signature : ResourceAllocationSignature}
    (entry : ResourceAllocationEntry signature)
    (trace : signature.Arguments → Machine → Machine) (arguments : signature.Arguments)
    {events : List Event}
    (traced : trace arguments found = { found with log := events ++ found.log }) :
    forwardResourceAllocation entry trace host this arguments world = .ok
      (⟨{ found with log := events ++ found.log },
        (world.base.call host (.resourceAllocation original ⟨signature, entry, arguments⟩)).1⟩,
        (world.base.call host
          (.resourceAllocation original ⟨signature, entry, arguments⟩)).2) := by
  simp only [forwardResourceAllocation, found_original, traced]

include found_original in
theorem submitResources_traced_iff (rootBridgeHandle : EfiHandle) (address : Pointer)
    {descriptors : List (List UInt8)} {tail : List UInt8}
    (all : ∀ descriptor ∈ descriptors, IsDescriptor descriptor) (ended : tail ≠ [])
    (stops : tail.head? ≠ some acpiAddressSpaceDescriptor) :
    TracedInRange .submitResources ⟨rootBridgeHandle, ⟨address, descriptors.flatten ++ tail⟩⟩
        original host world found descriptors
        (submitResources host this
          ⟨rootBridgeHandle, ⟨address, descriptors.flatten ++ tail⟩⟩ world) ↔
      ∀ descriptor ∈ descriptors, resType descriptor < mAcpiAddressSpaceTypeStr.length := by
  refine (tracedInRange_iff (forwardResourceAllocation_of_found found_original .submitResources
    traceResources ⟨rootBridgeHandle, ⟨address, descriptors.flatten ++ tail⟩⟩
    (traceDescriptors_of_complete all ended stops found))).trans ?_
  rw [inRange_traceEvents]
  exact and_iff_right (printedDescriptors_traceEvents descriptors)

include found_original in
theorem notifyPhase_traced_iff (phase : UInt32) :
    TracedInRange .notifyPhase ⟨phase⟩ original host world found []
        (notifyPhase host this ⟨phase⟩ world) ↔
      phase.toNat < mNotifyPhaseTypes.length := by
  have traced : tracePhase ⟨phase⟩ found =
      { found with log := [.nameLookup mNotifyPhaseTypes.length phase.toNat] ++ found.log } := rfl
  refine (tracedInRange_iff (forwardResourceAllocation_of_found found_original .notifyPhase
    tracePhase ⟨phase⟩ traced)).trans ?_
  simp [printedDescriptors, Event.InRange]

end Functions

/--
The trace output of the two functions stays inside its tables exactly for the
resource types and the phases that have a name.  Where the loop stops and what is passed
on does not depend on them: see `traceDescriptors_of_complete` and
`forwardResourceAllocation_of_found`.
-/
theorem tracing_in_range_iff {σ : Type} (host : HostBridge σ) (this : ResourceAllocationPtr)
    (world : World σ) (original : HostResourceAllocation) (found : Machine)
    (found_original : findResourceAllocationProtocolMappingBySubstitute this world.machine =
      .ok (some original, found))
    (rootBridgeHandle : EfiHandle) (address : Pointer) (descriptors : List (List UInt8))
    (tail : List UInt8) (phase : UInt32)
    (all : ∀ descriptor ∈ descriptors, IsDescriptor descriptor) (ended : tail ≠ [])
    (stops : tail.head? ≠ some acpiAddressSpaceDescriptor) :
    (TracedInRange .submitResources ⟨rootBridgeHandle, ⟨address, descriptors.flatten ++ tail⟩⟩
        original host world found descriptors
        (submitResources host this
          ⟨rootBridgeHandle, ⟨address, descriptors.flatten ++ tail⟩⟩ world) ↔
      ∀ descriptor ∈ descriptors, resType descriptor < mAcpiAddressSpaceTypeStr.length) ∧
    (TracedInRange .notifyPhase ⟨phase⟩ original host world found []
        (notifyPhase host this ⟨phase⟩ world) ↔
      phase.toNat < mNotifyPhaseTypes.length) :=
  ⟨submitResources_traced_iff found_original rootBridgeHandle address all ended stops,
    notifyPhase_traced_iff found_original phase⟩

/-- A descriptor with the given resource type, and zeros in the other fields. -/
def descriptorOfType (resourceType : UInt8) : List UInt8 :=
  [0x8A, 0x2B, 0x00, resourceType] ++ List.replicate 42 0

/-- The substitute of the started controller, with a base side that counts its calls. -/
def startedWorld : World Nat :=
  ⟨startedMachine, ⟨0, []⟩⟩

theorem found_startedWorld :
    findResourceAllocationProtocolMappingBySubstitute (.substituted (some 2)) startedWorld.machine =
      .ok (some ⟨0x200⟩, startedMachine) :=
  rfl

theorem isDescriptor_descriptorOfType (resourceType : UInt8) :
    IsDescriptor (descriptorOfType resourceType) :=
  ⟨rfl, rfl⟩

theorem tracing_in_range_started :
    (TracedInRange .submitResources ⟨7, ⟨0x500, [descriptorOfType 2].flatten ++ [0x79, 0]⟩⟩
        ⟨0x200⟩ countingHost startedWorld startedMachine [descriptorOfType 2]
        (submitResources countingHost (.substituted (some 2))
          ⟨7, ⟨0x500, [descriptorOfType 2].flatten ++ [0x79, 0]⟩⟩ startedWorld) ↔
      ∀ descriptor ∈ [descriptorOfType 2], resType descriptor < mAcpiAddressSpaceTypeStr.length) ∧
    (TracedInRange .notifyPhase ⟨9⟩ ⟨0x200⟩ countingHost startedWorld startedMachine []
        (notifyPhase countingHost (.substituted (some 2)) ⟨9⟩ startedWorld) ↔
      (9 : UInt32).toNat < mNotifyPhaseTypes.length) :=
  tracing_in_range_iff _ (.substituted (some 2)) startedWorld ⟨0x200⟩ startedMachine
    found_startedWorld 7 0x500 [descriptorOfType 2] [0x79, 0] 9
    (fun _ member => List.mem_singleton.mp member ▸ isDescriptor_descriptorOfType 2) (by decide)
    (by decide)

/-- A descriptor of type 3 makes the trace output read behind the table of names. -/
theorem tracing_reads_behind_table :
    ¬ ∀ (descriptors : List (List UInt8)) (tail : List UInt8),
      (∀ descriptor ∈ descriptors, IsDescriptor descriptor) → tail ≠ [] →
      tail.head? ≠ some acpiAddressSpaceDescriptor →
        TracedInRange .submitResources ⟨7, ⟨0x500, descriptors.flatten ++ tail⟩⟩
          ⟨0x200⟩ countingHost startedWorld startedMachine descriptors
          (submitResources countingHost (.substituted (some 2))
            ⟨7, ⟨0x500, descriptors.flatten ++ tail⟩⟩ startedWorld) := by
  intro holds
  have traced := holds [descriptorOfType 3] [0x79, 0]
    (fun _ member => List.mem_singleton.mp member ▸ isDescriptor_descriptorOfType 3) (by decide)
    (by decide)
  have named := (submitResources_traced_iff found_startedWorld 7 0x500
    (fun _ member => List.mem_singleton.mp member ▸ isDescriptor_descriptorOfType 3) (by decide)
    (by decide)).mp traced (descriptorOfType 3) List.mem_cons_self
  exact absurd named (by decide)

end Thundermod.Shim
