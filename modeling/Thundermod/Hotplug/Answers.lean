import Thundermod.Hotplug.Padding
import Thundermod.Shim.Tracing

/-!
# Padding answers

The buffer of descriptors is well formed for every address, and the loop of
`SubmitResources` walks it down to its end tag.  The state of the controller is
assigned on the branches of the listed controllers only.
-/

namespace Thundermod.Hotplug

open Words Guidsub Shim

/-! ## One descriptor -/

theorem FieldStore.fits (field : FieldStore) :
    field.store.1 + field.store.2.length ≤ sizeofDescriptor := by
  cases field <;> simp [store, offset, bytes, bytes16, bytes64, sizeofDescriptor]

theorem storesFit (fields : List FieldStore) :
    StoresFit sizeofDescriptor (fields.map FieldStore.store) := by
  intro store member
  obtain ⟨field, _, rfl⟩ := List.mem_map.mp member
  exact field.fits

/-- The stores start with the header of a descriptor, and leave it alone afterwards. -/
structure StoresHeader (fields : List FieldStore) (resourceType : UInt8) : Prop where
  starts : [.desc 0x8A, .len 0x2B, .resType resourceType] <+: fields
  keeps : ∀ field ∈ fields.drop 3, resTypeOffset < field.offset
  named : resourceType.toNat < mAcpiAddressSpaceTypeStr.length

/-- A descriptor of the given type. -/
structure IsDescriptorOf (resourceType : UInt8) (bytes : List UInt8) : Prop where
  length : bytes.length = sizeofDescriptor
  header : bytes.take 4 = acpiAddressSpaceDescriptor :: bytes16 0x2B ++ [resourceType]

/-- The memory of a descriptor behind `ZeroMem`. -/
def blankDescriptor : List UInt8 :=
  List.replicate sizeofDescriptor 0

theorem length_blankDescriptor : blankDescriptor.length = sizeofDescriptor :=
  List.length_replicate

theorem StoresHeader.isDescriptorOf {fields : List FieldStore} {resourceType : UInt8}
    {bytes : List UInt8} (stores : StoresHeader fields resourceType)
    (filled : storeAll 0 (fields.map FieldStore.store) blankDescriptor = some bytes) :
    IsDescriptorOf resourceType bytes := by
  obtain ⟨⟨others, rfl⟩, keeps, _⟩ := stores
  constructor
  · rw [length_of_storeAll filled, length_blankDescriptor]
  · -- The first three stores write the header into the blank descriptor.
    let headed : List UInt8 := [0x8A, 0x2B, 0x00, resourceType] ++ List.replicate 42 0
    have behind : storeAll 0 (others.map FieldStore.store) headed = some bytes := filled
    have fits : StoresFit headed.length (others.map FieldStore.store) := storesFit others
    refine (storeAll_take fits ?_ behind).trans rfl
    intro store member
    obtain ⟨field, other, rfl⟩ := List.mem_map.mp member
    exact keeps field other

namespace IsDescriptorOf

variable {resourceType : UInt8} {bytes : List UInt8}

theorem eq_append (descriptor : IsDescriptorOf resourceType bytes) :
    bytes = [0x8A, 0x2B, 0x00, resourceType] ++ bytes.drop 4 := by
  have header := descriptor.header
  rw [show acpiAddressSpaceDescriptor :: bytes16 0x2B ++ [resourceType] =
    [0x8A, 0x2B, 0x00, resourceType] from rfl] at header
  rw [← header, List.take_append_drop]

theorem isDescriptor (descriptor : IsDescriptorOf resourceType bytes) : IsDescriptor bytes where
  length := descriptor.length
  tagged := by
    rw [descriptor.eq_append]
    rfl

theorem len (descriptor : IsDescriptorOf resourceType bytes) :
    (bytes.drop 1).take 2 = bytes16 0x2B := by
  rw [descriptor.eq_append]
  rfl

theorem resType (descriptor : IsDescriptorOf resourceType bytes) :
    resType bytes = resourceType.toNat := by
  rw [descriptor.eq_append]
  rfl

end IsDescriptorOf

/-! ## The block -/

/-- The end tag with its checksum. -/
def endTag : List UInt8 := [acpiEndTagDescriptor, 0x0]

/-- What is written for a sequence of descriptors: the filled records and the end tag. -/
structure WrittenAs (descriptors : List (List FieldStore)) (bytes : List UInt8)
    (records : List (List UInt8)) (rest : List UInt8) : Prop where
  filled : List.Forall₂
    (fun fields record => storeAll 0 (fields.map FieldStore.store) blankDescriptor = some record)
    descriptors records
  layout : bytes = records.flatten ++ (endTag ++ rest)
  size : bytes.length = paddingSize

theorem zeroMem_eq {bytes : List UInt8} (length : bytes.length = paddingSize) :
    zeroMem bytes paddingSize = some (List.replicate paddingSize 0) := by
  have room : 0 + (List.replicate paddingSize (0 : UInt8)).length ≤ bytes.length := by
    rw [length, List.length_replicate, Nat.zero_add]
  rw [zeroMem, storeAt_of_room room]
  simp [overwrite, ← length]

/-- A zeroed block is a sequence of blank descriptors with room for an end tag behind it. -/
theorem replicate_paddingSize {count : Nat} (few : count ≤ paddingNum) :
    List.replicate paddingSize (0 : UInt8) =
      (List.replicate count blankDescriptor).flatten ++
        (List.replicate sizeofEndTag 0 ++
          List.replicate ((paddingNum - count) * sizeofDescriptor) 0) := by
  simp only [blankDescriptor, List.flatten_replicate_replicate, List.replicate_append_replicate]
  congr 1
  simp only [paddingSize, Nat.sub_mul]
  have := Nat.mul_le_mul_right sizeofDescriptor few
  omega

/-- The block is written without a store outside of it. -/
theorem writePadding_spec {descriptors : List (List FieldStore)}
    (few : descriptors.length ≤ paddingNum) {bytes : List UInt8}
    (length : bytes.length = paddingSize) :
    ∃ written records rest, writePadding descriptors bytes = some written ∧
      WrittenAs descriptors written records rest := by
  have fits : ∀ stores ∈ descriptors.map (·.map FieldStore.store),
      StoresFit blankDescriptor.length stores := by
    intro stores member
    obtain ⟨fields, _, rfl⟩ := List.mem_map.mp member
    exact storesFit fields
  obtain ⟨records, filled, runs⟩ := fillRecords_blank fits []
    (List.replicate sizeofEndTag 0 ++
      List.replicate ((paddingNum - descriptors.length) * sizeofDescriptor) 0)
  rw [List.nil_append, List.length_map, ← replicate_paddingSize few, List.length_nil,
    Nat.zero_add, List.nil_append, length_blankDescriptor] at runs
  have tagged : storeAll records.flatten.length endTagStores
      (records.flatten ++ List.replicate sizeofEndTag 0 ++
        List.replicate ((paddingNum - descriptors.length) * sizeofDescriptor) 0) =
      some (records.flatten ++ endTag ++
        List.replicate ((paddingNum - descriptors.length) * sizeofDescriptor) 0) :=
    storeAll_append (by decide) rfl _ _
  have written : writePadding descriptors bytes = some (records.flatten ++ endTag ++
      List.replicate ((paddingNum - descriptors.length) * sizeofDescriptor) 0) := by
    simp only [writePadding, zeroMem_eq length, Option.bind_eq_bind, Option.bind_some, runs]
    rw [← List.append_assoc]
    exact tagged
  refine ⟨_, records, _, written, List.forall₂_map_left_iff.mp filled, List.append_assoc .., ?_⟩
  rw [length_of_storeAll tagged, List.append_assoc, length_of_fillRecords runs]
  exact List.length_replicate

/-! ## The branches -/

/-- Every amount of padding starts with the header of a resource type that has a name. -/
theorem paddings_header :
    ∀ fields ∈ [nonprefetchMemPadding, prefetchMemPadding, ioPadding, busPadding],
      ∃ resourceType, StoresHeader fields resourceType := by
  intro fields member
  simp only [List.mem_cons, List.not_mem_nil, or_false] at member
  rcases member with rfl | rfl | rfl | rfl
  all_goals
    refine ⟨_, ⟨_, rfl⟩, ?_, by decide⟩
    simp [nonprefetchMemPadding, prefetchMemPadding, ioPadding, busPadding, FieldStore.offset,
      resTypeOffset]

/-- The branches by the controllers that they are for. -/
theorem branch_cases (location : PciLocation) :
    location = rp ∧ branch location =
        ⟨[nonprefetchMemPadding, prefetchMemPadding, ioPadding],
          some (efiHpcStateInitialized ||| efiHpcStateEnabled)⟩ ∨
      (location = hp1 ∨ location = hp2) ∧ branch location =
        ⟨[busPadding], some (efiHpcStateInitialized ||| efiHpcStateEnabled)⟩ ∨
      location ∉ [rp, hp1, hp2] ∧ branch location = ⟨[], none⟩ := by
  by_cases root : location = rp
  · exact Or.inl ⟨root, if_pos root⟩
  · by_cases port : location = hp1 ∨ location = hp2
    · exact Or.inr (Or.inl ⟨port, (if_neg root).trans (if_pos port)⟩)
    · refine Or.inr (Or.inr ⟨?_, (if_neg root).trans (if_neg port)⟩)
      rw [List.mem_cons, List.mem_cons, List.mem_singleton]
      exact fun listed => listed.elim root port

theorem branch_header (location : PciLocation) :
    ∀ fields ∈ (branch location).descriptors, ∃ resourceType, StoresHeader fields resourceType := by
  intro fields member
  rcases branch_cases location with ⟨_, taken⟩ | ⟨_, taken⟩ | ⟨_, taken⟩ <;> rw [taken] at member
  · exact paddings_header fields (List.mem_append_left [busPadding] member)
  · exact paddings_header fields
      (List.mem_append_right [nonprefetchMemPadding, prefetchMemPadding, ioPadding] member)
  · cases member

theorem branch_few (location : PciLocation) :
    (branch location).descriptors.length ≤ paddingNum := by
  rcases branch_cases location with ⟨_, taken⟩ | ⟨_, taken⟩ | ⟨_, taken⟩ <;> rw [taken] <;> decide

/-- The state is assigned on the branches of the listed controllers. -/
theorem branch_hpcState_isAssigned_iff (location : PciLocation) (content : UInt16) :
    ((OutParameter.prior content).assign? (branch location).hpcState).IsAssigned ↔
      location ∈ [rp, hp1, hp2] := by
  rcases branch_cases location with ⟨root, taken⟩ | ⟨port, taken⟩ | ⟨other, taken⟩
  · rw [taken, root]
    exact iff_of_true trivial List.mem_cons_self
  · rw [taken]
    exact iff_of_true trivial (List.mem_cons_of_mem _ (by simpa using port))
  · rw [taken]
    exact iff_of_false id other

/-! ## The buffer -/

/--
A padding buffer: a sequence of descriptors and an end tag inside the allocated size,
which the loop of `SubmitResources` visits one after the other.
-/
structure IsPadding (buffer : Buffer) (records : List (List UInt8)) (rest : List UInt8) :
    Prop where
  layout : buffer.bytes = records.flatten ++ (endTag ++ rest)
  size : buffer.bytes.length = paddingSize
  few : records.length ≤ paddingNum
  descriptor : ∀ record ∈ records, IsDescriptor record ∧ (record.drop 1).take 2 = bytes16 0x2B
  split : splitRecords sizeofDescriptor acpiAddressSpaceDescriptor buffer.bytes =
    (records, endTag ++ rest)
  walked : ∀ m, traceDescriptors buffer buffer.bytes m =
    { m with log := traceEvents records ++ m.log }

/-- Filled records are descriptors of the types that the stores give them. -/
theorem WrittenAs.isDescriptorOf {descriptors : List (List FieldStore)} {bytes : List UInt8}
    {records : List (List UInt8)} {rest : List UInt8}
    (written : WrittenAs descriptors bytes records rest)
    (headers : ∀ fields ∈ descriptors, ∃ resourceType, StoresHeader fields resourceType) :
    ∀ record ∈ records, ∃ resourceType : UInt8,
      resourceType.toNat < mAcpiAddressSpaceTypeStr.length ∧
        IsDescriptorOf resourceType record := by
  have filled := written.filled
  clear written
  induction filled with
  | nil => exact fun _ member => nomatch member
  | cons stored _ ih =>
      intro record member
      rcases List.mem_cons.mp member with rfl | later
      · obtain ⟨resourceType, header⟩ := headers _ List.mem_cons_self
        exact ⟨resourceType, header.named, header.isDescriptorOf stored⟩
      · exact ih (fun fields other => headers fields (List.mem_cons_of_mem _ other)) record later

/-- What the trace output of `SubmitResources` looks up for a padding buffer has a name. -/
theorem WrittenAs.inRange {descriptors : List (List FieldStore)} {bytes : List UInt8}
    {records : List (List UInt8)} {rest : List UInt8}
    (written : WrittenAs descriptors bytes records rest)
    (headers : ∀ fields ∈ descriptors, ∃ resourceType, StoresHeader fields resourceType) :
    ∀ event ∈ traceEvents records, event.InRange := by
  rw [inRange_traceEvents]
  intro record member
  obtain ⟨resourceType, named, descriptor⟩ := written.isDescriptorOf headers record member
  rw [descriptor.resType]
  exact named

theorem WrittenAs.isPadding {descriptors : List (List FieldStore)} {bytes : List UInt8}
    {records : List (List UInt8)} {rest : List UInt8}
    (written : WrittenAs descriptors bytes records rest)
    (few : descriptors.length ≤ paddingNum)
    (headers : ∀ fields ∈ descriptors, ∃ resourceType, StoresHeader fields resourceType)
    (address : Pointer) : IsPadding ⟨address, bytes⟩ records rest := by
  have typed := written.isDescriptorOf headers
  have all : ∀ record ∈ records, IsDescriptor record := by
    intro record member
    obtain ⟨_, _, descriptor⟩ := typed record member
    exact descriptor.isDescriptor
  have stops : (endTag ++ rest).head? ≠ some acpiAddressSpaceDescriptor := by
    rw [show (endTag ++ rest).head? = some acpiEndTagDescriptor from rfl]
    decide
  constructor
  · exact written.layout
  · exact written.size
  · rw [← written.filled.length_eq]
    exact few
  · intro record member
    obtain ⟨_, _, descriptor⟩ := typed record member
    exact ⟨descriptor.isDescriptor, descriptor.len⟩
  · rw [written.layout]
    exact splitRecords_flatten all stops
  · intro m
    rw [written.layout]
    exact traceDescriptors_of_complete all (by simp [endTag]) stops m

/-! ## The answer -/

/-- All three out parameters have been assigned. -/
structure OutParameters.AllAssigned (out : OutParameters) : Prop where
  hpcState : out.hpcState.IsAssigned
  padding : out.padding.IsAssigned
  attributes : out.attributes.IsAssigned

/-- None of the out parameters has been assigned. -/
structure OutParameters.NoneAssigned (out : OutParameters) : Prop where
  hpcState : ¬ out.hpcState.IsAssigned
  padding : ¬ out.padding.IsAssigned
  attributes : ¬ out.attributes.IsAssigned

/-- The returned buffer is a padding buffer. -/
structure PaddingAnswer.ReturnsPadding (answer : PaddingAnswer) (buffer : Buffer) : Prop where
  padding : answer.out.padding = .assigned buffer.address
  allocated : answer.allocated = some buffer
  isPadding : ∃ records rest, IsPadding buffer records rest

/-- What the caller can rely on. -/
structure PaddingAnswer.Complete (answer : PaddingAnswer) : Prop where
  success : answer.status = efiSuccess →
    answer.out.AllAssigned ∧ ∃ buffer, answer.ReturnsPadding buffer
  failure : answer.status ≠ efiSuccess → answer.out.NoneAssigned

/-- The call returns, with an answer that its caller can rely on. -/
def AnswersCompletely (result : Option PaddingAnswer) : Prop :=
  ∃ answer, result = some answer ∧ answer.Complete

theorem efiOutOfResources_ne_efiSuccess : efiOutOfResources ≠ efiSuccess := by
  decide

/-- Without memory nothing is assigned. -/
theorem complete_of_outOfResources (contents : PriorContents) :
    PaddingAnswer.Complete ⟨efiOutOfResources, .untouched contents, none⟩ where
  success := fun status => absurd status efiOutOfResources_ne_efiSuccess
  failure := fun _ => ⟨id, id, id⟩

/-- With memory the buffer is right for every address; only the state may be missing. -/
theorem getResourcePadding_some (block : PoolBlock) (hpcPciAddress : UInt64)
    (contents : PriorContents) :
    ∃ answer buffer, getResourcePadding (some block) hpcPciAddress contents = some answer ∧
      answer.status = efiSuccess ∧ answer.ReturnsPadding buffer ∧
      answer.out.attributes.IsAssigned ∧
      (answer.out.hpcState.IsAssigned ↔ pciLocation hpcPciAddress ∈ [rp, hp1, hp2]) := by
  have few := branch_few (pciLocation hpcPciAddress)
  obtain ⟨bytes, records, rest, runs, written⟩ := writePadding_spec few block.length_bytes
  have isPadding := written.isPadding few (branch_header _) block.address
  simp only [getResourcePadding, runs, Option.map_some, Option.some.injEq]
  refine ⟨_, ⟨block.address, bytes⟩, rfl, rfl, ⟨rfl, rfl, records, rest, isPadding⟩, trivial, ?_⟩
  exact branch_hpcState_isAssigned_iff _ _

/-- The trace output of `SubmitResources` for a padding buffer stays in range. -/
theorem getResourcePadding_traced_in_range (block : PoolBlock) (hpcPciAddress : UInt64)
    (contents : PriorContents) :
    ∃ answer buffer events, getResourcePadding (some block) hpcPciAddress contents = some answer ∧
      answer.allocated = some buffer ∧
      (∀ m, traceDescriptors buffer buffer.bytes m = { m with log := events ++ m.log }) ∧
      ∀ event ∈ events, event.InRange := by
  have few := branch_few (pciLocation hpcPciAddress)
  obtain ⟨bytes, records, rest, runs, written⟩ := writePadding_spec few block.length_bytes
  have isPadding := written.isPadding few (branch_header _) block.address
  simp only [getResourcePadding, runs, Option.map_some, Option.some.injEq]
  exact ⟨_, ⟨block.address, bytes⟩, traceEvents records, rfl, rfl, isPadding.walked,
    written.inRange (branch_header _)⟩

/--
An answer is complete when there is no memory for it, and for the listed controllers;
for every other address success is returned without a state.
-/
theorem answers_completely_iff (pool : Option PoolBlock) (hpcPciAddress : UInt64)
    (contents : PriorContents) :
    AnswersCompletely (getResourcePadding pool hpcPciAddress contents) ↔
      pool = none ∨ pciLocation hpcPciAddress ∈ [rp, hp1, hp2] := by
  cases pool with
  | none => exact iff_of_true ⟨_, rfl, complete_of_outOfResources contents⟩ (Or.inl rfl)
  | some block =>
      obtain ⟨answer, buffer, runs, status, returns, attributes, hpcState⟩ :=
        getResourcePadding_some block hpcPciAddress contents
      rw [runs]
      constructor
      · rintro ⟨_, same, complete⟩
        obtain rfl := Option.some.inj same
        exact Or.inr (hpcState.mp (complete.success status).1.hpcState)
      · rintro (missing | listed)
        · cases missing
        · have padding : answer.out.padding.IsAssigned := by
            rw [returns.padding]
            trivial
          exact ⟨answer, rfl, fun _ => ⟨⟨hpcState.mpr listed, padding, attributes⟩, buffer, returns⟩,
            fun failed => absurd status failed⟩

/-- A block that still holds the bytes of an earlier use. -/
def staleBlock : PoolBlock where
  address := 0x500
  bytes := List.replicate paddingSize 0xAF
  length_bytes := List.length_replicate

/-- At address zero the caller reads the state that it left in its own variable. -/
theorem unlisted_controller_without_state :
    ¬ ∀ (pool : Option PoolBlock) (hpcPciAddress : UInt64) (contents : PriorContents),
      AnswersCompletely (getResourcePadding pool hpcPciAddress contents) := by
  intro holds
  obtain ⟨answer, runs, complete⟩ := holds (some staleBlock) 0 ⟨0xDEAD, 0, 0⟩
  obtain ⟨_, _, same, status, _, _, hpcState⟩ :=
    getResourcePadding_some staleBlock 0 ⟨0xDEAD, 0, 0⟩
  obtain rfl := Option.some.inj (runs.symm.trans same)
  exact absurd (hpcState.mp (complete.success status).1.hpcState) (by decide)

end Thundermod.Hotplug
