import Mathlib.Data.Nat.Digits.Defs
import Thundermod.Hotplug.Answers
import Thundermod.Words.Fields

/-!
# Reading the padding back

Whoever receives the answer of `GetResourcePadding` walks its records and loads their
fields.  The fields hold what the branch has assigned, and zero where it has assigned
nothing; the amounts that a reader adds up are a function of the controller alone.

The amounts are those of the code.  Its comments ask for something else: the second
record is to be prefetchable memory, but its `SpecificFlag` is never assigned, and
"Pad 16 MB of MEM" stands where 512 MB are assigned.
-/

namespace Thundermod.Hotplug

open Words Guidsub Shim

/-! ## Fields -/

/-- The fields of an `EFI_ACPI_ADDRESS_SPACE_DESCRIPTOR`. -/
inductive Field
  | desc
  | len
  | resType
  | genFlag
  | specificFlag
  | addrSpaceGranularity
  | addrRangeMin
  | addrRangeMax
  | addrTranslationOffset
  | addrLen
  deriving DecidableEq

def Field.offset : Field → Nat
  | .desc => 0
  | .len => 1
  | .resType => 3
  | .genFlag => 4
  | .specificFlag => 5
  | .addrSpaceGranularity => 6
  | .addrRangeMin => 14
  | .addrRangeMax => 22
  | .addrTranslationOffset => 30
  | .addrLen => 38

def Field.size : Field → Nat
  | .desc | .resType | .genFlag | .specificFlag => 1
  | .len => 2
  | .addrSpaceGranularity | .addrRangeMin | .addrRangeMax | .addrTranslationOffset | .addrLen => 8

def descriptorLayout : Layout Field where
  offset := Field.offset
  size := Field.size
  apart := by
    intro first second different
    cases first <;> cases second <;> first | exact absurd rfl different | decide

/-- The field that is stored to. -/
def FieldStore.field : FieldStore → Field
  | .desc _ => .desc
  | .len _ => .len
  | .resType _ => .resType
  | .genFlag _ => .genFlag
  | .specificFlag _ => .specificFlag
  | .addrSpaceGranularity _ => .addrSpaceGranularity
  | .addrRangeMin _ => .addrRangeMin
  | .addrRangeMax _ => .addrRangeMax
  | .addrLen _ => .addrLen

/-- The value that is stored. -/
def FieldStore.value : FieldStore → Nat
  | .desc value | .resType value | .genFlag value | .specificFlag value => value.toNat
  | .len value => value.toNat
  | .addrSpaceGranularity value | .addrRangeMin value | .addrRangeMax value | .addrLen value =>
      value.toNat

/-! ## Values -/

/-- The number that a little-endian load gets. -/
def valueOf (bytes : List UInt8) : Nat :=
  Nat.ofDigits 256 (bytes.map UInt8.toNat)

theorem valueOf_bytes16 (x : UInt16) : valueOf (bytes16 x) = x.toNat := by
  have bound := x.toNat_lt
  simp [valueOf, bytes16, Nat.ofDigits_cons, Nat.shiftRight_eq_div_pow]
  omega

theorem valueOf_bytes64 (x : UInt64) : valueOf (bytes64 x) = x.toNat := by
  have bound := x.toNat_lt
  simp only [valueOf, bytes64, List.map_cons, List.map_nil, Nat.ofDigits_cons, Nat.ofDigits_nil,
    UInt64.toNat_toUInt8, UInt64.toNat_shiftRight, Nat.shiftRight_eq_div_pow]
  simp only [UInt64.reduceToNat, Nat.reduceMod, Nat.reducePow]
  omega

theorem FieldStore.valueOf_bytes (store : FieldStore) : valueOf store.bytes = store.value := by
  cases store with
  | len value => exact valueOf_bytes16 value
  | desc value | resType value | genFlag value | specificFlag value =>
      simp [valueOf, bytes, FieldStore.value]
  | addrSpaceGranularity value | addrRangeMin value | addrRangeMax value | addrLen value =>
      exact valueOf_bytes64 value

theorem FieldStore.length_bytes (store : FieldStore) :
    store.bytes.length = store.field.size := by
  cases store <;> rfl

theorem FieldStore.store_eq (store : FieldStore) :
    store.store = descriptorLayout.store (store.field, store.bytes) := by
  cases store <;> rfl

/-! ## Descriptors -/

/-- The fields of a record as a reader loads them. -/
def readDescriptor (record : List UInt8) (field : Field) : Nat :=
  valueOf (descriptorLayout.read record field)

/-- What a sequence of assignments leaves in the fields of a zeroed descriptor. -/
def assigned (fields : List FieldStore) : Field → Nat :=
  fields.foldl (fun view store => Function.update view store.field store.value) 0

theorem readDescriptor_blank : readDescriptor blankDescriptor = 0 := by
  funext field
  cases field <;> rfl

/-- Storing and loading: a field holds what was assigned to it last. -/
theorem readDescriptor_of_storeAll {fields : List FieldStore} {record : List UInt8}
    (stored : storeAll 0 (fields.map FieldStore.store) blankDescriptor = some record) :
    readDescriptor record = assigned fields := by
  have words : fields.map FieldStore.store =
      (fields.map fun store => (store.field, store.bytes)).map descriptorLayout.store := by
    rw [List.map_map]
    exact List.map_congr_left fun store _ => store.store_eq
  have sized : descriptorLayout.Sized (fields.map fun store => (store.field, store.bytes)) := by
    intro word member
    obtain ⟨store, _, rfl⟩ := List.mem_map.mp member
    exact store.length_bytes
  rw [words] at stored
  have reads := Layout.read_storeAll sized stored
  rw [List.foldl_map] at reads
  calc readDescriptor record
      = valueOf ∘ descriptorLayout.read record := rfl
    _ = fields.foldl (fun view store => Function.update view store.field store.value)
          (valueOf ∘ descriptorLayout.read blankDescriptor) := by
        rw [reads]
        refine (List.foldl_hom (fun view : Field → List UInt8 => valueOf ∘ view) ?_).symm
        intro view store
        rw [Function.comp_update, store.valueOf_bytes]
    _ = assigned fields := by
        rw [show valueOf ∘ descriptorLayout.read blankDescriptor = 0 from readDescriptor_blank]
        rfl

/-! ## Answers -/

/-- The records that a reader of the buffer finds. -/
def descriptorsOf (buffer : Buffer) : List (Field → Nat) :=
  (splitRecords sizeofDescriptor acpiAddressSpaceDescriptor buffer.bytes).1.map readDescriptor

/-- What the descriptors of one type and one kind ask for. -/
def requested (descriptors : List (Field → Nat)) (resourceType specificFlag : Nat) : Nat :=
  ((descriptors.filter fun descriptor =>
    descriptor .resType = resourceType ∧ descriptor .specificFlag = specificFlag).map
      fun descriptor => descriptor .addrLen).sum

/--
The amounts that the code assigns for a controller: a gigabyte of memory and four
kilobytes of I/O behind the root port, twenty buses behind each Thunderbolt port.
Every `SpecificFlag` is zero, so none of the memory is prefetchable.
-/
def roomBehind (location : PciLocation) (resourceType specificFlag : Nat) : Nat :=
  if specificFlag ≠ 0 then 0
  else if location = rp then
    if resourceType = acpiAddressSpaceTypeMem.toNat then 2 ^ 30
    else if resourceType = acpiAddressSpaceTypeIo.toNat then 2 ^ 12
    else 0
  else if location = hp1 ∨ location = hp2 then
    if resourceType = acpiAddressSpaceTypeBus.toNat then 20 else 0
  else 0

theorem WrittenAs.readDescriptor {descriptors : List (List FieldStore)} {bytes : List UInt8}
    {records : List (List UInt8)} {rest : List UInt8}
    (written : WrittenAs descriptors bytes records rest) :
    records.map Hotplug.readDescriptor = descriptors.map assigned := by
  have filled := written.filled
  clear written
  induction filled with
  | nil => rfl
  | cons stored _ ih => rw [List.map_cons, List.map_cons, readDescriptor_of_storeAll stored, ih]

theorem requested_nil (resourceType specificFlag : Nat) :
    requested [] resourceType specificFlag = 0 :=
  rfl

theorem requested_cons (descriptor : Field → Nat) (others : List (Field → Nat))
    (resourceType specificFlag : Nat) :
    requested (descriptor :: others) resourceType specificFlag =
      (if descriptor .resType = resourceType ∧ descriptor .specificFlag = specificFlag then
        descriptor .addrLen else 0) + requested others resourceType specificFlag := by
  by_cases kind : descriptor .resType = resourceType ∧ descriptor .specificFlag = specificFlag
  · simp [requested, kind]
  · simp [requested, kind]

/-- Type, kind and length of the paddings.  Both kinds of memory are marked alike. -/
theorem assigned_paddings :
    [nonprefetchMemPadding, prefetchMemPadding, ioPadding, busPadding].map (fun fields =>
      (assigned fields .resType, assigned fields .specificFlag, assigned fields .addrLen)) =
        [(0, 0, 2 ^ 29), (0, 0, 2 ^ 29), (1, 0, 2 ^ 12), (2, 0, 20)] := by
  rfl

theorem requested_branch (location : PciLocation) (resourceType specificFlag : Nat) :
    requested ((branch location).descriptors.map assigned) resourceType specificFlag =
      roomBehind location resourceType specificFlag := by
  have values := assigned_paddings
  simp only [List.map_cons, List.map_nil, List.cons.injEq, Prod.mk.injEq] at values
  obtain ⟨⟨type₁, kind₁, len₁⟩, ⟨type₂, kind₂, len₂⟩, ⟨type₃, kind₃, len₃⟩,
    ⟨type₄, kind₄, len₄⟩, _⟩ := values
  have types : acpiAddressSpaceTypeMem.toNat = 0 ∧ acpiAddressSpaceTypeIo.toNat = 1 ∧
      acpiAddressSpaceTypeBus.toNat = 2 := ⟨rfl, rfl, rfl⟩
  obtain ⟨mem, io, bus⟩ := types
  rcases branch_cases location with ⟨root, taken⟩ | ⟨port, taken⟩ | ⟨other, taken⟩
  · simp only [taken, List.map_cons, List.map_nil, requested_cons, requested_nil, roomBehind,
      if_pos root, mem, io, type₁, kind₁, len₁, type₂, kind₂, len₂, type₃, kind₃, len₃]
    split_ifs <;> omega
  · have elsewhere : location ≠ rp := by
      rcases port with rfl | rfl <;> decide
    simp only [taken, List.map_cons, List.map_nil, requested_cons, requested_nil, roomBehind,
      if_neg elsewhere, if_pos port, bus, type₄, kind₄, len₄]
    split_ifs <;> omega
  · rw [List.mem_cons, List.mem_cons, List.mem_singleton, not_or] at other
    simp only [taken, List.map_nil, requested_nil, roomBehind, if_neg other.1, if_neg other.2,
      ite_self]

/-- The descriptors of an answer are those of the branch that was taken. -/
theorem descriptorsOf_answer {pool : Option PoolBlock} {hpcPciAddress : UInt64}
    {contents : PriorContents} {answer : PaddingAnswer} {buffer : Buffer}
    (answered : getResourcePadding pool hpcPciAddress contents = some answer)
    (lent : answer.allocated = some buffer) :
    descriptorsOf buffer = (branch (pciLocation hpcPciAddress)).descriptors.map assigned := by
  cases pool with
  | none =>
      obtain rfl := Option.some.inj answered
      cases lent
  | some block =>
      have few := branch_few (pciLocation hpcPciAddress)
      obtain ⟨bytes, records, rest, runs, written⟩ := writePadding_spec few block.length_bytes
      simp only [getResourcePadding, runs, Option.map_some, Option.some.injEq] at answered
      subst answered
      obtain rfl := Option.some.inj lent
      rw [descriptorsOf, (written.isPadding few (branch_header _) block.address).split]
      exact written.readDescriptor

/--
Whatever the block held before, a reader of the answer finds the descriptors of the
branch with the values that were assigned to their fields, and adds up the amounts in
the code, all of them with a `SpecificFlag` of zero.
-/
theorem padding_reads_back (block : PoolBlock) (hpcPciAddress : UInt64)
    (contents : PriorContents) :
    ∃ answer buffer, getResourcePadding (some block) hpcPciAddress contents = some answer ∧
      answer.ReturnsPadding buffer ∧
      descriptorsOf buffer =
        (branch (pciLocation hpcPciAddress)).descriptors.map assigned ∧
      ∀ resourceType specificFlag, requested (descriptorsOf buffer) resourceType specificFlag =
        roomBehind (pciLocation hpcPciAddress) resourceType specificFlag := by
  obtain ⟨answer, buffer, answered, _, returns, _, _⟩ :=
    getResourcePadding_some block hpcPciAddress contents
  have reads := descriptorsOf_answer answered returns.allocated
  refine ⟨answer, buffer, answered, returns, reads, fun resourceType specificFlag => ?_⟩
  rw [reads, requested_branch]

end Thundermod.Hotplug
