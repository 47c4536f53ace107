import Thundermod.Guidsub.Uuid
import Thundermod.Shim.Forwarders
import Thundermod.Words.Filling

/-!
# Resource padding for hot-plug ports

`GetResourcePadding` answers a PCI bus driver that asks how much room it has to leave
behind a hot-plug controller.  The answer is an allocated sequence of address-space
descriptors with an end tag behind it.
-/

namespace Thundermod.Hotplug

open Words Guidsub Shim

/-! ## Descriptors -/

def acpiAddressSpaceTypeMem : UInt8 := 0x00

def acpiAddressSpaceTypeIo : UInt8 := 0x01

def acpiAddressSpaceTypeBus : UInt8 := 0x02

def acpiEndTagDescriptor : UInt8 := 0x79

/-- `sizeof (EFI_ACPI_END_TAG_DESCRIPTOR)`. -/
def sizeofEndTag : Nat := 2

/-- The bytes stored by a little-endian 64-bit store. -/
def bytes64 (x : UInt64) : List UInt8 :=
  [x.toUInt8, (x >>> 8).toUInt8, (x >>> 16).toUInt8, (x >>> 24).toUInt8,
    (x >>> 32).toUInt8, (x >>> 40).toUInt8, (x >>> 48).toUInt8, (x >>> 56).toUInt8]

/-- A store to a field of an `EFI_ACPI_ADDRESS_SPACE_DESCRIPTOR`. -/
inductive FieldStore
  | desc (value : UInt8)
  | len (value : UInt16)
  | resType (value : UInt8)
  | genFlag (value : UInt8)
  | specificFlag (value : UInt8)
  | addrSpaceGranularity (value : UInt64)
  | addrRangeMin (value : UInt64)
  | addrRangeMax (value : UInt64)
  | addrLen (value : UInt64)

/-- The offset of the field.  The structure is packed. -/
def FieldStore.offset : FieldStore → Nat
  | .desc _ => 0
  | .len _ => 1
  | .resType _ => 3
  | .genFlag _ => 4
  | .specificFlag _ => 5
  | .addrSpaceGranularity _ => 6
  | .addrRangeMin _ => 14
  | .addrRangeMax _ => 22
  -- `AddrTranslationOffset` lies between the two and is never stored to.
  | .addrLen _ => 38

def FieldStore.bytes : FieldStore → List UInt8
  | .desc value | .resType value | .genFlag value | .specificFlag value => [value]
  | .len value => bytes16 value
  | .addrSpaceGranularity value | .addrRangeMin value | .addrRangeMax value | .addrLen value =>
      bytes64 value

def FieldStore.store (field : FieldStore) : Nat × List UInt8 :=
  (field.offset, field.bytes)

/-! ## The amounts of padding -/

def rsvdExtraBusNum : UInt64 := 20

def rsvdPcieMegaMem : UInt64 := 512

def rsvdPciePMegaMem : UInt64 := 512

def rsvdPcieKiloIo : UInt64 := 4

def pcieMemAddrRngMax : UInt64 := 0

def pciePMemAddrRngMax : UInt64 := 0

/-- Padding for non-prefetchable memory. -/
def nonprefetchMemPadding : List FieldStore :=
  [.desc 0x8A, .len 0x2B, .resType acpiAddressSpaceTypeMem, .genFlag 0,
    .addrSpaceGranularity 32, .specificFlag 0, .addrRangeMin 0,
    .addrLen (rsvdPcieMegaMem * 0x100000), .addrRangeMax ((1 <<< pcieMemAddrRngMax) - 1)]

/-- Padding for prefetchable memory. -/
def prefetchMemPadding : List FieldStore :=
  [.desc 0x8A, .len 0x2B, .resType acpiAddressSpaceTypeMem, .genFlag 0,
    .addrSpaceGranularity 32, .addrRangeMin 0,
    .addrLen (rsvdPciePMegaMem * 0x100000), .addrRangeMax ((1 <<< pciePMemAddrRngMax) - 1)]

/-- Padding for I/O. -/
def ioPadding : List FieldStore :=
  [.desc 0x8A, .len 0x2B, .resType acpiAddressSpaceTypeIo, .genFlag 0, .specificFlag 0,
    .addrRangeMin 0, .addrLen (rsvdPcieKiloIo * 0x400), .addrRangeMax 1]

/-- Padding for bus numbers. -/
def busPadding : List FieldStore :=
  [.desc 0x8A, .len 0x2B, .resType acpiAddressSpaceTypeBus, .genFlag 0, .specificFlag 0,
    .addrRangeMin 0, .addrRangeMax 0, .addrLen rsvdExtraBusNum]

/-! ## The controllers -/

/-- Bus, device and function of a controller. -/
structure PciLocation where
  bus : UInt64
  dev : UInt64
  func : UInt64
  deriving DecidableEq

/-- The fields of an `HpcPciAddress`. -/
def pciLocation (hpcPciAddress : UInt64) : PciLocation where
  bus := (hpcPciAddress >>> 24) &&& 0xFF
  dev := (hpcPciAddress >>> 16) &&& 0xFF
  func := (hpcPciAddress >>> 8) &&& 0xFF

/-- `RP_BUS`, `RP_DEV` and `RP_FUNC`: the root port of the add-in card. -/
def rp : PciLocation := ⟨0x00, 0x1C, 0x04⟩

/-- `HP1_BUS`, `HP1_DEV` and `HP1_FUNC`: the first Thunderbolt port. -/
def hp1 : PciLocation := ⟨0x05, 0x01, 0x00⟩

/-- `HP2_BUS`, `HP2_DEV` and `HP2_FUNC`: the second Thunderbolt port. -/
def hp2 : PciLocation := ⟨0x05, 0x04, 0x00⟩

def efiHpcStateInitialized : UInt16 := 0x01

def efiHpcStateEnabled : UInt16 := 0x02

/-- What the branches do: the descriptors they fill in, and the state that they assign. -/
structure Branch where
  descriptors : List (List FieldStore)
  hpcState : Option UInt16

/-- The branch that is taken for a controller. -/
def branch (location : PciLocation) : Branch :=
  if location = rp then
    ⟨[nonprefetchMemPadding, prefetchMemPadding, ioPadding],
      some (efiHpcStateInitialized ||| efiHpcStateEnabled)⟩
  else if location = hp1 ∨ location = hp2 then
    ⟨[busPadding], some (efiHpcStateInitialized ||| efiHpcStateEnabled)⟩
  else ⟨[], none⟩

/-! ## The call -/

/-- `PADDING_NUM`. -/
def paddingNum : Nat := 4

/-- What is allocated for the descriptors and the end tag. -/
def paddingSize : Nat :=
  paddingNum * sizeofDescriptor + sizeofEndTag

/-- A block that `AllocatePool` returned, with the contents it happens to have. -/
structure PoolBlock extends Buffer where
  length_bytes : bytes.length = paddingSize

/-- An out parameter: what the caller left in it, or what the call has assigned to it. -/
inductive OutParameter (α : Type)
  | prior (content : α)
  | assigned (value : α)
  deriving DecidableEq

def OutParameter.IsAssigned {α : Type} : OutParameter α → Prop
  | .prior _ => False
  | .assigned _ => True

/-- What the caller reads afterwards. -/
def OutParameter.value {α : Type} : OutParameter α → α
  | .prior content => content
  | .assigned value => value

/-- An assignment that is made on some branches only. -/
def OutParameter.assign? {α : Type} (parameter : OutParameter α) : Option α → OutParameter α
  | none => parameter
  | some value => .assigned value

/-- What the caller left in `HpcState`, `Padding` and `Attributes`. -/
structure PriorContents where
  hpcState : UInt16
  padding : Pointer
  attributes : UInt32

structure OutParameters where
  hpcState : OutParameter UInt16
  padding : OutParameter Pointer
  attributes : OutParameter UInt32

def OutParameters.untouched (contents : PriorContents) : OutParameters where
  hpcState := .prior contents.hpcState
  padding := .prior contents.padding
  attributes := .prior contents.attributes

/-- `EfiPaddingPciBus`. -/
def efiPaddingPciBus : UInt32 := 0

/-- What a call returns, and the memory of the block it has allocated. -/
structure PaddingAnswer where
  status : EfiStatus
  out : OutParameters
  allocated : Option Buffer

/-- `ZeroMem`, from the start of a block. -/
def zeroMem (bytes : List UInt8) (length : Nat) : Option (List UInt8) :=
  storeAt bytes 0 (List.replicate length 0)

/-- The two stores that terminate the entries. -/
def endTagStores : List (Nat × List UInt8) :=
  [(0, [acpiEndTagDescriptor]), (1, [0x0])]

/-- What is written to the block; a store outside of it ends the run. -/
def writePadding (descriptors : List (List FieldStore)) (bytes : List UInt8) :
    Option (List UInt8) := do
  let zeroed ← zeroMem bytes paddingSize
  let (filled, cursor) ←
    fillRecords sizeofDescriptor 0 (descriptors.map (·.map FieldStore.store)) zeroed
  storeAll cursor endTagStores filled

/--
`GetResourcePadding`, on what `AllocatePool` returns for it.  The assertion that the
pool has room is compiled out of a release build.
-/
def getResourcePadding (pool : Option PoolBlock) (hpcPciAddress : UInt64)
    (contents : PriorContents) : Option PaddingAnswer :=
  match pool with
  | none => some ⟨efiOutOfResources, .untouched contents, none⟩
  | some paddingResource =>
      let taken := branch (pciLocation hpcPciAddress)
      (writePadding taken.descriptors paddingResource.bytes).map fun bytes =>
        { status := efiSuccess
          out :=
            { hpcState := (OutParameter.prior contents.hpcState).assign? taken.hpcState
              padding := .assigned paddingResource.address
              attributes := .assigned efiPaddingPciBus }
          allocated := some ⟨paddingResource.address, bytes⟩ }

end Thundermod.Hotplug
