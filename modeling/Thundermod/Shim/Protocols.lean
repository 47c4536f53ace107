import Mathlib.Data.List.Basic

/-!
# Protocol interfaces

The two protocols that the shim substitutes.  The entries of a protocol and the
shim's functions are indexed by the C signature they share, so that a table can
only hold functions of the right type.
-/

namespace Thundermod.Shim

/-! ## Status codes, handles and pointers -/

abbrev EfiStatus := BitVec 64

def efiSuccess : EfiStatus := 0

def efiOutOfResources : EfiStatus := 0x8000000000000009

def efiNotFound : EfiStatus := 0x800000000000000E

def efiAlreadyStarted : EfiStatus := 0x8000000000000014

/-- `EFI_ERROR`: the status is negative as a signed integer. -/
def efiError (status : EfiStatus) : Bool :=
  status.msb

theorem efiError_efiSuccess : efiError efiSuccess = false := by
  decide

theorem efiError_efiAlreadyStarted : efiError efiAlreadyStarted = true := by
  decide

theorem efiNotFound_ne_efiSuccess : efiNotFound ≠ efiSuccess := by
  decide

/-- A handle of the handle database; a handle that may be NULL is an `Option EfiHandle`. -/
abbrev EfiHandle := Nat

/-- The address of a pool block. -/
abbrev Addr := Nat

/-- A pointer that the shim only passes on. -/
abbrev Pointer := Nat

/-- A pointer together with the bytes it points to. -/
structure Buffer where
  address : Pointer
  bytes : List UInt8
  deriving DecidableEq

/-- An `EFI_DRIVER_BINDING_PROTOCOL`, known by its address. -/
structure DriverBinding where
  address : Pointer
  driverBindingHandle : EfiHandle
  deriving DecidableEq

/-- A root-bridge I/O protocol of the host-bridge driver, with its two data fields. -/
structure HostRootBridgeIo where
  address : Pointer
  parentHandle : EfiHandle
  segmentNumber : UInt32
  deriving DecidableEq

/-- A resource-allocation protocol of the host-bridge driver. -/
structure HostResourceAllocation where
  address : Pointer
  deriving DecidableEq

/-- An `EFI_PCI_ROOT_BRIDGE_IO_PROTOCOL *`: an original, or the substitute inside a mapping. -/
inductive RootBridgeIoPtr
  | original (protocol : HostRootBridgeIo)
  | substituted (mapping : Addr)
  deriving DecidableEq

/--
An `EFI_PCI_HOST_BRIDGE_RESOURCE_ALLOCATION_PROTOCOL *`.  The address of the
substitute inside a mapping can be taken of a NULL mapping too.
-/
inductive ResourceAllocationPtr
  | original (protocol : HostResourceAllocation)
  | substituted (mapping : Option Addr)
  deriving DecidableEq

/-! ## The root-bridge I/O protocol -/

structure PollArguments where
  width : UInt32
  address : UInt64
  mask : UInt64
  value : UInt64
  delay : UInt64
  result : Pointer

structure AccessArguments where
  width : UInt32
  address : UInt64
  count : UInt64
  buffer : Pointer

structure CopyMemArguments where
  width : UInt32
  destAddress : UInt64
  srcAddress : UInt64
  count : UInt64

structure MapArguments where
  operation : UInt32
  hostAddress : Pointer
  numberOfBytes : Pointer
  deviceAddress : Pointer
  mapping : Pointer

structure UnmapArguments where
  mapping : Pointer

structure AllocateBufferArguments where
  type : UInt32
  memoryType : UInt32
  pages : UInt64
  hostAddress : Pointer
  attributes : UInt64

structure FreeBufferArguments where
  pages : UInt64
  hostAddress : Pointer

structure FlushArguments where

structure GetAttributesArguments where
  supported : Pointer
  attributes : Pointer

structure SetAttributesArguments where
  attributes : UInt64
  resourceBase : Pointer
  resourceLength : Pointer

structure ConfigurationArguments where
  resources : Pointer

/-- The C signatures of the protocol's functions, apart from `This`. -/
inductive RootBridgeIoSignature
  | poll
  | access
  | copyMem
  | map
  | unmap
  | allocateBuffer
  | freeBuffer
  | flush
  | getAttributes
  | setAttributes
  | configuration

def RootBridgeIoSignature.Arguments : RootBridgeIoSignature → Type
  | .poll => PollArguments
  | .access => AccessArguments
  | .copyMem => CopyMemArguments
  | .map => MapArguments
  | .unmap => UnmapArguments
  | .allocateBuffer => AllocateBufferArguments
  | .freeBuffer => FreeBufferArguments
  | .flush => FlushArguments
  | .getAttributes => GetAttributesArguments
  | .setAttributes => SetAttributesArguments
  | .configuration => ConfigurationArguments

/-- The entries of the protocol. -/
inductive RootBridgeIoEntry : RootBridgeIoSignature → Type
  | pollMem : RootBridgeIoEntry .poll
  | pollIo : RootBridgeIoEntry .poll
  | memRead : RootBridgeIoEntry .access
  | memWrite : RootBridgeIoEntry .access
  | ioRead : RootBridgeIoEntry .access
  | ioWrite : RootBridgeIoEntry .access
  | pciRead : RootBridgeIoEntry .access
  | pciWrite : RootBridgeIoEntry .access
  | copyMem : RootBridgeIoEntry .copyMem
  | map : RootBridgeIoEntry .map
  | unmap : RootBridgeIoEntry .unmap
  | allocateBuffer : RootBridgeIoEntry .allocateBuffer
  | freeBuffer : RootBridgeIoEntry .freeBuffer
  | flush : RootBridgeIoEntry .flush
  | getAttributes : RootBridgeIoEntry .getAttributes
  | setAttributes : RootBridgeIoEntry .setAttributes
  | configuration : RootBridgeIoEntry .configuration

/-- The shim's functions for the protocol, as values of function pointers. -/
inductive RootBridgeIoFunction : RootBridgeIoSignature → Type
  | rootBridgeIoPollMem : RootBridgeIoFunction .poll
  | rootBridgeIoPollIo : RootBridgeIoFunction .poll
  | rootBridgeIoMemRead : RootBridgeIoFunction .access
  | rootBridgeIoMemWrite : RootBridgeIoFunction .access
  | rootBridgeIoIoRead : RootBridgeIoFunction .access
  | rootBridgeIoIoWrite : RootBridgeIoFunction .access
  | rootBridgeIoPciRead : RootBridgeIoFunction .access
  | rootBridgeIoPciWrite : RootBridgeIoFunction .access
  | rootBridgeIoCopyMem : RootBridgeIoFunction .copyMem
  | rootBridgeIoMap : RootBridgeIoFunction .map
  | rootBridgeIoUnmap : RootBridgeIoFunction .unmap
  | rootBridgeIoAllocateBuffer : RootBridgeIoFunction .allocateBuffer
  | rootBridgeIoFreeBuffer : RootBridgeIoFunction .freeBuffer
  | rootBridgeIoFlush : RootBridgeIoFunction .flush
  | rootBridgeIoGetAttributes : RootBridgeIoFunction .getAttributes
  | rootBridgeIoSetAttributes : RootBridgeIoFunction .setAttributes
  | rootBridgeIoConfiguration : RootBridgeIoFunction .configuration

/-- A substitute `EFI_PCI_ROOT_BRIDGE_IO_PROTOCOL`; the defaults are those of zeroed memory. -/
structure RootBridgeIoProtocol where
  parentHandle : Option EfiHandle := none
  pollMem : Option (RootBridgeIoFunction .poll) := none
  pollIo : Option (RootBridgeIoFunction .poll) := none
  memRead : Option (RootBridgeIoFunction .access) := none
  memWrite : Option (RootBridgeIoFunction .access) := none
  ioRead : Option (RootBridgeIoFunction .access) := none
  ioWrite : Option (RootBridgeIoFunction .access) := none
  pciRead : Option (RootBridgeIoFunction .access) := none
  pciWrite : Option (RootBridgeIoFunction .access) := none
  copyMem : Option (RootBridgeIoFunction .copyMem) := none
  map : Option (RootBridgeIoFunction .map) := none
  unmap : Option (RootBridgeIoFunction .unmap) := none
  allocateBuffer : Option (RootBridgeIoFunction .allocateBuffer) := none
  freeBuffer : Option (RootBridgeIoFunction .freeBuffer) := none
  flush : Option (RootBridgeIoFunction .flush) := none
  getAttributes : Option (RootBridgeIoFunction .getAttributes) := none
  setAttributes : Option (RootBridgeIoFunction .setAttributes) := none
  configuration : Option (RootBridgeIoFunction .configuration) := none
  segmentNumber : UInt32 := 0

/-- The function pointer stored in an entry. -/
def RootBridgeIoProtocol.entry (protocol : RootBridgeIoProtocol) {signature : RootBridgeIoSignature} :
    RootBridgeIoEntry signature → Option (RootBridgeIoFunction signature)
  | .pollMem => protocol.pollMem
  | .pollIo => protocol.pollIo
  | .memRead => protocol.memRead
  | .memWrite => protocol.memWrite
  | .ioRead => protocol.ioRead
  | .ioWrite => protocol.ioWrite
  | .pciRead => protocol.pciRead
  | .pciWrite => protocol.pciWrite
  | .copyMem => protocol.copyMem
  | .map => protocol.map
  | .unmap => protocol.unmap
  | .allocateBuffer => protocol.allocateBuffer
  | .freeBuffer => protocol.freeBuffer
  | .flush => protocol.flush
  | .getAttributes => protocol.getAttributes
  | .setAttributes => protocol.setAttributes
  | .configuration => protocol.configuration

/-- A call of one entry, apart from `This`. -/
structure RootBridgeIoCall where
  signature : RootBridgeIoSignature
  entry : RootBridgeIoEntry signature
  arguments : signature.Arguments

/-! ## The host-bridge resource-allocation protocol -/

structure NotifyPhaseArguments where
  phase : UInt32

structure GetNextRootBridgeArguments where
  rootBridgeHandle : Pointer

structure GetAllocAttributesArguments where
  rootBridgeHandle : EfiHandle
  attributes : Pointer

/-- The arguments of a function that returns a configuration. -/
structure ReadConfigurationArguments where
  rootBridgeHandle : EfiHandle
  configuration : Pointer

/-- The arguments of a function that is given a configuration. -/
structure WriteConfigurationArguments where
  rootBridgeHandle : EfiHandle
  configuration : Buffer

structure PreprocessControllerArguments where
  rootBridgeHandle : EfiHandle
  pciAddress : UInt64
  phase : UInt32

inductive ResourceAllocationSignature
  | notifyPhase
  | getNextRootBridge
  | getAllocAttributes
  | readConfiguration
  | writeConfiguration
  | preprocessController

def ResourceAllocationSignature.Arguments : ResourceAllocationSignature → Type
  | .notifyPhase => NotifyPhaseArguments
  | .getNextRootBridge => GetNextRootBridgeArguments
  | .getAllocAttributes => GetAllocAttributesArguments
  | .readConfiguration => ReadConfigurationArguments
  | .writeConfiguration => WriteConfigurationArguments
  | .preprocessController => PreprocessControllerArguments

inductive ResourceAllocationEntry : ResourceAllocationSignature → Type
  | notifyPhase : ResourceAllocationEntry .notifyPhase
  | getNextRootBridge : ResourceAllocationEntry .getNextRootBridge
  | getAllocAttributes : ResourceAllocationEntry .getAllocAttributes
  | startBusEnumeration : ResourceAllocationEntry .readConfiguration
  | setBusNumbers : ResourceAllocationEntry .writeConfiguration
  | submitResources : ResourceAllocationEntry .writeConfiguration
  | getProposedResources : ResourceAllocationEntry .readConfiguration
  | preprocessController : ResourceAllocationEntry .preprocessController

/-- The shim's functions for the protocol; `getAttributes` serves `GetAllocAttributes`. -/
inductive ResourceAllocationFunction : ResourceAllocationSignature → Type
  | notifyPhase : ResourceAllocationFunction .notifyPhase
  | getNextRootBridge : ResourceAllocationFunction .getNextRootBridge
  | getAttributes : ResourceAllocationFunction .getAllocAttributes
  | startBusEnumeration : ResourceAllocationFunction .readConfiguration
  | setBusNumbers : ResourceAllocationFunction .writeConfiguration
  | submitResources : ResourceAllocationFunction .writeConfiguration
  | getProposedResources : ResourceAllocationFunction .readConfiguration
  | preprocessController : ResourceAllocationFunction .preprocessController

structure ResourceAllocationProtocol where
  notifyPhase : Option (ResourceAllocationFunction .notifyPhase) := none
  getNextRootBridge : Option (ResourceAllocationFunction .getNextRootBridge) := none
  getAllocAttributes : Option (ResourceAllocationFunction .getAllocAttributes) := none
  startBusEnumeration : Option (ResourceAllocationFunction .readConfiguration) := none
  setBusNumbers : Option (ResourceAllocationFunction .writeConfiguration) := none
  submitResources : Option (ResourceAllocationFunction .writeConfiguration) := none
  getProposedResources : Option (ResourceAllocationFunction .readConfiguration) := none
  preprocessController : Option (ResourceAllocationFunction .preprocessController) := none

def ResourceAllocationProtocol.entry (protocol : ResourceAllocationProtocol)
    {signature : ResourceAllocationSignature} :
    ResourceAllocationEntry signature → Option (ResourceAllocationFunction signature)
  | .notifyPhase => protocol.notifyPhase
  | .getNextRootBridge => protocol.getNextRootBridge
  | .getAllocAttributes => protocol.getAllocAttributes
  | .startBusEnumeration => protocol.startBusEnumeration
  | .setBusNumbers => protocol.setBusNumbers
  | .submitResources => protocol.submitResources
  | .getProposedResources => protocol.getProposedResources
  | .preprocessController => protocol.preprocessController

structure ResourceAllocationCall where
  signature : ResourceAllocationSignature
  entry : ResourceAllocationEntry signature
  arguments : signature.Arguments

end Thundermod.Shim
