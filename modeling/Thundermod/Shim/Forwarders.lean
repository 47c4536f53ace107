import Thundermod.Shim.Registry

/-!
# The forwarders

The functions behind the substitute protocols.  Each looks up the original of the
substitute it is called on and passes the call on.  The base side is an automaton
that answers calls on the originals.
-/

namespace Thundermod.Shim

variable {σ : Type}

/-- A call that the base side receives, with the original it is made on. -/
inductive Received
  | rootBridgeIo (this : HostRootBridgeIo) (call : RootBridgeIoCall)
  | resourceAllocation (this : HostResourceAllocation) (call : ResourceAllocationCall)

/-- The base side's answer to a call, and its state afterwards. -/
abbrev HostBridge (σ : Type) := σ → Received → σ × EfiStatus

/-- The base side together with the sequence of calls it has received. -/
structure Base (σ : Type) where
  state : σ
  received : List Received

def Base.call (host : HostBridge σ) (base : Base σ) (call : Received) : Base σ × EfiStatus :=
  let answer := host base.state call
  (⟨answer.1, base.received ++ [call]⟩, answer.2)

/-- The shim's machine on top of the base side. -/
structure World (σ : Type) where
  machine : Machine
  base : Base σ

/-! ## Root-bridge I/O -/

/-- What every root-bridge function of the shim does, up to the entry it passes the call on to. -/
def forwardRootBridgeIo {signature : RootBridgeIoSignature} (entry : RootBridgeIoEntry signature)
    (host : HostBridge σ) (this : RootBridgeIoPtr) (arguments : signature.Arguments)
    (world : World σ) : Except Fault (World σ × EfiStatus) :=
  let found := findRootBridgeIoProtocolMappingBySubstitute this world.machine
  match found.1 with
  | none => .error .nullOriginal
  | some original =>
      let answer := world.base.call host (.rootBridgeIo original ⟨signature, entry, arguments⟩)
      .ok (⟨found.2, answer.1⟩, answer.2)

def rootBridgeIoPollMem (host : HostBridge σ) := forwardRootBridgeIo .pollMem host

def rootBridgeIoPollIo (host : HostBridge σ) := forwardRootBridgeIo .pollIo host

def rootBridgeIoMemRead (host : HostBridge σ) := forwardRootBridgeIo .memRead host

def rootBridgeIoMemWrite (host : HostBridge σ) := forwardRootBridgeIo .memWrite host

def rootBridgeIoIoRead (host : HostBridge σ) := forwardRootBridgeIo .ioRead host

def rootBridgeIoIoWrite (host : HostBridge σ) := forwardRootBridgeIo .ioWrite host

def rootBridgeIoCopyMem (host : HostBridge σ) := forwardRootBridgeIo .copyMem host

def rootBridgeIoPciRead (host : HostBridge σ) := forwardRootBridgeIo .pciRead host

def rootBridgeIoPciWrite (host : HostBridge σ) := forwardRootBridgeIo .pciWrite host

def rootBridgeIoMap (host : HostBridge σ) := forwardRootBridgeIo .map host

def rootBridgeIoUnmap (host : HostBridge σ) := forwardRootBridgeIo .unmap host

def rootBridgeIoAllocateBuffer (host : HostBridge σ) := forwardRootBridgeIo .allocateBuffer host

def rootBridgeIoFreeBuffer (host : HostBridge σ) := forwardRootBridgeIo .freeBuffer host

def rootBridgeIoFlush (host : HostBridge σ) := forwardRootBridgeIo .flush host

def rootBridgeIoGetAttributes (host : HostBridge σ) := forwardRootBridgeIo .getAttributes host

def rootBridgeIoSetAttributes (host : HostBridge σ) := forwardRootBridgeIo .setAttributes host

def rootBridgeIoConfiguration (host : HostBridge σ) := forwardRootBridgeIo .configuration host

/-- Call through a function pointer. -/
def callRootBridgeIo (host : HostBridge σ) {signature : RootBridgeIoSignature} :
    RootBridgeIoFunction signature → RootBridgeIoPtr → signature.Arguments → World σ →
      Except Fault (World σ × EfiStatus)
  | .rootBridgeIoPollMem => rootBridgeIoPollMem host
  | .rootBridgeIoPollIo => rootBridgeIoPollIo host
  | .rootBridgeIoMemRead => rootBridgeIoMemRead host
  | .rootBridgeIoMemWrite => rootBridgeIoMemWrite host
  | .rootBridgeIoIoRead => rootBridgeIoIoRead host
  | .rootBridgeIoIoWrite => rootBridgeIoIoWrite host
  | .rootBridgeIoCopyMem => rootBridgeIoCopyMem host
  | .rootBridgeIoPciRead => rootBridgeIoPciRead host
  | .rootBridgeIoPciWrite => rootBridgeIoPciWrite host
  | .rootBridgeIoMap => rootBridgeIoMap host
  | .rootBridgeIoUnmap => rootBridgeIoUnmap host
  | .rootBridgeIoAllocateBuffer => rootBridgeIoAllocateBuffer host
  | .rootBridgeIoFreeBuffer => rootBridgeIoFreeBuffer host
  | .rootBridgeIoFlush => rootBridgeIoFlush host
  | .rootBridgeIoGetAttributes => rootBridgeIoGetAttributes host
  | .rootBridgeIoSetAttributes => rootBridgeIoSetAttributes host
  | .rootBridgeIoConfiguration => rootBridgeIoConfiguration host

/-! ## Resource allocation -/

/--
What every resource-allocation function of the shim does, up to the entry it
passes the call on to and to the trace output it writes before that.
-/
def forwardResourceAllocation {signature : ResourceAllocationSignature}
    (entry : ResourceAllocationEntry signature) (trace : signature.Arguments → Machine → Machine)
    (host : HostBridge σ) (this : ResourceAllocationPtr) (arguments : signature.Arguments)
    (world : World σ) : Except Fault (World σ × EfiStatus) :=
  match findResourceAllocationProtocolMappingBySubstitute this world.machine with
  | .error fault => .error fault
  | .ok (none, _) => .error .nullOriginal
  | .ok (some original, m) =>
      let answer := world.base.call host (.resourceAllocation original ⟨signature, entry, arguments⟩)
      .ok (⟨trace arguments m, answer.1⟩, answer.2)

/-- The trace output of a function that only prints its name. -/
def noLookup {Arguments : Type} (_ : Arguments) (m : Machine) : Machine :=
  m

def mNotifyPhaseTypes : List String :=
  ["EfiPciHostBridgeBeginEnumeration", "EfiPciHostBridgeBeginBusAllocation",
    "EfiPciHostBridgeEndBusAllocation", "EfiPciHostBridgeBeginResourceAllocation",
    "EfiPciHostBridgeAllocateResources", "EfiPciHostBridgeSetResources",
    "EfiPciHostBridgeFreeResources", "EfiPciHostBridgeEndResourceAllocation",
    "EfiPciHostBridgeEndEnumeration", "EfiMaxPciHostBridgeEnumerationPhase"]

def mAcpiAddressSpaceTypeStr : List String :=
  ["Mem", "I/O", "Bus"]

/--
Look up a name by a raw index.  An index behind the table is recorded like any other, and
the run goes on with what is found there.
-/
def lookupName (table : List String) (index : Nat) (m : Machine) : Machine :=
  m.record (.nameLookup table.length index)

def tracePhase (arguments : NotifyPhaseArguments) : Machine → Machine :=
  lookupName mNotifyPhaseTypes arguments.phase.toNat

def acpiAddressSpaceDescriptor : UInt8 := 0x8A

/-- `sizeof (EFI_ACPI_ADDRESS_SPACE_DESCRIPTOR)`. -/
def sizeofDescriptor : Nat := 46

/-- The offset of `ResType` in a descriptor, behind `Desc` and `Len`. -/
def resTypeOffset : Nat := 3

/--
Print one descriptor, the name of its type first and its fields after that; `bytes` is the
memory from the descriptor on.
-/
def traceDescriptor (configuration : Buffer) (bytes : List UInt8) (m : Machine) : Machine :=
  if sizeofDescriptor ≤ bytes.length then
    (lookupName mAcpiAddressSpaceTypeStr (bytes.getD resTypeOffset 0).toNat m).record
      (.printed (bytes.take sizeofDescriptor))
  else m.record (.overread configuration.address)

/--
The loop of `SubmitResources`, from a descriptor pointer that has `bytes` behind it.  A
read behind these is recorded; the loop is taken to end there, and the call goes on.
-/
def traceDescriptors (configuration : Buffer) (bytes : List UInt8) (m : Machine) : Machine :=
  match bytes with
  | [] => m.record (.overread configuration.address)
  | desc :: rest =>
      if desc = acpiAddressSpaceDescriptor then
        traceDescriptors configuration (rest.drop (sizeofDescriptor - 1))
          (traceDescriptor configuration (desc :: rest) m)
      else m
  termination_by bytes.length

def traceResources (arguments : WriteConfigurationArguments) : Machine → Machine :=
  traceDescriptors arguments.configuration arguments.configuration.bytes

def notifyPhase (host : HostBridge σ) :=
  forwardResourceAllocation .notifyPhase tracePhase host

def getNextRootBridge (host : HostBridge σ) :=
  forwardResourceAllocation .getNextRootBridge noLookup host

def getAttributes (host : HostBridge σ) :=
  forwardResourceAllocation .getAllocAttributes noLookup host

def startBusEnumeration (host : HostBridge σ) :=
  forwardResourceAllocation .startBusEnumeration noLookup host

def setBusNumbers (host : HostBridge σ) :=
  forwardResourceAllocation .setBusNumbers noLookup host

def submitResources (host : HostBridge σ) :=
  forwardResourceAllocation .submitResources traceResources host

def getProposedResources (host : HostBridge σ) :=
  forwardResourceAllocation .getProposedResources noLookup host

def preprocessController (host : HostBridge σ) :=
  forwardResourceAllocation .preprocessController noLookup host

/-- Call through a function pointer. -/
def callResourceAllocation (host : HostBridge σ) {signature : ResourceAllocationSignature} :
    ResourceAllocationFunction signature → ResourceAllocationPtr → signature.Arguments → World σ →
      Except Fault (World σ × EfiStatus)
  | .notifyPhase => notifyPhase host
  | .getNextRootBridge => getNextRootBridge host
  | .getAttributes => getAttributes host
  | .startBusEnumeration => startBusEnumeration host
  | .setBusNumbers => setBusNumbers host
  | .submitResources => submitResources host
  | .getProposedResources => getProposedResources host
  | .preprocessController => preprocessController host

/-! ## The tables lead to the forwarders -/

/-- The function that the shim puts into an entry. -/
def RootBridgeIoEntry.shimFunction {signature : RootBridgeIoSignature} :
    RootBridgeIoEntry signature → RootBridgeIoFunction signature
  | .pollMem => .rootBridgeIoPollMem
  | .pollIo => .rootBridgeIoPollIo
  | .memRead => .rootBridgeIoMemRead
  | .memWrite => .rootBridgeIoMemWrite
  | .ioRead => .rootBridgeIoIoRead
  | .ioWrite => .rootBridgeIoIoWrite
  | .pciRead => .rootBridgeIoPciRead
  | .pciWrite => .rootBridgeIoPciWrite
  | .copyMem => .rootBridgeIoCopyMem
  | .map => .rootBridgeIoMap
  | .unmap => .rootBridgeIoUnmap
  | .allocateBuffer => .rootBridgeIoAllocateBuffer
  | .freeBuffer => .rootBridgeIoFreeBuffer
  | .flush => .rootBridgeIoFlush
  | .getAttributes => .rootBridgeIoGetAttributes
  | .setAttributes => .rootBridgeIoSetAttributes
  | .configuration => .rootBridgeIoConfiguration

theorem entry_substituteRootBridgeIo (protocol : RootBridgeIoProtocol)
    {signature : RootBridgeIoSignature} (entry : RootBridgeIoEntry signature) :
    (substituteRootBridgeIo protocol).entry entry = some entry.shimFunction := by
  cases entry <;> rfl

/-- The function behind an entry passes calls on to the same entry. -/
theorem callRootBridgeIo_shimFunction (host : HostBridge σ) {signature : RootBridgeIoSignature}
    (entry : RootBridgeIoEntry signature) :
    callRootBridgeIo host entry.shimFunction = forwardRootBridgeIo entry host := by
  cases entry <;> rfl

def ResourceAllocationEntry.shimFunction {signature : ResourceAllocationSignature} :
    ResourceAllocationEntry signature → ResourceAllocationFunction signature
  | .notifyPhase => .notifyPhase
  | .getNextRootBridge => .getNextRootBridge
  | .getAllocAttributes => .getAttributes
  | .startBusEnumeration => .startBusEnumeration
  | .setBusNumbers => .setBusNumbers
  | .submitResources => .submitResources
  | .getProposedResources => .getProposedResources
  | .preprocessController => .preprocessController

/-- The trace output that precedes a call of an entry. -/
def ResourceAllocationEntry.trace {signature : ResourceAllocationSignature} :
    ResourceAllocationEntry signature → signature.Arguments → Machine → Machine
  | .notifyPhase => tracePhase
  | .submitResources => traceResources
  | .getNextRootBridge => noLookup
  | .getAllocAttributes => noLookup
  | .startBusEnumeration => noLookup
  | .setBusNumbers => noLookup
  | .getProposedResources => noLookup
  | .preprocessController => noLookup

theorem entry_substituteResourceAllocation (protocol : ResourceAllocationProtocol)
    {signature : ResourceAllocationSignature} (entry : ResourceAllocationEntry signature) :
    (substituteResourceAllocation protocol).entry entry = some entry.shimFunction := by
  cases entry <;> rfl

theorem callResourceAllocation_shimFunction (host : HostBridge σ)
    {signature : ResourceAllocationSignature} (entry : ResourceAllocationEntry signature) :
    callResourceAllocation host entry.shimFunction =
      forwardResourceAllocation entry entry.trace host := by
  cases entry <;> rfl

/-- Trace output changes nothing but the log. -/
theorem frame_traceDescriptors {View : Type} (view : Machine → View)
    (record_view : ∀ event m, view (Machine.record event m) = view m) (configuration : Buffer)
    (bytes : List UInt8) (m : Machine) :
    view (traceDescriptors configuration bytes m) = view m := by
  fun_induction traceDescriptors configuration bytes m with
  | case1 m => exact record_view _ m
  | case2 m rest ih =>
      rw [ih]
      unfold traceDescriptor
      split
      · exact (record_view _ _).trans (record_view _ m)
      · exact record_view _ m
  | case3 => rfl

theorem frame_trace {View : Type} (view : Machine → View)
    (record_view : ∀ event m, view (Machine.record event m) = view m)
    {signature : ResourceAllocationSignature} (entry : ResourceAllocationEntry signature)
    (arguments : signature.Arguments) (m : Machine) : view (entry.trace arguments m) = view m := by
  cases entry with
  | notifyPhase => exact record_view _ m
  | submitResources => exact frame_traceDescriptors view record_view _ _ m
  | _ => rfl

/-! ## Clients -/

/-- A call that a client makes through the substitute interface of a mapping. -/
inductive ClientCall
  | rootBridgeIo (mapping : Addr) (call : RootBridgeIoCall)
  | resourceAllocation (mapping : Addr) (call : ResourceAllocationCall)

/-- Load the function pointer from the substitute and call it with the substitute as `This`. -/
def callSubstitute (host : HostBridge σ) (world : World σ) :
    ClientCall → Except Fault (World σ × EfiStatus)
  | .rootBridgeIo mapping call =>
      match (world.machine.mapping mapping).substitutedProtocol.entry call.entry with
      | none => .error .nullFunction
      | some function =>
          callRootBridgeIo host function (.substituted mapping) call.arguments world
  | .resourceAllocation mapping call =>
      match (world.machine.resourceAllocation mapping).substitutedProtocol.entry call.entry with
      | none => .error .nullFunction
      | some function =>
          callResourceAllocation host function (.substituted (some mapping)) call.arguments world

end Thundermod.Shim
