import Thundermod.Control.Run
import Thundermod.Hotplug.DevicePath

/-!
# The hot-plug driver and the NVS patcher

`PciHotPlug` publishes the device path of one root port and answers the PCI bus driver
through its protocol.  Both drivers switch a flag in the global NVS area.  The patcher is
only dispatched when the area is there; the hot-plug driver looks it up while it is
called, and depends on nothing.
-/

namespace Thundermod.Hotplug

open Words Guidsub Shim

/-! ## What the drivers keep -/

/-- The entries of an `EFI_PCI_HOT_PLUG_INIT_PROTOCOL`. -/
inductive HotPlugEntry
  | getRootHpcList
  | initializeRootHpc
  | getResourcePadding
  deriving DecidableEq

/-- A `PCI_HOT_PLUG_INSTANCE`; an entry of its protocol holds the driver's function or NULL. -/
structure PciHotPlugInstance where
  signature : UInt64 := 0
  handle : Option EfiHandle := none
  hotPlugInitProtocol : HotPlugEntry → Bool := fun _ => false

/-- An `EFI_HPC_LOCATION`. -/
structure EfiHpcLocation where
  hpcDevicePath : Pointer
  hpbDevicePath : Pointer
  deriving DecidableEq

/-- What a block of the pool is used for. -/
inductive PoolContents
  | devicePath (bytes : List UInt8)
  | hotPlugInstance (driver : PciHotPlugInstance)
  | padding (bytes : List UInt8)

/-- `EFI_EVENT`. -/
abbrev EfiEvent := Nat

/-- What is observed of a run. -/
inductive Observation
  | areaInstalled (area : List UInt8)
  | listed (hpcCount : Nat) (location : EfiHpcLocation)
  | patched
  | signalled (event : EfiEvent)
  | initialized (hpcState : UInt16)
  | padded (hpcPciAddress : UInt64) (answer : PaddingAnswer)
  | returned (padding : Pointer)

/-- The pool, the globals of the drivers, and the protocols that are installed. -/
structure Firmware where
  pool : Pointer → Option PoolContents
  mPcieLocation : EfiHpcLocation
  loaded : Bool
  hotPlugInit : Option Pointer
  globalNvsArea : Option (List UInt8)
  log : List Observation

/-- What `AllocatePool` returns: a block that was not live, with the bytes it happens to hold. -/
structure Allocation (firmware : Firmware) (size : Nat) where
  address : Pointer
  bytes : List UInt8
  fresh : firmware.pool address = none
  length_bytes : bytes.length = size

/-- What is decided outside the drivers. -/
structure Platform where
  allocatePool : (firmware : Firmware) → (size : Nat) → Option (Allocation firmware size)
  installProtocolInterface : Firmware → EfiStatus × EfiHandle

/-- A store that has no memory to go to; the run ends there. -/
inductive Fault
  | nullGlobalNvsArea
  | globalNvsAreaOverrun
  | poolOverrun
  deriving DecidableEq

def Firmware.place (address : Pointer) (contents : PoolContents) (firmware : Firmware) :
    Firmware :=
  { firmware with pool := Function.update firmware.pool address (some contents) }

def Firmware.observe (observation : Observation) (firmware : Firmware) : Firmware :=
  { firmware with log := observation :: firmware.log }

/-! ## PciHotPlug -/

/-- `PCI_HOT_PLUG_DRIVER_PRIVATE_SIGNATURE`. -/
def pciHotPlugDriverPrivateSignature : UInt64 := 0x504C5547

/-- `sizeof (PCI_HOT_PLUG_INSTANCE)`. -/
def sizeofHotPlugInstance : Nat := 40

/-- The instance behind `ZeroMem` and the four stores. -/
def initializedInstance : PciHotPlugInstance :=
  let zeroed : PciHotPlugInstance := {}
  { zeroed with
    signature := pciHotPlugDriverPrivateSignature
    hotPlugInitProtocol :=
      Function.update (Function.update (Function.update zeroed.hotPlugInitProtocol
        .getRootHpcList true) .initializeRootHpc true) .getResourcePadding true }

/-- The handle is only written, and the interface only found, when the installation succeeds. -/
def installHotPlugInit (platform : Platform) (address : Pointer) (firmware : Firmware) :
    EfiStatus × Firmware :=
  let firmware := firmware.place address (.hotPlugInstance initializedInstance)
  let installed := platform.installProtocolInterface firmware
  if efiError installed.1 then (installed.1, firmware)
  else
    (installed.1,
      { firmware.place address
          (.hotPlugInstance { initializedInstance with handle := some installed.2 }) with
        hotPlugInit := some address })

/-- Lines 92 to 116: allocate and install the instance. -/
def publishHotPlugInit (platform : Platform) (firmware : Firmware) : EfiStatus × Firmware :=
  match platform.allocatePool firmware sizeofHotPlugInstance with
  | none => (efiOutOfResources, firmware)
  | some block => installHotPlugInit platform block.address firmware

/-- The device path in its block, and both pointers of `mPcieLocation[0]` to it. -/
def Firmware.locate (path : Pointer) (bytes : List UInt8) (firmware : Firmware) : Firmware :=
  { firmware.place path (.devicePath bytes) with
    mPcieLocation := ⟨path, path⟩ }

/-- `UefiMain` of the hot-plug driver.  A block that was allocated before a failure is kept. -/
def uefiMain (platform : Platform) (firmware : Firmware) : Except Fault (EfiStatus × Firmware) :=
  let firmware := { firmware with loaded := true }
  match platform.allocatePool firmware sizeofHotPlugDevicePath with
  | none => .ok (efiOutOfResources, firmware)
  | some block =>
      match storeAll 0 (devicePathStores rp.dev.toUInt8 rp.func.toUInt8) block.bytes with
      | none => .error .poolOverrun
      | some bytes => .ok (publishHotPlugInit platform (firmware.locate block.address bytes))

/-- `*(UINT8 *)(GlobalNvsArea->Area + offset) = 0x01`, on what `LocateProtocol` has found. -/
def setNvsFlag (offset : Nat) (firmware : Firmware) : Except Fault Firmware :=
  match firmware.globalNvsArea with
  | none => .error .nullGlobalNvsArea
  | some area =>
      match storeAt area offset [0x01] with
      | none => .error .globalNvsAreaOverrun
      | some area => .ok { firmware with globalNvsArea := some area }

/-- `HPC_COUNT`. -/
def hpcCount : Nat := 1

/-- The flag that lets `_OSC` tell the operating system that hot-plug is usable. -/
def hotPlugFlagOffset : Nat := 0x71

/-- `GetRootHpcList`: the out parameters are assigned before the area is looked up. -/
def getRootHpcList (firmware : Firmware) : Except Fault (EfiStatus × Firmware) :=
  match setNvsFlag hotPlugFlagOffset firmware with
  | .error fault => .error fault
  | .ok firmware => .ok (efiSuccess, firmware.observe (.listed hpcCount firmware.mPcieLocation))

/-- `InitializeRootHpc`: signal the event if there is one, and report the state. -/
def initializeRootHpc (event : Option EfiEvent) (firmware : Firmware) : EfiStatus × Firmware :=
  let firmware := match event with
    | none => firmware
    | some event => firmware.observe (.signalled event)
  (efiSuccess, firmware.observe (.initialized efiHpcStateInitialized))

def Allocation.poolBlock {firmware : Firmware} (block : Allocation firmware paddingSize) :
    PoolBlock where
  address := block.address
  bytes := block.bytes
  length_bytes := block.length_bytes

/-- `GetResourcePadding` on the pool of the machine; the block belongs to the caller. -/
def answerPadding (platform : Platform) (hpcPciAddress : UInt64) (contents : PriorContents)
    (firmware : Firmware) : Except Fault (EfiStatus × Firmware) :=
  match getResourcePadding ((platform.allocatePool firmware paddingSize).map (·.poolBlock))
      hpcPciAddress contents with
  | none => .error .poolOverrun
  | some answer =>
      let firmware := match answer.allocated with
        | none => firmware
        | some buffer => firmware.place buffer.address (.padding buffer.bytes)
      .ok (answer.status, firmware.observe (.padded hpcPciAddress answer))

/-! ## NvsPatcher -/

/-- `SRLD_OFFSET`. -/
def srldOffset : Nat := 0x7A7

/-- `UefiMain` of the patcher. -/
def patchNvs (firmware : Firmware) : Except Fault (EfiStatus × Firmware) :=
  match setNvsFlag srldOffset firmware with
  | .error fault => .error fault
  | .ok firmware => .ok (efiSuccess, firmware.observe .patched)

/-! ## Runs -/

/-- Before any of the drivers is loaded. -/
def Firmware.start : Firmware where
  pool := fun _ => none
  mPcieLocation := ⟨0, 0⟩
  loaded := false
  hotPlugInit := none
  globalNvsArea := none
  log := []

/-- Someone installs the area, and the callers of the protocol free their paddings. -/
inductive Step (platform : Platform) : Firmware → Firmware → Prop
  | areaInstalled {firmware : Firmware} {area : List UInt8}
      (first : firmware.globalNvsArea = none) :
      Step platform firmware
        ({ firmware with globalNvsArea := some area }.observe (.areaInstalled area))
  | loaded {firmware after : Firmware} {status : EfiStatus} (first : firmware.loaded = false)
      (runs : uefiMain platform firmware = .ok (status, after)) : Step platform firmware after
  | patched {firmware after : Firmware} {status : EfiStatus}
      (dispatched : firmware.globalNvsArea.isSome)
      (runs : patchNvs firmware = .ok (status, after)) : Step platform firmware after
  | listed {firmware after : Firmware} {status : EfiStatus}
      (published : firmware.hotPlugInit.isSome)
      (runs : getRootHpcList firmware = .ok (status, after)) : Step platform firmware after
  | initialized {firmware : Firmware} {event : Option EfiEvent}
      (published : firmware.hotPlugInit.isSome) :
      Step platform firmware (initializeRootHpc event firmware).2
  | padded {firmware after : Firmware} {hpcPciAddress : UInt64} {contents : PriorContents}
      {status : EfiStatus} (published : firmware.hotPlugInit.isSome)
      (runs : answerPadding platform hpcPciAddress contents firmware = .ok (status, after)) :
      Step platform firmware after
  | returned {firmware : Firmware} {padding : Pointer} {bytes : List UInt8}
      (owned : firmware.pool padding = some (.padding bytes)) :
      Step platform firmware
        ({ firmware with pool := Function.update firmware.pool padding none }.observe
          (.returned padding))

/-- The states that a run of the drivers and their callers can reach. -/
def ReachableBy (platform : Platform) (firmware : Firmware) : Prop :=
  Control.Reachable (Step platform) .start firmware

end Thundermod.Hotplug
