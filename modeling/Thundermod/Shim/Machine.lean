import Mathlib.Logic.Function.Basic
import Thundermod.Control.Loop
import Thundermod.Shim.Protocols

/-!
# The machine under the shim

The state that the shim and the boot services share: the list of mappings, the
pool blocks behind it, and the handle database.  Everything that is decided
outside the shim (the outcomes of the boot services and of the base driver) comes
from a `Platform`, whose answers may depend on the whole machine.
-/

namespace Thundermod.Shim

/-! ## The registry of mappings -/

/--
A `RootBridgeIoProtocolMapping`; the defaults are those of zeroed memory.  Of `Link` only
whether it is set is kept: the order of the links is that of the list.
-/
structure RootBridgeIoProtocolMapping where
  link : Bool := false
  bindingProtocol : Option DriverBinding := none
  controller : Option EfiHandle := none
  hostBridgeHandle : Option EfiHandle := none
  originalProtocol : Option HostRootBridgeIo := none
  substitutedProtocol : RootBridgeIoProtocol := {}
  isOpen : Bool := false
  parent : Option Addr := none

/-- A `ResourceAllocationProtocolMapping`. -/
structure ResourceAllocationProtocolMapping where
  originalProtocol : Option HostResourceAllocation := none
  substitutedProtocol : ResourceAllocationProtocol := {}

/--
The list of mappings in link order and the contents of the pool, read as mappings of
either kind.  A freed block keeps its contents until it is allocated again, and stays
linked until the list is initialised.  The list is what a walk along the links finds as
long as these are set: it does not show that a walk gets lost at a block that has been
zeroed since and has not been inserted again, nor does a block that is in use as a mapping
of one kind show more than zeroes as the other.
-/
structure Registry where
  rootBridgeIoProtocolList : List Addr
  mapping : Addr → RootBridgeIoProtocolMapping
  resourceAllocation : Addr → ResourceAllocationProtocolMapping
  live : List Addr

/-- The links of the list are set: none of its blocks has been zeroed since its insertion. -/
def Registry.Linked (registry : Registry) : Prop :=
  ∀ entry ∈ registry.rootBridgeIoProtocolList, (registry.mapping entry).link = true

/-- The list is the same, and the blocks that were live still are, with the same contents. -/
structure Registry.Extends (before after : Registry) : Prop where
  list : after.rootBridgeIoProtocolList = before.rootBridgeIoProtocolList
  live : ∀ block ∈ before.live, block ∈ after.live
  mapping : ∀ block ∈ before.live, after.mapping block = before.mapping block
  resourceAllocation :
    ∀ block ∈ before.live, after.resourceAllocation block = before.resourceAllocation block

theorem Registry.Extends.refl (registry : Registry) : registry.Extends registry :=
  ⟨rfl, fun _ member => member, fun _ _ => rfl, fun _ _ => rfl⟩

/-! ## The handle database -/

/-- The protocol GUIDs under which the shim opens interfaces. -/
inductive Protocol
  | pciRootBridgeIo
  | pciHostBridgeResourceAllocation
  | pciIo
  deriving DecidableEq

/-- A substitute interface, installed under its substitute GUID. -/
inductive Interface
  | rootBridgeIo (mapping : Addr)
  | resourceAllocation (mapping : Option Addr)
  deriving DecidableEq

/-- What `CloseProtocol` is given: an interface on a handle, an agent and a controller. -/
structure OpenKey where
  handle : Option EfiHandle
  protocol : Protocol
  agent : EfiHandle
  controller : Option EfiHandle
  deriving DecidableEq

inductive OpenAttributes
  | byDriver
  | getProtocol
  deriving DecidableEq

structure OpenRecord where
  key : OpenKey
  attributes : OpenAttributes
  deriving DecidableEq

structure HandleDatabase where
  installed : List (EfiHandle × Interface)
  opens : List OpenRecord

/-! ## What is observed of a run -/

inductive Event
  | located
  | opened (record : OpenRecord) (status : EfiStatus)
  | closed (key : OpenKey) (status : EfiStatus)
  | installed (handle : Option EfiHandle) (interface : Interface) (status : EfiStatus)
  | uninstalled (handle : Option EfiHandle) (interface : Interface) (status : EfiStatus)
  | supported (controller : EfiHandle) (status : EfiStatus)
  | started (controller : EfiHandle) (status : EfiStatus)
  | stopped (controller : EfiHandle) (status : EfiStatus)
  | enumerated (status : EfiStatus)
  | freed (block : Addr)
  | doubleFree (block : Addr)
  | useAfterFree (block : Addr)
  | nameLookup (entries index : Nat)
  | printed (descriptor : List UInt8)
  | overread (buffer : Pointer)

/-- A NULL pointer that the shim reads or writes through; the run ends there. -/
inductive Fault
  | nullAllocation
  | nullDriverBinding
  | nullBindingProtocol
  | nullOriginal
  | nullParent
  | nullFunction
  deriving DecidableEq

/-- The shim's own binding protocol, and the cached pointer to that of the base driver. -/
structure DriverBindings where
  gPciBusDriverBinding : DriverBinding
  gDriverBindingSubstituteProtocol : Option DriverBinding

structure Machine extends Registry, HandleDatabase, DriverBindings where
  log : List Event

/-- What a call returns, and the machine it leaves. -/
structure Returned where
  status : EfiStatus
  machine : Machine

/-- What is decided outside the shim.  The allocator only hands out blocks that are not live. -/
structure Platform where
  allocation : (m : Machine) → Option {block : Addr // block ∉ m.live}
  openStatus : Machine → OpenRecord → EfiStatus
  closeStatus : Machine → OpenKey → EfiStatus
  rootBridgeIo : Machine → Option EfiHandle → HostRootBridgeIo
  resourceAllocation : Machine → EfiHandle → HostResourceAllocation
  installStatus : Machine → Option EfiHandle → Interface → EfiStatus
  newHandle : Machine → EfiHandle
  uninstallStatus : Machine → Option EfiHandle → Interface → EfiStatus
  locateProtocol : Machine → Option DriverBinding
  supportedStatus : Machine → DriverBinding → DriverBinding → EfiHandle → Pointer → EfiStatus
  startStatus : Machine → DriverBinding → DriverBinding → EfiHandle → Pointer → EfiStatus
  stopStatus : Machine → DriverBinding → DriverBinding → EfiHandle → Nat → List EfiHandle →
    EfiStatus
  locateHandleBuffer : Machine → EfiStatus × List EfiHandle
  locationStatus : Machine → EfiHandle → EfiStatus

namespace Machine

/-- The calls of `CloseProtocol` so far, the latest first, with what they returned. -/
def closes (m : Machine) : List (OpenKey × EfiStatus) :=
  m.log.filterMap fun
    | .closed key status => some (key, status)
    | _ => none

/-! ## Memory -/

def record (event : Event) (m : Machine) : Machine :=
  { m with log := event :: m.log }

/-- Read from a pool block; a read of a freed block is recorded. -/
def touch (block : Addr) (m : Machine) : Machine :=
  if block ∈ m.live then m else m.record (.useAfterFree block)

def modifyMapping (block : Addr)
    (change : RootBridgeIoProtocolMapping → RootBridgeIoProtocolMapping) (m : Machine) : Machine :=
  { m with mapping := Function.update m.mapping block (change (m.mapping block)) }

def modifyResourceAllocation (block : Addr)
    (change : ResourceAllocationProtocolMapping → ResourceAllocationProtocolMapping)
    (m : Machine) : Machine :=
  { m with
    resourceAllocation :=
      Function.update m.resourceAllocation block (change (m.resourceAllocation block)) }

/--
`AllocateZeroPool` has returned `block`: whatever the block held before, as a mapping of
either kind and linked or not, is zeroed.
-/
def allocateZeroPool (block : Addr) (m : Machine) : Machine :=
  { m with
    live := block :: m.live
    mapping := Function.update m.mapping block {}
    resourceAllocation := Function.update m.resourceAllocation block {} }

/-- `FreePool`; freeing a NULL pointer or a freed block changes no live block. -/
def freePool (block : Option Addr) (m : Machine) : Machine :=
  match block with
  | none => m
  | some block =>
      if block ∈ m.live then { m with live := m.live.erase block, log := .freed block :: m.log }
      else m.record (.doubleFree block)

section Memory

variable (event : Event) (block : Addr) (freed : Option Addr) (m : Machine)

@[simp] theorem toRegistry_record : (m.record event).toRegistry = m.toRegistry := rfl

@[simp] theorem toHandleDatabase_record :
    (m.record event).toHandleDatabase = m.toHandleDatabase := rfl

@[simp] theorem toDriverBindings_record :
    (m.record event).toDriverBindings = m.toDriverBindings := rfl

@[simp] theorem closes_touch : (m.touch block).closes = m.closes := by
  unfold touch
  split <;> rfl

@[simp] theorem closes_freePool : (m.freePool freed).closes = m.closes := by
  unfold freePool
  split
  · rfl
  · split <;> rfl

@[simp] theorem toRegistry_touch : (m.touch block).toRegistry = m.toRegistry := by
  unfold touch
  split <;> rfl

@[simp] theorem toHandleDatabase_touch :
    (m.touch block).toHandleDatabase = m.toHandleDatabase := by
  unfold touch
  split <;> rfl

@[simp] theorem toDriverBindings_touch :
    (m.touch block).toDriverBindings = m.toDriverBindings := by
  unfold touch
  split <;> rfl

@[simp] theorem rootBridgeIoProtocolList_modifyMapping
    (change : RootBridgeIoProtocolMapping → RootBridgeIoProtocolMapping) :
    (m.modifyMapping block change).rootBridgeIoProtocolList = m.rootBridgeIoProtocolList := rfl

@[simp] theorem live_modifyMapping
    (change : RootBridgeIoProtocolMapping → RootBridgeIoProtocolMapping) :
    (m.modifyMapping block change).live = m.live := rfl

@[simp] theorem toHandleDatabase_modifyMapping
    (change : RootBridgeIoProtocolMapping → RootBridgeIoProtocolMapping) :
    (m.modifyMapping block change).toHandleDatabase = m.toHandleDatabase := rfl

@[simp] theorem closes_modifyMapping
    (change : RootBridgeIoProtocolMapping → RootBridgeIoProtocolMapping) :
    (m.modifyMapping block change).closes = m.closes := rfl

@[simp] theorem rootBridgeIoProtocolList_modifyResourceAllocation
    (change : ResourceAllocationProtocolMapping → ResourceAllocationProtocolMapping) :
    (m.modifyResourceAllocation block change).rootBridgeIoProtocolList =
      m.rootBridgeIoProtocolList := rfl

@[simp] theorem live_modifyResourceAllocation
    (change : ResourceAllocationProtocolMapping → ResourceAllocationProtocolMapping) :
    (m.modifyResourceAllocation block change).live = m.live := rfl

@[simp] theorem mapping_modifyResourceAllocation
    (change : ResourceAllocationProtocolMapping → ResourceAllocationProtocolMapping) :
    (m.modifyResourceAllocation block change).mapping = m.mapping := rfl

@[simp] theorem toHandleDatabase_modifyResourceAllocation
    (change : ResourceAllocationProtocolMapping → ResourceAllocationProtocolMapping) :
    (m.modifyResourceAllocation block change).toHandleDatabase = m.toHandleDatabase := rfl

@[simp] theorem closes_modifyResourceAllocation
    (change : ResourceAllocationProtocolMapping → ResourceAllocationProtocolMapping) :
    (m.modifyResourceAllocation block change).closes = m.closes := rfl

theorem mapping_modifyMapping (block : Addr)
    (change : RootBridgeIoProtocolMapping → RootBridgeIoProtocolMapping) (m : Machine) :
    (m.modifyMapping block change).mapping block = change (m.mapping block) :=
  Function.update_self ..

theorem mapping_modifyMapping_of_ne {block other : Addr} (different : other ≠ block)
    (change : RootBridgeIoProtocolMapping → RootBridgeIoProtocolMapping) (m : Machine) :
    (m.modifyMapping block change).mapping other = m.mapping other :=
  Function.update_of_ne different ..

theorem resourceAllocation_modifyResourceAllocation (block : Addr)
    (change : ResourceAllocationProtocolMapping → ResourceAllocationProtocolMapping)
    (m : Machine) :
    (m.modifyResourceAllocation block change).resourceAllocation block =
      change (m.resourceAllocation block) :=
  Function.update_self ..

theorem resourceAllocation_modifyResourceAllocation_of_ne {block other : Addr}
    (different : other ≠ block)
    (change : ResourceAllocationProtocolMapping → ResourceAllocationProtocolMapping)
    (m : Machine) :
    (m.modifyResourceAllocation block change).resourceAllocation other =
      m.resourceAllocation other :=
  Function.update_of_ne different ..

@[simp] theorem toHandleDatabase_freePool :
    (m.freePool freed).toHandleDatabase = m.toHandleDatabase := by
  unfold freePool
  split
  · rfl
  · split <;> rfl

@[simp] theorem toDriverBindings_freePool :
    (m.freePool freed).toDriverBindings = m.toDriverBindings := by
  unfold freePool
  split
  · rfl
  · split <;> rfl

@[simp] theorem rootBridgeIoProtocolList_freePool :
    (m.freePool freed).rootBridgeIoProtocolList = m.rootBridgeIoProtocolList := by
  unfold freePool
  split
  · rfl
  · split <;> rfl

@[simp] theorem mapping_freePool : (m.freePool freed).mapping = m.mapping := by
  unfold freePool
  split
  · rfl
  · split <;> rfl

@[simp] theorem resourceAllocation_freePool :
    (m.freePool freed).resourceAllocation = m.resourceAllocation := by
  unfold freePool
  split
  · rfl
  · split <;> rfl

theorem live_freePool : (m.freePool (some block)).live = m.live.erase block := by
  unfold freePool
  by_cases member : block ∈ m.live
  · simp only [if_pos member]
  · simp only [if_neg member, toRegistry_record]
    exact (List.erase_of_not_mem member).symm

end Memory

section Allocation

variable (block : Addr) (m : Machine)

theorem mapping_allocateZeroPool : (m.allocateZeroPool block).mapping block = {} :=
  Function.update_self ..

theorem mapping_allocateZeroPool_of_ne {block other : Addr} (different : other ≠ block) :
    (m.allocateZeroPool block).mapping other = m.mapping other :=
  Function.update_of_ne different ..

theorem resourceAllocation_allocateZeroPool :
    (m.allocateZeroPool block).resourceAllocation block = {} :=
  Function.update_self ..

theorem resourceAllocation_allocateZeroPool_of_ne {block other : Addr}
    (different : other ≠ block) :
    (m.allocateZeroPool block).resourceAllocation other = m.resourceAllocation other :=
  Function.update_of_ne different ..

end Allocation

/-! ## Boot services -/

def openProtocol (platform : Platform) (request : OpenRecord) (m : Machine) : Returned where
  status := platform.openStatus m request
  machine :=
    { m with
      opens := if platform.openStatus m request = efiSuccess then request :: m.opens else m.opens
      log := .opened request (platform.openStatus m request) :: m.log }

/-- `CloseProtocol` removes every record of the agent and controller on the interface. -/
def closeProtocol (platform : Platform) (key : OpenKey) (m : Machine) : Returned where
  status := platform.closeStatus m key
  machine :=
    { m with
      opens :=
        if platform.closeStatus m key = efiSuccess then
          m.opens.filter fun request => request.key ≠ key
        else m.opens
      log := .closed key (platform.closeStatus m key) :: m.log }

/--
`InstallMultipleProtocolInterfaces` for one interface: the interface is installed
on the given handle, or on a new handle if there is none.
-/
def installMultipleProtocolInterfaces (platform : Platform) (handle : Option EfiHandle)
    (interface : Interface) (m : Machine) : Returned × Option EfiHandle :=
  let status := platform.installStatus m handle interface
  let target := handle.getD (platform.newHandle m)
  (⟨status, { m with
    installed := if status = efiSuccess then (target, interface) :: m.installed else m.installed
    log := .installed handle interface status :: m.log }⟩,
    if status = efiSuccess then some target else handle)

def uninstallMultipleProtocolInterfaces (platform : Platform) (handle : Option EfiHandle)
    (interface : Interface) (m : Machine) : Returned where
  status := platform.uninstallStatus m handle interface
  machine :=
    { m with
      installed :=
        if platform.uninstallStatus m handle interface = efiSuccess then
          handle.elim m.installed fun target => m.installed.erase (target, interface)
        else m.installed
      log := .uninstalled handle interface (platform.uninstallStatus m handle interface) :: m.log }

section Services

variable (platform : Platform) (request : OpenRecord) (key : OpenKey) (handle : Option EfiHandle)
  (interface : Interface) (m : Machine)

@[simp] theorem status_openProtocol :
    (m.openProtocol platform request).status = platform.openStatus m request := rfl

@[simp] theorem toRegistry_openProtocol :
    (m.openProtocol platform request).machine.toRegistry = m.toRegistry := rfl

@[simp] theorem installed_openProtocol :
    (m.openProtocol platform request).machine.installed = m.installed := rfl

theorem opens_openProtocol {platform : Platform} {request : OpenRecord} {m : Machine}
    (success : platform.openStatus m request = efiSuccess) :
    (m.openProtocol platform request).machine.opens = request :: m.opens :=
  if_pos success

theorem opens_openProtocol_failed {platform : Platform} {request : OpenRecord} {m : Machine}
    (failed : platform.openStatus m request ≠ efiSuccess) :
    (m.openProtocol platform request).machine.opens = m.opens :=
  if_neg failed

@[simp] theorem closes_openProtocol :
    (m.openProtocol platform request).machine.closes = m.closes := rfl

theorem opens_closeProtocol {platform : Platform} {key : OpenKey} {m : Machine}
    (success : platform.closeStatus m key = efiSuccess) :
    (m.closeProtocol platform key).machine.opens =
      m.opens.filter fun request => request.key ≠ key :=
  if_pos success

theorem opens_closeProtocol_failed {platform : Platform} {key : OpenKey} {m : Machine}
    (failed : platform.closeStatus m key ≠ efiSuccess) :
    (m.closeProtocol platform key).machine.opens = m.opens :=
  if_neg failed

/-- Only the records of the given key are removed. -/
theorem mem_opens_closeProtocol {platform : Platform} {key : OpenKey} {m : Machine}
    {request : OpenRecord} (member : request ∈ m.opens) (different : request.key ≠ key) :
    request ∈ (m.closeProtocol platform key).machine.opens := by
  by_cases success : platform.closeStatus m key = efiSuccess
  · rw [opens_closeProtocol success]
    exact List.mem_filter.mpr ⟨member, decide_eq_true different⟩
  · rwa [opens_closeProtocol_failed success]

@[simp] theorem closes_closeProtocol : (m.closeProtocol platform key).machine.closes =
    (key, platform.closeStatus m key) :: m.closes := rfl

@[simp] theorem toDriverBindings_openProtocol :
    (m.openProtocol platform request).machine.toDriverBindings = m.toDriverBindings := rfl

@[simp] theorem status_closeProtocol :
    (m.closeProtocol platform key).status = platform.closeStatus m key := rfl

@[simp] theorem toRegistry_closeProtocol :
    (m.closeProtocol platform key).machine.toRegistry = m.toRegistry := rfl

@[simp] theorem installed_closeProtocol :
    (m.closeProtocol platform key).machine.installed = m.installed := rfl

@[simp] theorem toDriverBindings_closeProtocol :
    (m.closeProtocol platform key).machine.toDriverBindings = m.toDriverBindings := rfl

@[simp] theorem toRegistry_install :
    (m.installMultipleProtocolInterfaces platform handle interface).1.machine.toRegistry =
      m.toRegistry := rfl

@[simp] theorem status_uninstall :
    (m.uninstallMultipleProtocolInterfaces platform handle interface).status =
      platform.uninstallStatus m handle interface := rfl

@[simp] theorem closes_uninstall :
    (m.uninstallMultipleProtocolInterfaces platform handle interface).machine.closes =
      m.closes := rfl

@[simp] theorem toRegistry_uninstall :
    (m.uninstallMultipleProtocolInterfaces platform handle interface).machine.toRegistry =
      m.toRegistry := rfl

end Services

end Machine

end Thundermod.Shim
