import Thundermod.Control.Loop
import Thundermod.Shim.Machine

/-!
# Mappings and their substitutes

Looking up, installing and uninstalling the substitute protocols, and the lookup
of the base driver's binding protocol.
-/

namespace Thundermod.Shim

open Control

/-! ## Lookup -/

/--
Get the base driver's binding protocol.  The call that finds it only stores it;
the pointer is returned from the next call on.
-/
def findDriverBindingProtocol (platform : Platform) (m : Machine) :
    Option DriverBinding × Machine :=
  match m.gDriverBindingSubstituteProtocol with
  | some binding => (some binding, m)
  | none =>
      (none, { m with
        gDriverBindingSubstituteProtocol := platform.locateProtocol m
        log := .located :: m.log })

/-- Whether a listed mapping belongs to the binding protocol. -/
def isProtocolsMapped (protocol : DriverBinding) (m : Machine) : Bool × Machine :=
  let found := search (fun entry => (m.mapping entry).bindingProtocol = some protocol)
    Machine.touch m.rootBridgeIoProtocolList m
  (found.2.isSome, found.1)

/-- The original of a substitute root-bridge protocol, or NULL. -/
def findRootBridgeIoProtocolMappingBySubstitute (substitute : RootBridgeIoPtr) (m : Machine) :
    Option HostRootBridgeIo × Machine :=
  let found := search (fun entry => RootBridgeIoPtr.substituted entry = substitute)
    Machine.touch m.rootBridgeIoProtocolList m
  (found.2.bind fun entry => (m.mapping entry).originalProtocol, found.1)

/-- The original of a substitute resource-allocation protocol, or NULL. -/
def findResourceAllocationProtocolMappingBySubstitute (substitute : ResourceAllocationPtr)
    (m : Machine) : Except Fault (Option HostResourceAllocation × Machine) :=
  let found := search
    (fun entry => ResourceAllocationPtr.substituted (m.mapping entry).parent = substitute)
    Machine.touch m.rootBridgeIoProtocolList m
  match found.2 with
  | none => .ok (none, found.1)
  | some entry =>
      match (m.mapping entry).parent with
      | none => .error .nullParent
      | some parent => .ok ((m.resourceAllocation parent).originalProtocol, found.1.touch parent)

section Lookup

variable (platform : Platform) (protocol : DriverBinding) (m : Machine)

@[simp] theorem toRegistry_findDriverBindingProtocol :
    (findDriverBindingProtocol platform m).2.toRegistry = m.toRegistry := by
  unfold findDriverBindingProtocol
  split <;> rfl

@[simp] theorem closes_findDriverBindingProtocol :
    (findDriverBindingProtocol platform m).2.closes = m.closes := by
  unfold findDriverBindingProtocol
  split <;> rfl

@[simp] theorem toHandleDatabase_findDriverBindingProtocol :
    (findDriverBindingProtocol platform m).2.toHandleDatabase = m.toHandleDatabase := by
  unfold findDriverBindingProtocol
  split <;> rfl

theorem findDriverBindingProtocol_of_cached {platform : Platform} {m : Machine}
    {binding : DriverBinding} (cached : m.gDriverBindingSubstituteProtocol = some binding) :
    findDriverBindingProtocol platform m = (some binding, m) := by
  simp only [findDriverBindingProtocol, cached]

@[simp] theorem toRegistry_isProtocolsMapped :
    (isProtocolsMapped protocol m).2.toRegistry = m.toRegistry :=
  search_frame Machine.toRegistry Machine.toRegistry_touch _ _ _

@[simp] theorem toHandleDatabase_isProtocolsMapped :
    (isProtocolsMapped protocol m).2.toHandleDatabase = m.toHandleDatabase :=
  search_frame Machine.toHandleDatabase Machine.toHandleDatabase_touch _ _ _

@[simp] theorem closes_isProtocolsMapped :
    (isProtocolsMapped protocol m).2.closes = m.closes :=
  search_frame Machine.closes Machine.closes_touch _ _ _

@[simp] theorem toDriverBindings_isProtocolsMapped :
    (isProtocolsMapped protocol m).2.toDriverBindings = m.toDriverBindings :=
  search_frame Machine.toDriverBindings Machine.toDriverBindings_touch _ _ _

theorem isProtocolsMapped_iff : (isProtocolsMapped protocol m).1 = true ↔
    ∃ entry ∈ m.rootBridgeIoProtocolList, (m.mapping entry).bindingProtocol = some protocol := by
  rw [isProtocolsMapped, search_result, List.find?_isSome]
  simp only [decide_eq_true_eq]

theorem toRegistry_findRootBridgeIo (substitute : RootBridgeIoPtr) :
    (findRootBridgeIoProtocolMappingBySubstitute substitute m).2.toRegistry = m.toRegistry :=
  search_frame Machine.toRegistry Machine.toRegistry_touch _ _ _

theorem toHandleDatabase_findRootBridgeIo (substitute : RootBridgeIoPtr) :
    (findRootBridgeIoProtocolMappingBySubstitute substitute m).2.toHandleDatabase =
      m.toHandleDatabase :=
  search_frame Machine.toHandleDatabase Machine.toHandleDatabase_touch _ _ _

/-- The substitute inside a listed mapping leads to the original of that mapping. -/
theorem findRootBridgeIo_of_listed {m : Machine} {entry : Addr}
    (listed : entry ∈ m.rootBridgeIoProtocolList) :
    (findRootBridgeIoProtocolMappingBySubstitute (.substituted entry) m).1 =
      (m.mapping entry).originalProtocol := by
  have found := search_unique (fun other => RootBridgeIoPtr.substituted other = .substituted entry)
    Machine.touch m listed (decide_eq_true rfl)
    (fun other _ hit => RootBridgeIoPtr.substituted.inj (of_decide_eq_true hit))
  simp only [findRootBridgeIoProtocolMappingBySubstitute, found]
  rfl

/--
The substitute inside the parent of a listed mapping leads to the original of that
parent, provided that no other listed mapping has the same parent.
-/
theorem findResourceAllocation_of_listed {m : Machine} {entry parent : Addr}
    (listed : entry ∈ m.rootBridgeIoProtocolList)
    (has_parent : (m.mapping entry).parent = some parent)
    (unique : ∀ other ∈ m.rootBridgeIoProtocolList,
      (m.mapping other).parent = some parent → other = entry) :
    ∃ after, findResourceAllocationProtocolMappingBySubstitute (.substituted (some parent)) m =
        .ok ((m.resourceAllocation parent).originalProtocol, after) ∧
      after.toRegistry = m.toRegistry ∧ after.toHandleDatabase = m.toHandleDatabase := by
  have found := search_unique
    (fun other => ResourceAllocationPtr.substituted (m.mapping other).parent =
      .substituted (some parent)) Machine.touch m listed (decide_eq_true (congrArg _ has_parent))
    (fun other listed' hit => unique other listed'
      (ResourceAllocationPtr.substituted.inj (of_decide_eq_true hit)))
  simp only [findResourceAllocationProtocolMappingBySubstitute, found, has_parent]
  refine ⟨_, rfl, ?_, ?_⟩
  · rw [Machine.toRegistry_touch]
    exact search_frame Machine.toRegistry Machine.toRegistry_touch _ _ _
  · rw [Machine.toHandleDatabase_touch]
    exact search_frame Machine.toHandleDatabase Machine.toHandleDatabase_touch _ _ _

end Lookup

/-! ## Root-bridge mappings -/

/-- Store the parent of a mapping, and its handle in the substitute. -/
def RootBridgeIoProtocolMapping.adopt (parentHandle : Option EfiHandle) (parent : Addr)
    (mapping : RootBridgeIoProtocolMapping) : RootBridgeIoProtocolMapping :=
  { mapping with
    substitutedProtocol := { mapping.substitutedProtocol with parentHandle := parentHandle }
    parent := some parent }

/-- Point every entry of a substitute root-bridge protocol to the shim's function for it. -/
def substituteRootBridgeIo (protocol : RootBridgeIoProtocol) : RootBridgeIoProtocol :=
  { protocol with
    pollMem := some .rootBridgeIoPollMem
    pollIo := some .rootBridgeIoPollIo
    memRead := some .rootBridgeIoMemRead
    memWrite := some .rootBridgeIoMemWrite
    ioRead := some .rootBridgeIoIoRead
    ioWrite := some .rootBridgeIoIoWrite
    copyMem := some .rootBridgeIoCopyMem
    pciRead := some .rootBridgeIoPciRead
    pciWrite := some .rootBridgeIoPciWrite
    map := some .rootBridgeIoMap
    unmap := some .rootBridgeIoUnmap
    allocateBuffer := some .rootBridgeIoAllocateBuffer
    freeBuffer := some .rootBridgeIoFreeBuffer
    flush := some .rootBridgeIoFlush
    getAttributes := some .rootBridgeIoGetAttributes
    setAttributes := some .rootBridgeIoSetAttributes
    configuration := some .rootBridgeIoConfiguration }

/-- The machine with a new mapping that is neither installed nor listed yet. -/
def Machine.withNewMapping (this : DriverBinding) (controller : EfiHandle) (block : Addr)
    (m : Machine) : Machine :=
  (m.allocateZeroPool block).modifyMapping block fun mapping =>
    { mapping with
      bindingProtocol := some this
      controller := some controller
      isOpen := false
      substitutedProtocol := substituteRootBridgeIo mapping.substitutedProtocol }

/-- The part of `installRootBridgeIoProtocolProtocol` behind the allocation. -/
def installNewMapping (platform : Platform) (this : DriverBinding) (controller : EfiHandle)
    (newIoMapping : Addr) (m : Machine) : Returned :=
  let install := (m.withNewMapping this controller newIoMapping).installMultipleProtocolInterfaces
    platform (some controller) (.rootBridgeIo newIoMapping)
  ⟨install.1.status, install.1.machine.modifyMapping newIoMapping fun mapping =>
    { mapping with hostBridgeHandle := install.2 }⟩

/-- Create a root-bridge mapping and install its substitute protocol. -/
def installRootBridgeIoProtocolProtocol (platform : Platform) (this : DriverBinding)
    (controller : EfiHandle) (m : Machine) : Except Fault (Returned × Addr) :=
  match platform.allocation m with
  | none => .error .nullAllocation
  | some newIoMapping =>
      .ok (installNewMapping platform this controller newIoMapping.1 m, newIoMapping.1)

/-- Uninstall a substitute and, if that succeeds, free the block it lies in. -/
def uninstallAndFree (platform : Platform) (handle : Option EfiHandle) (interface : Interface)
    (block : Option Addr) (m : Machine) : Returned where
  status := (m.uninstallMultipleProtocolInterfaces platform handle interface).status
  machine :=
    if (m.uninstallMultipleProtocolInterfaces platform handle interface).status = efiSuccess then
      (m.uninstallMultipleProtocolInterfaces platform handle interface).machine.freePool block
    else (m.uninstallMultipleProtocolInterfaces platform handle interface).machine

/-- Uninstall a substitute root-bridge protocol and free its mapping. -/
def uninstallRootBridgeIoProtocolProtocol (platform : Platform) (controller : EfiHandle)
    (rootBridgeIoProtocolMapping : Addr) : Machine → Returned :=
  uninstallAndFree platform (some controller) (.rootBridgeIo rootBridgeIoProtocolMapping)
    (some rootBridgeIoProtocolMapping)

section NewMapping

variable (platform : Platform) (this : DriverBinding) (controller : EfiHandle) (block : Addr)
  (m : Machine)

@[simp] theorem status_installNewMapping :
    (installNewMapping platform this controller block m).status =
      platform.installStatus (m.withNewMapping this controller block) (some controller)
        (.rootBridgeIo block) := rfl

@[simp] theorem rootBridgeIoProtocolList_installNewMapping :
    (installNewMapping platform this controller block m).machine.rootBridgeIoProtocolList =
      m.rootBridgeIoProtocolList := rfl

@[simp] theorem live_installNewMapping :
    (installNewMapping platform this controller block m).machine.live = block :: m.live := rfl

@[simp] theorem opens_installNewMapping :
    (installNewMapping platform this controller block m).machine.opens = m.opens := rfl

@[simp] theorem closes_installNewMapping :
    (installNewMapping platform this controller block m).machine.closes = m.closes := rfl

@[simp] theorem toDriverBindings_installNewMapping :
    (installNewMapping platform this controller block m).machine.toDriverBindings =
      m.toDriverBindings := rfl

theorem installed_installNewMapping {platform : Platform} {this : DriverBinding}
    {controller : EfiHandle} {block : Addr} {m : Machine}
    (installed : (installNewMapping platform this controller block m).status = efiSuccess) :
    (installNewMapping platform this controller block m).machine.installed =
      (controller, .rootBridgeIo block) :: m.installed :=
  if_pos installed

/-- The new mapping before it has a parent. -/
structure NewMapping (this : DriverBinding) (controller : EfiHandle)
    (mapping : RootBridgeIoProtocolMapping) : Prop where
  bindingProtocol : mapping.bindingProtocol = some this
  controller : mapping.controller = some controller
  originalProtocol : mapping.originalProtocol = none
  isOpen : mapping.isOpen = false
  functions : substituteRootBridgeIo mapping.substitutedProtocol = mapping.substitutedProtocol

theorem NewMapping.adopt {this : DriverBinding} {controller : EfiHandle}
    {mapping : RootBridgeIoProtocolMapping} (new : NewMapping this controller mapping)
    (parentHandle : Option EfiHandle) (parent : Addr) :
    NewMapping this controller (mapping.adopt parentHandle parent) where
  bindingProtocol := new.bindingProtocol
  controller := new.controller
  originalProtocol := new.originalProtocol
  isOpen := new.isOpen
  functions := congrArg (fun protocol => { protocol with parentHandle := parentHandle }) new.functions

theorem mapping_withNewMapping_of_ne {block other : Addr} (different : other ≠ block) :
    (m.withNewMapping this controller block).mapping other = m.mapping other :=
  (Machine.mapping_modifyMapping_of_ne different ..).trans
    (Machine.mapping_allocateZeroPool_of_ne m different)

theorem newMapping_withNewMapping :
    NewMapping this controller ((m.withNewMapping this controller block).mapping block) := by
  unfold Machine.withNewMapping
  rw [Machine.mapping_modifyMapping, Machine.mapping_allocateZeroPool]
  exact ⟨rfl, rfl, rfl, rfl, rfl⟩

theorem mapping_installNewMapping_of_ne {block other : Addr} (different : other ≠ block) :
    (installNewMapping platform this controller block m).machine.mapping other =
      m.mapping other :=
  (Machine.mapping_modifyMapping_of_ne different ..).trans
    (mapping_withNewMapping_of_ne this controller m different)

theorem newMapping_installNewMapping :
    NewMapping this controller
      ((installNewMapping platform this controller block m).machine.mapping block) := by
  have new := newMapping_withNewMapping this controller block m
  unfold installNewMapping
  rw [Machine.mapping_modifyMapping]
  exact ⟨new.bindingProtocol, new.controller, new.originalProtocol, new.isOpen, new.functions⟩

theorem resourceAllocation_installNewMapping_of_ne {block other : Addr}
    (different : other ≠ block) :
    (installNewMapping platform this controller block m).machine.resourceAllocation other =
      m.resourceAllocation other :=
  Machine.resourceAllocation_allocateZeroPool_of_ne m different

end NewMapping

/-! ## Resource-allocation mappings -/

/-- Point every entry of a substitute resource-allocation protocol to the shim's function for it. -/
def substituteResourceAllocation (protocol : ResourceAllocationProtocol) :
    ResourceAllocationProtocol :=
  { protocol with
    notifyPhase := some .notifyPhase
    getNextRootBridge := some .getNextRootBridge
    getAllocAttributes := some .getAttributes
    startBusEnumeration := some .startBusEnumeration
    setBusNumbers := some .setBusNumbers
    submitResources := some .submitResources
    getProposedResources := some .getProposedResources
    preprocessController := some .preprocessController }

def Machine.withNewResourceAllocation (block : Addr) (m : Machine) : Machine :=
  (m.allocateZeroPool block).modifyResourceAllocation block fun allocation =>
    { allocation with
      substitutedProtocol := substituteResourceAllocation allocation.substitutedProtocol }

/-- The part of `installResourceAllocationProtocol` behind the allocation. -/
def installNewResourceAllocation (platform : Platform) (newIoMapping newResourceAllocation : Addr)
    (m : Machine) : Returned :=
  let install := (m.withNewResourceAllocation newResourceAllocation).installMultipleProtocolInterfaces
    platform (m.mapping newIoMapping).substitutedProtocol.parentHandle
    (.resourceAllocation (some newResourceAllocation))
  ⟨install.1.status, install.1.machine.modifyMapping newIoMapping
    (·.adopt install.2 newResourceAllocation)⟩

/--
Create the resource-allocation mapping of a root-bridge mapping and install its
substitute protocol on the handle that the substitute root bridge names as its
parent.  That handle is still NULL, so the substitute gets a handle of its own.
-/
def installResourceAllocationProtocol (platform : Platform) (newIoMapping : Addr) (m : Machine) :
    Except Fault (Returned × Addr) :=
  match platform.allocation m with
  | none => .error .nullAllocation
  | some newResourceAllocation =>
      .ok (installNewResourceAllocation platform newIoMapping newResourceAllocation.1 m,
        newResourceAllocation.1)

section NewResourceAllocation

variable (platform : Platform) (entry block : Addr) (m : Machine)

@[simp] theorem status_installNewResourceAllocation :
    (installNewResourceAllocation platform entry block m).status =
      platform.installStatus (m.withNewResourceAllocation block)
        (m.mapping entry).substitutedProtocol.parentHandle (.resourceAllocation (some block)) := rfl

@[simp] theorem rootBridgeIoProtocolList_installNewResourceAllocation :
    (installNewResourceAllocation platform entry block m).machine.rootBridgeIoProtocolList =
      m.rootBridgeIoProtocolList := rfl

@[simp] theorem live_installNewResourceAllocation :
    (installNewResourceAllocation platform entry block m).machine.live = block :: m.live := rfl

@[simp] theorem opens_installNewResourceAllocation :
    (installNewResourceAllocation platform entry block m).machine.opens = m.opens := rfl

@[simp] theorem closes_installNewResourceAllocation :
    (installNewResourceAllocation platform entry block m).machine.closes = m.closes := rfl

@[simp] theorem toDriverBindings_installNewResourceAllocation :
    (installNewResourceAllocation platform entry block m).machine.toDriverBindings =
      m.toDriverBindings := rfl

theorem installed_installNewResourceAllocation {platform : Platform} {entry block : Addr}
    {m : Machine}
    (installed : (installNewResourceAllocation platform entry block m).status = efiSuccess) :
    ∃ handle, (installNewResourceAllocation platform entry block m).machine.installed =
      (handle, .resourceAllocation (some block)) :: m.installed :=
  ⟨_, if_pos installed⟩

theorem mapping_withNewResourceAllocation_of_ne {block other : Addr} (different : other ≠ block) :
    (m.withNewResourceAllocation block).mapping other = m.mapping other :=
  Machine.mapping_allocateZeroPool_of_ne m different

theorem mapping_installNewResourceAllocation_of_ne {entry block other : Addr}
    (different : other ≠ entry) (outside : other ≠ block) :
    (installNewResourceAllocation platform entry block m).machine.mapping other =
      m.mapping other :=
  (Machine.mapping_modifyMapping_of_ne different ..).trans
    (mapping_withNewResourceAllocation_of_ne m outside)

theorem mapping_installNewResourceAllocation {entry block : Addr} (different : entry ≠ block) :
    ∃ handle, (installNewResourceAllocation platform entry block m).machine.mapping entry =
      (m.mapping entry).adopt handle block := by
  rw [← mapping_withNewResourceAllocation_of_ne m different]
  exact ⟨_, Machine.mapping_modifyMapping ..⟩

/-- What the block of the parent held as a root-bridge mapping is lost. -/
theorem mapping_installNewResourceAllocation_block {entry block : Addr}
    (different : entry ≠ block) :
    (installNewResourceAllocation platform entry block m).machine.mapping block = {} :=
  (Machine.mapping_modifyMapping_of_ne different.symm ..).trans
    (Machine.mapping_allocateZeroPool block m)

theorem resourceAllocation_installNewResourceAllocation_of_ne {block other : Addr}
    (different : other ≠ block) :
    (installNewResourceAllocation platform entry block m).machine.resourceAllocation other =
      m.resourceAllocation other := by
  change (m.withNewResourceAllocation block).resourceAllocation other = _
  unfold Machine.withNewResourceAllocation
  rw [Machine.resourceAllocation_modifyResourceAllocation_of_ne different,
    Machine.resourceAllocation_allocateZeroPool_of_ne m different]

theorem resourceAllocation_installNewResourceAllocation :
    (installNewResourceAllocation platform entry block m).machine.resourceAllocation block =
      { substitutedProtocol := substituteResourceAllocation {} } := by
  change (m.withNewResourceAllocation block).resourceAllocation block = _
  unfold Machine.withNewResourceAllocation
  rw [Machine.resourceAllocation_modifyResourceAllocation,
    Machine.resourceAllocation_allocateZeroPool]

end NewResourceAllocation

/-- Uninstall a substitute resource-allocation protocol and free its mapping. -/
def uninstallResourceAllocationProtocol (platform : Platform) (handle : Option EfiHandle)
    (resourceAllocationProtocolMapping : Option Addr) : Machine → Returned :=
  uninstallAndFree platform handle (.resourceAllocation resourceAllocationProtocolMapping)
    resourceAllocationProtocolMapping

section Uninstall

variable (platform : Platform) (handle : Option EfiHandle) (interface : Interface)
  (freed : Option Addr) (m : Machine)

@[simp] theorem status_uninstallAndFree :
    (uninstallAndFree platform handle interface freed m).status =
      platform.uninstallStatus m handle interface := rfl

@[simp] theorem rootBridgeIoProtocolList_uninstallAndFree :
    (uninstallAndFree platform handle interface freed m).machine.rootBridgeIoProtocolList =
      m.rootBridgeIoProtocolList := by
  unfold uninstallAndFree
  split <;> simp

@[simp] theorem mapping_uninstallAndFree :
    (uninstallAndFree platform handle interface freed m).machine.mapping = m.mapping := by
  unfold uninstallAndFree
  split <;> simp

@[simp] theorem resourceAllocation_uninstallAndFree :
    (uninstallAndFree platform handle interface freed m).machine.resourceAllocation =
      m.resourceAllocation := by
  unfold uninstallAndFree
  split <;> simp

@[simp] theorem opens_uninstallAndFree :
    (uninstallAndFree platform handle interface freed m).machine.opens = m.opens := by
  unfold uninstallAndFree
  split
  · rw [Machine.toHandleDatabase_freePool]
    rfl
  · rfl

@[simp] theorem closes_uninstallAndFree :
    (uninstallAndFree platform handle interface freed m).machine.closes = m.closes := by
  unfold uninstallAndFree
  split <;> simp

@[simp] theorem toDriverBindings_uninstallAndFree :
    (uninstallAndFree platform handle interface freed m).machine.toDriverBindings =
      m.toDriverBindings := by
  unfold uninstallAndFree
  split
  · rw [Machine.toDriverBindings_freePool]
    rfl
  · rfl

variable {platform handle interface freed m}

theorem machine_uninstallAndFree
    (uninstalled : platform.uninstallStatus m handle interface = efiSuccess) :
    (uninstallAndFree platform handle interface freed m).machine =
      (m.uninstallMultipleProtocolInterfaces platform handle interface).machine.freePool freed :=
  if_pos uninstalled

theorem live_uninstallAndFree {block : Addr}
    (uninstalled : platform.uninstallStatus m handle interface = efiSuccess) :
    (uninstallAndFree platform handle interface (some block) m).machine.live =
      m.live.erase block := by
  rw [machine_uninstallAndFree uninstalled, Machine.live_freePool, Machine.toRegistry_uninstall]

theorem installed_uninstallAndFree {target : EfiHandle}
    (uninstalled : platform.uninstallStatus m (some target) interface = efiSuccess) :
    (uninstallAndFree platform (some target) interface freed m).machine.installed =
      m.installed.erase (target, interface) := by
  rw [machine_uninstallAndFree uninstalled, Machine.toHandleDatabase_freePool]
  exact if_pos uninstalled

/-- Only the given interface on the given handle is uninstalled. -/
theorem mem_installed_uninstallAndFree {entry : EfiHandle × Interface}
    (member : entry ∈ m.installed) (different : (some entry.1, entry.2) ≠ (handle, interface)) :
    entry ∈ (uninstallAndFree platform handle interface freed m).machine.installed := by
  have kept : entry ∈
      (m.uninstallMultipleProtocolInterfaces platform handle interface).machine.installed := by
    simp only [Machine.uninstallMultipleProtocolInterfaces]
    split
    · cases handle with
      | none => exact member
      | some target =>
          refine (List.mem_erase_of_ne ?_).mpr member
          rintro rfl
          exact different rfl
    · exact member
  unfold uninstallAndFree
  split
  · rwa [Machine.toHandleDatabase_freePool]
  · exact kept

/-- Only the given block is freed. -/
theorem mem_live_uninstallAndFree {block : Addr} (member : block ∈ m.live)
    (different : freed ≠ some block) :
    block ∈ (uninstallAndFree platform handle interface freed m).machine.live := by
  unfold uninstallAndFree
  split
  · cases freed with
    | none => exact member
    | some other =>
        rw [Machine.live_freePool]
        refine (List.mem_erase_of_ne ?_).mpr member
        rintro rfl
        exact different rfl
  · exact member

end Uninstall

end Thundermod.Shim
