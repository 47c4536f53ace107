import Thundermod.Control.Run
import Thundermod.Shim.Registry

/-!
# The driver binding

The three entry points that the firmware calls in place of those of the PCI bus
driver.  A local `Status` that a function may return without having assigned it is
an argument, `indeterminate`.
-/

namespace Thundermod.Shim

open Control

/-- The driver's entry point: an empty list, and a binding protocol on the image's handle. -/
def pciDxeShimMain (imageHandle : EfiHandle) (gPciBusDriverBinding : Pointer) : Machine where
  rootBridgeIoProtocolList := []
  mapping := fun _ => {}
  resourceAllocation := fun _ => {}
  live := []
  installed := []
  opens := []
  gPciBusDriverBinding := ⟨gPciBusDriverBinding, imageHandle⟩
  gDriverBindingSubstituteProtocol := none
  log := []

/-! ## Opening the host-bridge protocols -/

/-- The long-lived open of a controller's root-bridge protocol. -/
def rootBridgeIoOpen (agent : EfiHandle) (controller : Option EfiHandle) : OpenRecord where
  key := ⟨controller, .pciRootBridgeIo, agent, controller⟩
  attributes := .getProtocol

def resourceAllocationOpen (agent : EfiHandle) (controller : Option EfiHandle)
    (parentHandle : EfiHandle) : OpenRecord where
  key := ⟨some parentHandle, .pciHostBridgeResourceAllocation, agent, controller⟩
  attributes := .getProtocol

/--
`OpenProtocol` for the parent's original, which is stored through the parent pointer.
A call that is refused with `EFI_UNSUPPORTED` stores NULL there; the pointer is left as
it is here, which is NULL in every state that can be reached, as the mapping is only now
being opened.
-/
def openResourceAllocation (platform : Platform) (binding : DriverBinding)
    (mapping : RootBridgeIoProtocolMapping) (original : HostRootBridgeIo) (m : Machine) :
    Outcome Fault Returned Returned :=
  let opened := m.openProtocol platform
    (resourceAllocationOpen binding.driverBindingHandle mapping.controller original.parentHandle)
  if opened.status = efiSuccess then
    match mapping.parent with
    | none => .fault .nullParent
    | some parent =>
        .next { opened with
          machine := (opened.machine.touch parent).modifyResourceAllocation parent fun allocation =>
            { allocation with
              originalProtocol := some (platform.resourceAllocation m original.parentHandle) } }
  else .leave opened

/-- Record the original of a mapping, whose segment number the substitute takes over. -/
def RootBridgeIoProtocolMapping.openWith (original : HostRootBridgeIo)
    (mapping : RootBridgeIoProtocolMapping) : RootBridgeIoProtocolMapping :=
  { mapping with
    originalProtocol := some original
    isOpen := true
    substitutedProtocol :=
      { mapping.substitutedProtocol with segmentNumber := original.segmentNumber } }

/-- Open the two originals of a mapping. -/
def openOriginals (platform : Platform) (entry : Addr) (binding : DriverBinding) (m : Machine) :
    Outcome Fault Returned Returned :=
  let mapping := m.mapping entry
  let opened := m.openProtocol platform
    (rootBridgeIoOpen binding.driverBindingHandle mapping.controller)
  if opened.status = efiSuccess then
    let original := platform.rootBridgeIo m mapping.controller
    openResourceAllocation platform binding mapping original
      (opened.machine.modifyMapping entry (·.openWith original))
  else .leave opened

/-- One pass of the loop of `openBaseProtocols`. -/
def openMapping (platform : Platform) (entry : Addr) (state : Returned) :
    Outcome Fault Returned Returned :=
  let m := state.machine.touch entry
  if (m.mapping entry).isOpen then .next { state with machine := m }
  else
    match (m.mapping entry).bindingProtocol with
    | none => .fault .nullBindingProtocol
    | some binding => openOriginals platform entry binding m

/-- Open the host bridge's protocols for every mapping that is not open yet. -/
def openBaseProtocols (platform : Platform) (indeterminate : EfiStatus) (m : Machine) :
    Except Fault Returned :=
  match forEach (openMapping platform) m.rootBridgeIoProtocolList ⟨indeterminate, m⟩ with
  | .fault fault => .error fault
  | .next state => .ok state
  | .leave result => .ok result

/-! ## Closing and freeing everything -/

/-- The end of one pass of `cleanupDriver`: uninstall both substitutes, freeing the mappings. -/
def uninstallSubstitutes (platform : Platform) (controller : EfiHandle) (entry : Addr)
    (m : Machine) : Outcome Fault Returned Returned :=
  let mapping := m.mapping entry
  let first := uninstallResourceAllocationProtocol platform mapping.substitutedProtocol.parentHandle
    mapping.parent (m.touch entry)
  if first.status = efiSuccess then
    let second := uninstallRootBridgeIoProtocolProtocol platform controller entry first.machine
    -- The loop goes on through the link of the mapping that has just been freed.
    if second.status = efiSuccess then .next { second with machine := second.machine.touch entry }
    else .leave second
  else .leave first

/-- One pass of the loop of `cleanupDriver`. -/
def cleanupMapping (platform : Platform) (this : DriverBinding) (controller : EfiHandle)
    (entry : Addr) (state : Returned) : Outcome Fault Returned Returned :=
  let first := state.machine.closeProtocol platform
    (rootBridgeIoOpen this.driverBindingHandle (some controller)).key
  if first.status = efiSuccess then
    match (first.machine.mapping entry).originalProtocol with
    | none => .fault .nullOriginal
    | some original =>
        let second := (first.machine.touch entry).closeProtocol platform
          (resourceAllocationOpen this.driverBindingHandle (some controller)
            original.parentHandle).key
        if second.status = efiSuccess then
          uninstallSubstitutes platform controller entry second.machine
        else .leave second
  else .leave first

/-- Close the protocols and free the mappings of the whole list. -/
def cleanupDriver (platform : Platform) (indeterminate : EfiStatus) (this : DriverBinding)
    (controller : EfiHandle) (m : Machine) : Except Fault Returned :=
  match forEach (cleanupMapping platform this controller) m.rootBridgeIoProtocolList
      ⟨indeterminate, m⟩ with
  | .fault fault => .error fault
  | .next state => .ok { state with machine := { state.machine with rootBridgeIoProtocolList := [] } }
  | .leave result => .ok result

/-! ## Supported -/

/-- The probe that `Supported` makes of a controller's root-bridge protocol. -/
def rootBridgeIoProbe (agent controller : EfiHandle) : OpenRecord where
  key := ⟨some controller, .pciRootBridgeIo, agent, some controller⟩
  attributes := .byDriver

/-- The base driver's `Supported`, called with the shim's own binding protocol. -/
def baseSupported (platform : Platform) (binding : DriverBinding) (controller : EfiHandle)
    (remainingDevicePath : Pointer) (m : Machine) : Returned :=
  let status := platform.supportedStatus m binding m.gPciBusDriverBinding controller
    remainingDevicePath
  ⟨status, m.record (.supported controller status)⟩

def callSupported (platform : Platform) (controller : EfiHandle) (remainingDevicePath : Pointer)
    (m : Machine) : Except Fault Returned :=
  match m.gDriverBindingSubstituteProtocol with
  | none => .error .nullDriverBinding
  | some binding => .ok (baseSupported platform binding controller remainingDevicePath m)

/--
Complete a mapping with its parent and insert it at the tail of the list.  Only a block
that was freed can still be linked there; its new link ends the list, and what stood
behind it is cut off.
-/
def Machine.insertTail (newIoMapping newResourceAllocation : Addr) (m : Machine) : Machine :=
  let m := m.modifyMapping newIoMapping fun mapping =>
    { mapping with parent := some newResourceAllocation, link := true }
  { m with
    rootBridgeIoProtocolList :=
      m.rootBridgeIoProtocolList.takeWhile (· ≠ newIoMapping) ++ [newIoMapping] }

section InsertTail

variable (entry parent : Addr) (m : Machine)

@[simp] theorem rootBridgeIoProtocolList_insertTail :
    (m.insertTail entry parent).rootBridgeIoProtocolList =
      m.rootBridgeIoProtocolList.takeWhile (· ≠ entry) ++ [entry] :=
  rfl

@[simp] theorem live_insertTail : (m.insertTail entry parent).live = m.live := rfl

@[simp] theorem resourceAllocation_insertTail :
    (m.insertTail entry parent).resourceAllocation = m.resourceAllocation := rfl

@[simp] theorem toHandleDatabase_insertTail :
    (m.insertTail entry parent).toHandleDatabase = m.toHandleDatabase := rfl

@[simp] theorem closes_insertTail : (m.insertTail entry parent).closes = m.closes := rfl

@[simp] theorem toDriverBindings_insertTail :
    (m.insertTail entry parent).toDriverBindings = m.toDriverBindings := rfl

theorem mapping_insertTail : (m.insertTail entry parent).mapping entry =
    { m.mapping entry with parent := some parent, link := true } :=
  Function.update_self ..

theorem mapping_insertTail_of_ne {entry other : Addr} (different : other ≠ entry) :
    (m.insertTail entry parent).mapping other = m.mapping other :=
  Function.update_of_ne different ..

end InsertTail

/-- The end of `Supported`: the base driver has accepted the controller. -/
def listMapping (platform : Platform) (newIoMapping : Addr) (tested : Returned) :
    Except Fault Returned :=
  match installResourceAllocationProtocol platform newIoMapping tested.machine with
  | .error fault => .error fault
  | .ok (install, newResourceAllocation) =>
      if install.status = efiSuccess then
        .ok ⟨tested.status, install.machine.insertTail newIoMapping newResourceAllocation⟩
      else .ok ⟨tested.status, install.machine⟩

/-- The part of `Supported` that hooks a controller. -/
def hookController (platform : Platform) (this : DriverBinding) (controller : EfiHandle)
    (remainingDevicePath : Pointer) (m : Machine) : Except Fault Returned :=
  match installRootBridgeIoProtocolProtocol platform this controller m with
  | .error fault => .error fault
  | .ok (install, newIoMapping) =>
      if install.status = efiSuccess then
        match callSupported platform controller remainingDevicePath install.machine with
        | .error fault => .error fault
        | .ok tested =>
            if tested.status = efiSuccess then listMapping platform newIoMapping tested
            else
              .ok { tested with
                machine := (uninstallRootBridgeIoProtocolProtocol platform controller newIoMapping
                  tested.machine).machine }
      else .ok install

/-- The part of `Supported` behind a probe that found the protocol. -/
def supportProbed (platform : Platform) (this : DriverBinding) (controller : EfiHandle)
    (remainingDevicePath : Pointer) (m : Machine) : Except Fault Returned :=
  let close := m.closeProtocol platform (rootBridgeIoProbe this.driverBindingHandle controller).key
  let mapped := isProtocolsMapped this close.machine
  if mapped.1 then callSupported platform controller remainingDevicePath mapped.2
  else hookController platform this controller remainingDevicePath mapped.2

/-- Test whether the driver supports a controller, and hook its protocols. -/
def pciBusDriverBindingSupported (platform : Platform) (this : DriverBinding)
    (controller : EfiHandle) (remainingDevicePath : Pointer) (m : Machine) :
    Except Fault Returned :=
  let found := findDriverBindingProtocol platform m
  if found.1 = none then .ok ⟨efiNotFound, found.2⟩
  else
    let probe := found.2.openProtocol platform (rootBridgeIoProbe this.driverBindingHandle controller)
    if probe.status = efiAlreadyStarted then .ok { probe with status := efiSuccess }
    else if efiError probe.status then .ok probe
    else supportProbed platform this controller remainingDevicePath probe.machine

/-! ## Start and Stop -/

/-- One device of `dumpInstalledDevices`, without the register reads, which decide nothing. -/
def dumpDevice (platform : Platform) (bindingProtocol : DriverBinding) (controller device : EfiHandle)
    (state : Returned) : Outcome Fault Returned Returned :=
  let key : OpenKey :=
    ⟨some device, .pciIo, bindingProtocol.driverBindingHandle, some controller⟩
  let opened := state.machine.openProtocol platform ⟨key, .getProtocol⟩
  if efiError opened.status then .leave opened
  else
    let location := platform.locationStatus opened.machine device
    if efiError location then .leave { opened with status := location }
    else
      let closed := opened.machine.closeProtocol platform key
      if efiError closed.status then .leave closed
      else .next closed

/-- Dump the registers of the installed PCI devices. -/
def dumpInstalledDevices (platform : Platform) (bindingProtocol : DriverBinding)
    (controller : EfiHandle) (m : Machine) : Except Fault Returned :=
  let handles := platform.locateHandleBuffer m
  let located := m.record (.enumerated handles.1)
  if efiError handles.1 then .ok ⟨handles.1, located⟩
  else
    match forEach (dumpDevice platform bindingProtocol controller) handles.2
        ⟨handles.1, located⟩ with
    | .fault fault => .error fault
    | .next state => .ok { state with status := efiSuccess }
    | .leave result => .ok result

/-- Open the host bridge's protocols, start the base driver and dump its devices. -/
def pciBusDriverBindingStart (platform : Platform) (indeterminate : EfiStatus)
    (this : DriverBinding) (controller : EfiHandle) (remainingDevicePath : Pointer) (m : Machine) :
    Except Fault Returned :=
  let found := findDriverBindingProtocol platform m
  match openBaseProtocols platform indeterminate found.2 with
  | .error fault => .error fault
  | .ok opened =>
      if opened.status = efiSuccess then
        match found.1 with
        | none => .error .nullDriverBinding
        | some original =>
            let status := platform.startStatus opened.machine original original controller
              remainingDevicePath
            match dumpInstalledDevices platform this controller
                (opened.machine.record (.started controller status)) with
            | .error fault => .error fault
            | .ok dumped => .ok { dumped with status := status }
      else .ok opened

/-- Stop the base driver and clean up. -/
def pciBusDriverBindingStop (platform : Platform) (indeterminate : EfiStatus)
    (this : DriverBinding) (controller : EfiHandle) (numberOfChildren : Nat)
    (childHandleBuffer : List EfiHandle) (m : Machine) : Except Fault Returned :=
  let found := findDriverBindingProtocol platform m
  match found.1 with
  | none => .error .nullDriverBinding
  | some original =>
      let status := platform.stopStatus found.2 original original controller numberOfChildren
        childHandleBuffer
      let stopped := found.2.record (.stopped controller status)
      if status = efiSuccess then cleanupDriver platform indeterminate this controller stopped
      else .ok ⟨status, stopped⟩

/-! ## Runs -/

/-- The calls that the firmware makes. -/
inductive Call
  | supported (this : DriverBinding) (controller : EfiHandle) (remainingDevicePath : Pointer)
  | start (this : DriverBinding) (controller : EfiHandle) (remainingDevicePath : Pointer)
  | stop (this : DriverBinding) (controller : EfiHandle) (numberOfChildren : Nat)
      (childHandleBuffer : List EfiHandle)

def Call.run (platform : Platform) (indeterminate : EfiStatus) (m : Machine) :
    Call → Except Fault Returned
  | .supported this controller remainingDevicePath =>
      pciBusDriverBindingSupported platform this controller remainingDevicePath m
  | .start this controller remainingDevicePath =>
      pciBusDriverBindingStart platform indeterminate this controller remainingDevicePath m
  | .stop this controller numberOfChildren childHandleBuffer =>
      pciBusDriverBindingStop platform indeterminate this controller numberOfChildren
        childHandleBuffer m

/-- A call that returns, among those that are admitted.  Every call has a platform of its own. -/
def Step (Admitted : Platform → Call → Machine → Prop) (m m' : Machine) : Prop :=
  ∃ platform indeterminate call status, Admitted platform call m ∧
    call.run platform indeterminate m = .ok ⟨status, m'⟩

/-- The states that the shim can reach by admitted calls. -/
def ReachableBy (Admitted : Platform → Call → Machine → Prop) (m : Machine) : Prop :=
  ∃ imageHandle gPciBusDriverBinding,
    Reachable (Step Admitted) (pciDxeShimMain imageHandle gPciBusDriverBinding) m

/-- What holds at the start and survives every admitted call holds in every reachable state. -/
theorem ReachableBy.invariant {Admitted : Platform → Call → Machine → Prop} {m : Machine}
    (reached : ReachableBy Admitted m) (invariant : Machine → Prop)
    (start : ∀ imageHandle gPciBusDriverBinding,
      invariant (pciDxeShimMain imageHandle gPciBusDriverBinding))
    (preserved : ∀ platform indeterminate call m r, invariant m → Admitted platform call m →
      call.run platform indeterminate m = .ok r → invariant r.machine) : invariant m := by
  obtain ⟨imageHandle, gPciBusDriverBinding, reached⟩ := reached
  refine reached.invariant invariant (start imageHandle gPciBusDriverBinding) ?_
  rintro before after holds ⟨platform, indeterminate, call, status, admitted, run⟩
  exact preserved platform indeterminate call before ⟨status, after⟩ holds admitted run

/-- The machine that a sequence of calls leaves on one platform; a call that faults is skipped. -/
def afterCalls (platform : Platform) (calls : List Call) (m : Machine) : Machine :=
  calls.foldl (fun m call =>
    match call.run platform 0 m with
    | .error _ => m
    | .ok r => r.machine) m

theorem reachableBy_afterCalls {Admitted : Platform → Call → Machine → Prop} {platform : Platform}
    {m : Machine} (reached : ReachableBy Admitted m) :
    ∀ calls : List Call, (∀ call ∈ calls, ∀ m, Admitted platform call m) →
      ReachableBy Admitted (afterCalls platform calls m) := by
  intro calls
  induction calls generalizing m with
  | nil => exact fun _ => reached
  | cons call rest ih =>
      intro admitted
      have others := fun call member => admitted call (List.mem_cons_of_mem _ member)
      rw [afterCalls, List.foldl_cons]
      split
      · exact ih reached others
      · next r run =>
          obtain ⟨imageHandle, gPciBusDriverBinding, path⟩ := reached
          have step : Step Admitted m r.machine :=
            ⟨platform, 0, call, r.status, admitted call List.mem_cons_self m, run⟩
          exact ih ⟨imageHandle, gPciBusDriverBinding, path.step step⟩ others

/-! ## A cooperative platform -/

/-- An address above all live blocks. -/
def freshBlock (live : List Nat) : Nat :=
  live.foldr max 0 + 1

theorem lt_freshBlock {live : List Nat} {block : Nat} (member : block ∈ live) :
    block < freshBlock live := by
  induction live with
  | nil => cases member
  | cons first rest ih =>
      simp only [freshBlock, List.foldr_cons] at ih ⊢
      rcases List.mem_cons.mp member with rfl | later
      · omega
      · have below := ih later
        omega

theorem freshBlock_not_mem (live : List Addr) : freshBlock live ∉ live := fun member =>
  Nat.lt_irrefl _ (lt_freshBlock member)

/-- A controller that carries a substitute root-bridge interface. -/
def Carries (m : Machine) (controller : EfiHandle) : Prop :=
  ∃ mapping, (controller, .rootBridgeIo mapping) ∈ m.installed

/-- The interface is a substitute root-bridge protocol on the handle. -/
def isRootBridgeIoOn (controller : EfiHandle) (entry : EfiHandle × Interface) : Bool :=
  match entry.2 with
  | .rootBridgeIo _ => entry.1 = controller
  | .resourceAllocation _ => false

theorem any_isRootBridgeIoOn (m : Machine) (controller : EfiHandle) :
    m.installed.any (isRootBridgeIoOn controller) = true ↔ Carries m controller := by
  rw [List.any_eq_true]
  constructor
  · rintro ⟨⟨handle, interface⟩, member, matching⟩
    cases interface with
    | rootBridgeIo mapping =>
        obtain rfl : handle = controller := of_decide_eq_true matching
        exact ⟨mapping, member⟩
    | resourceAllocation mapping => cases matching
  · rintro ⟨mapping, member⟩
    exact ⟨_, member, decide_eq_true rfl⟩

/--
A platform on which every service succeeds, `CloseProtocol` as long as there is a
record to remove, and whose base driver supports what is hooked.
-/
def cooperative : Platform where
  allocation := fun m => some ⟨freshBlock m.live, freshBlock_not_mem m.live⟩
  openStatus := fun _ _ => efiSuccess
  closeStatus := fun m key =>
    if ∃ request ∈ m.opens, request.key = key then efiSuccess else efiNotFound
  rootBridgeIo := fun _ _ => ⟨0x100, 7, 0⟩
  resourceAllocation := fun _ _ => ⟨0x200⟩
  installStatus := fun _ _ _ => efiSuccess
  newHandle := fun _ => 9
  uninstallStatus := fun _ _ _ => efiSuccess
  locateProtocol := fun _ => some ⟨0x300, 2⟩
  supportedStatus := fun m _ _ controller _ =>
    if m.installed.any (isRootBridgeIoOn controller) then efiSuccess else efiNotFound
  startStatus := fun _ _ _ _ _ => efiSuccess
  stopStatus := fun _ _ _ _ _ _ => efiSuccess
  locateHandleBuffer := fun _ => (efiSuccess, [])
  locationStatus := fun _ _ => efiSuccess

/-- The binding protocol of the shim, as installed by `pciDxeShimMain 1 0x400`. -/
def shimBinding : DriverBinding := ⟨0x400, 1⟩

/-- The machine that a call leaves on the cooperative platform. -/
def afterCall (call : Call) (m : Machine) : Machine :=
  match call.run cooperative 0 m with
  | .error _ => m
  | .ok r => r.machine

/-- The shim once a first `Supported` has located the base driver. -/
def locatedMachine : Machine :=
  afterCall (.supported shimBinding 5 0) (pciDxeShimMain 1 0x400)

/-- The shim once the controller 5 has been hooked. -/
def hookedMachine : Machine :=
  afterCall (.supported shimBinding 5 0) locatedMachine

/-- The shim once the controller 5 has been started. -/
def startedMachine : Machine :=
  afterCall (.start shimBinding 5 0) hookedMachine

section Reachable

variable {Admitted : Platform → Call → Machine → Prop}
  (first : Admitted cooperative (.supported shimBinding 5 0) (pciDxeShimMain 1 0x400))
  (second : Admitted cooperative (.supported shimBinding 5 0) locatedMachine)
  (third : Admitted cooperative (.start shimBinding 5 0) hookedMachine)

include first in
theorem reachableBy_locatedMachine : ReachableBy Admitted locatedMachine :=
  ⟨1, 0x400, (Reachable.start ..).step ⟨cooperative, 0, _, efiNotFound, first, rfl⟩⟩

include first second in
theorem reachableBy_hookedMachine : ReachableBy Admitted hookedMachine := by
  obtain ⟨imageHandle, gPciBusDriverBinding, reached⟩ := reachableBy_locatedMachine first
  exact ⟨imageHandle, gPciBusDriverBinding,
    reached.step ⟨cooperative, 0, _, efiSuccess, second, rfl⟩⟩

include first second third in
theorem reachableBy_startedMachine : ReachableBy Admitted startedMachine := by
  obtain ⟨imageHandle, gPciBusDriverBinding, reached⟩ := reachableBy_hookedMachine first second
  exact ⟨imageHandle, gPciBusDriverBinding,
    reached.step ⟨cooperative, 0, _, efiSuccess, third, rfl⟩⟩

end Reachable

end Thundermod.Shim
