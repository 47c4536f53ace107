import Thundermod.Shim.Opening
import Thundermod.Shim.Teardown

/-!
# Locating the base driver

The lookup of the base driver's binding protocol returns what an earlier call has
cached, and not what it has just located.  What a call does therefore depends on the
calls before it, but only until one of them has found the published binding.
-/

namespace Thundermod.Shim

open Control

/-! ## What calls do to the cached pointer -/

/--
However a function ends, it has not read through a NULL base binding, and it has left
the pointers to the bindings alone.
-/
def KeepsBindings (m : Machine) : Except Fault Returned → Prop
  | .error fault => fault ≠ .nullDriverBinding
  | .ok r => r.machine.toDriverBindings = m.toDriverBindings

/-- The same for one pass of a loop. -/
def PassKeepsBindings (m : Machine) : Outcome Fault Returned Returned → Prop :=
  Outcome.Ends (· ≠ .nullDriverBinding) (fun r => r.machine.toDriverBindings = m.toDriverBindings)
    (fun r => r.machine.toDriverBindings = m.toDriverBindings)

theorem PassKeepsBindings.congr {before m : Machine} {pass : Outcome Fault Returned Returned}
    (keeps : PassKeepsBindings m pass) (same : m.toDriverBindings = before.toDriverBindings) :
    PassKeepsBindings before pass := by
  unfold PassKeepsBindings
  rw [← same]
  exact keeps

theorem KeepsBindings.congr {before m : Machine} {result : Except Fault Returned}
    (keeps : KeepsBindings m result) (same : m.toDriverBindings = before.toDriverBindings) :
    KeepsBindings before result := by
  cases result with
  | error _ => exact keeps
  | ok r => exact Eq.trans keeps same

/-- A loop keeps the bindings if its passes do. -/
theorem forEach_keepsBindings {body : Addr → Returned → Outcome Fault Returned Returned}
    (pass : ∀ item state, PassKeepsBindings state.machine (body item state)) (items : List Addr)
    (state : Returned) : PassKeepsBindings state.machine (forEach body items state) := by
  refine forEach_ends (fun _ (r : Returned) =>
    r.machine.toDriverBindings = state.machine.toDriverBindings) ?_ items state rfl
  intro item _ before same
  rw [← same]
  exact pass item before

section Passes

variable (platform : Platform) (this : DriverBinding) (controller : EfiHandle) (entry : Addr)
  (state : Returned)

theorem openResourceAllocation_keepsBindings (binding : DriverBinding)
    (mapping : RootBridgeIoProtocolMapping) (original : HostRootBridgeIo) (m : Machine) :
    PassKeepsBindings m (openResourceAllocation platform binding mapping original m) := by
  unfold openResourceAllocation
  dsimp only
  split
  · cases mapping.parent with
    | none => exact Fault.noConfusion
    | some parent => exact Machine.toDriverBindings_touch ..
  · rfl

theorem openMapping_keepsBindings :
    PassKeepsBindings state.machine (openMapping platform entry state) := by
  have touched := Machine.toDriverBindings_touch entry state.machine
  unfold openMapping
  dsimp only
  split
  · exact touched
  · split
    · exact Fault.noConfusion
    · next binding _ =>
        unfold openOriginals
        dsimp only
        split
        · exact (openResourceAllocation_keepsBindings platform binding ..).congr touched
        · exact touched

theorem dumpDevice_keepsBindings (device : EfiHandle) :
    PassKeepsBindings state.machine (dumpDevice platform this controller device state) := by
  unfold dumpDevice
  dsimp only
  split
  · rfl
  · split
    · rfl
    · split <;> rfl

theorem uninstallSubstitutes_keepsBindings (m : Machine) :
    PassKeepsBindings m (uninstallSubstitutes platform controller entry m) := by
  unfold uninstallSubstitutes uninstallResourceAllocationProtocol
    uninstallRootBridgeIoProtocolProtocol
  dsimp only
  split
  · split
    all_goals
      unfold PassKeepsBindings Outcome.Ends
      simp
  · unfold PassKeepsBindings Outcome.Ends
    simp

theorem cleanupMapping_keepsBindings :
    PassKeepsBindings state.machine (cleanupMapping platform this controller entry state) := by
  unfold cleanupMapping
  dsimp only
  split
  · split
    · exact Fault.noConfusion
    · split
      · exact (uninstallSubstitutes_keepsBindings platform controller entry _).congr
          (Machine.toDriverBindings_touch ..)
      · exact Machine.toDriverBindings_touch ..
  · rfl

end Passes

section Calls

variable {platform : Platform} {indeterminate : EfiStatus} {this binding : DriverBinding}
  {controller : EfiHandle} {remainingDevicePath : Pointer} {m : Machine}

theorem openBaseProtocols_keepsBindings (platform : Platform) (indeterminate : EfiStatus)
    (m : Machine) : KeepsBindings m (openBaseProtocols platform indeterminate m) := by
  have loop := forEach_keepsBindings (openMapping_keepsBindings platform)
    m.rootBridgeIoProtocolList ⟨indeterminate, m⟩
  unfold openBaseProtocols
  split
  all_goals
    next outcome =>
      rw [outcome] at loop
      exact loop

theorem cleanupDriver_keepsBindings (platform : Platform) (indeterminate : EfiStatus)
    (this : DriverBinding) (controller : EfiHandle) (m : Machine) :
    KeepsBindings m (cleanupDriver platform indeterminate this controller m) := by
  have loop := forEach_keepsBindings (cleanupMapping_keepsBindings platform this controller)
    m.rootBridgeIoProtocolList ⟨indeterminate, m⟩
  unfold cleanupDriver
  split
  all_goals
    next outcome =>
      rw [outcome] at loop
      exact loop

theorem dumpInstalledDevices_keepsBindings (platform : Platform) (this : DriverBinding)
    (controller : EfiHandle) (m : Machine) :
    KeepsBindings m (dumpInstalledDevices platform this controller m) := by
  have loop := forEach_keepsBindings
    (fun device state => dumpDevice_keepsBindings platform this controller state device)
    (platform.locateHandleBuffer m).2
    ⟨(platform.locateHandleBuffer m).1, m.record (.enumerated (platform.locateHandleBuffer m).1)⟩
  unfold dumpInstalledDevices
  dsimp only
  split
  · rfl
  · split
    all_goals
      next outcome =>
        rw [outcome] at loop
        exact loop

theorem hookController_keepsBindings (cached : m.gDriverBindingSubstituteProtocol = some binding) :
    KeepsBindings m (hookController platform this controller remainingDevicePath m) := by
  refine hookController_rule (KeepsBindings m) cached Fault.noConfusion (fun _ _ => rfl) ?_ ?_
  · exact fun entry _ _ => toDriverBindings_uninstallAndFree ..
  · exact fun entry _ _ =>
      listMapping_rule (KeepsBindings m) Fault.noConfusion (fun _ _ => rfl) fun _ _ _ => rfl

theorem supported_keepsBindings (cached : m.gDriverBindingSubstituteProtocol = some binding) :
    KeepsBindings m
      (pciBusDriverBindingSupported platform this controller remainingDevicePath m) := by
  have same : (probed platform this controller m).toDriverBindings = m.toDriverBindings :=
    toDriverBindings_probed
  refine supported_rule (KeepsBindings m) cached (fun _ => rfl) ?_ ?_
  · exact same
  · exact (hookController_keepsBindings (cached_probed cached)).congr same

theorem start_keepsBindings (cached : m.gDriverBindingSubstituteProtocol = some binding) :
    KeepsBindings m
      (pciBusDriverBindingStart platform indeterminate this controller remainingDevicePath m) := by
  have opening := openBaseProtocols_keepsBindings platform indeterminate m
  simp only [pciBusDriverBindingStart, findDriverBindingProtocol_of_cached cached]
  split
  · next outcome =>
      rw [outcome] at opening
      exact opening
  · next opened outcome =>
      rw [outcome] at opening
      split
      · have dump := dumpInstalledDevices_keepsBindings platform this controller
          (opened.machine.record (.started controller
            (platform.startStatus opened.machine binding binding controller remainingDevicePath)))
        split
        all_goals
          next outcome' =>
            rw [outcome'] at dump
            exact dump.congr opening
      · exact opening

theorem stop_keepsBindings {numberOfChildren : Nat} {childHandleBuffer : List EfiHandle}
    (cached : m.gDriverBindingSubstituteProtocol = some binding) :
    KeepsBindings m (pciBusDriverBindingStop platform indeterminate this controller
      numberOfChildren childHandleBuffer m) := by
  simp only [pciBusDriverBindingStop, findDriverBindingProtocol_of_cached cached]
  split
  · exact cleanupDriver_keepsBindings platform indeterminate this controller _
  · rfl

/-- Once the pointer is cached, no call reads through NULL or changes it. -/
theorem call_keepsBindings (platform : Platform) (indeterminate : EfiStatus) (call : Call)
    (cached : m.gDriverBindingSubstituteProtocol = some binding) :
    KeepsBindings m (call.run platform indeterminate m) := by
  cases call with
  | supported this controller remainingDevicePath => exact supported_keepsBindings cached
  | start this controller remainingDevicePath => exact start_keepsBindings cached
  | stop this controller numberOfChildren childHandleBuffer => exact stop_keepsBindings cached

/-- A call that returns leaves the bindings as its lookup has left them. -/
theorem toDriverBindings_of_run {call : Call} {r : Returned}
    (run : call.run platform indeterminate m = .ok r) :
    r.machine.toDriverBindings = (findDriverBindingProtocol platform m).2.toDriverBindings := by
  cases cached : m.gDriverBindingSubstituteProtocol with
  | some binding =>
      have keeps := call_keepsBindings platform indeterminate call cached
      rw [run] at keeps
      rw [findDriverBindingProtocol_of_cached cached]
      exact keeps
  | none =>
      have missing : (findDriverBindingProtocol platform m).1 = none := by
        simp only [findDriverBindingProtocol, cached]
      cases call with
      | supported this controller remainingDevicePath =>
          rw [Call.run, supported_of_unlocated cached] at run
          cases run
          rfl
      | start this controller remainingDevicePath =>
          obtain ⟨opened, opening, ⟨_, rfl⟩ | ⟨_, original, _, _, found, _⟩⟩ := start_cases run
          · have keeps := openBaseProtocols_keepsBindings platform indeterminate
              (findDriverBindingProtocol platform m).2
            rw [opening] at keeps
            exact keeps
          · rw [missing] at found
            cases found
      | stop this controller numberOfChildren childHandleBuffer =>
          obtain ⟨binding, _, cached', _⟩ := stop_cases run
          rw [cached] at cached'
          cases cached'

end Calls

/-! ## Runs -/

/-- All that `LocateProtocol` ever yields is the binding that the base driver publishes. -/
def Offers (published : DriverBinding) (platform : Platform) (_ : Call) (_ : Machine) : Prop :=
  ∀ m, platform.locateProtocol m = none ∨ platform.locateProtocol m = some published

section Runs

variable {published : DriverBinding} {platform : Platform} {indeterminate : EfiStatus}
  {call : Call} {m : Machine} {r : Returned}

/-- The pointer stays cached. -/
theorem cached_of_run {binding : DriverBinding}
    (cached : m.gDriverBindingSubstituteProtocol = some binding)
    (run : call.run platform indeterminate m = .ok r) :
    r.machine.gDriverBindingSubstituteProtocol = some binding := by
  have same := toDriverBindings_of_run run
  rw [findDriverBindingProtocol_of_cached cached] at same
  rw [← cached]
  exact congrArg DriverBindings.gDriverBindingSubstituteProtocol same

/-- A call that finds nothing cached caches what there is. -/
theorem located_of_run (uncached : m.gDriverBindingSubstituteProtocol = none)
    (run : call.run platform indeterminate m = .ok r) :
    r.machine.gDriverBindingSubstituteProtocol = platform.locateProtocol m := by
  have same := toDriverBindings_of_run run
  simp only [findDriverBindingProtocol, uncached] at same
  exact congrArg DriverBindings.gDriverBindingSubstituteProtocol same

/-- Nothing else than the published binding is ever cached. -/
theorem cached_of_reachable (reached : ReachableBy (Offers published) m) :
    m.gDriverBindingSubstituteProtocol = none ∨
      m.gDriverBindingSubstituteProtocol = some published := by
  refine reached.invariant (fun m => m.gDriverBindingSubstituteProtocol = none ∨
    m.gDriverBindingSubstituteProtocol = some published) (fun _ _ => Or.inl rfl) ?_
  intro platform indeterminate call before r holds offers run
  rcases holds with uncached | cached
  · rw [located_of_run uncached run]
    exact offers before
  · exact Or.inr (cached_of_run cached run)

/-- A call of the run was made after the base driver had published its binding. -/
structure CalledSince (published : DriverBinding) (before m : Machine) : Prop where
  reached : ReachableBy (Offers published) before
  call : ∃ platform indeterminate call r, Offers published platform call before ∧
    platform.locateProtocol before = some published ∧
    call.run platform indeterminate before = .ok r ∧
    Reachable (Step (Offers published)) r.machine m

/-- The pointer is cached as soon as one call has been made since the publication. -/
theorem cached_iff_calledSince (reached : ReachableBy (Offers published) m) :
    m.gDriverBindingSubstituteProtocol ≠ none ↔ ∃ before, CalledSince published before m := by
  constructor
  · obtain ⟨imageHandle, gPciBusDriverBinding, run⟩ := reached
    induction run with
    | refl => exact fun cached => absurd rfl cached
    | @tail before after path last ih =>
        intro cached
        have reached : ReachableBy (Offers published) before :=
          ⟨imageHandle, gPciBusDriverBinding, path⟩
        obtain ⟨platform, indeterminate, call, status, offers, run⟩ := last
        cases earlier : before.gDriverBindingSubstituteProtocol with
        | none =>
            rw [located_of_run earlier run] at cached
            have located := (offers before).resolve_left cached
            exact ⟨before, reached, platform, indeterminate, call, _, offers, located, run,
              Reachable.start ..⟩
        | some binding =>
            obtain ⟨first, since⟩ := ih (by rw [earlier]; exact Option.some_ne_none binding)
            obtain ⟨platform', indeterminate', call', r, offers', located, run', others⟩ :=
              since.call
            exact ⟨first, since.reached, platform', indeterminate', call', r, offers', located,
              run', others.step ⟨platform, indeterminate, call, status, offers, run⟩⟩
  · rintro ⟨before, reached, platform, indeterminate, call, r, _, located, run, others⟩
    have cached : r.machine.gDriverBindingSubstituteProtocol = some published := by
      rcases cached_of_reachable reached with uncached | cached
      · rw [located_of_run uncached run, located]
      · exact cached_of_run cached run
    have still := others.invariant
      (fun m => m.gDriverBindingSubstituteProtocol = some published) cached ?_
    · rw [still]
      exact Option.some_ne_none published
    · rintro _ _ holds ⟨_, _, _, _, _, run⟩
      exact cached_of_run holds run

end Runs

/-! ## States that differ in their lookups -/

def Event.isLookup : Event → Bool
  | .located => true
  | _ => false

/-- The machines agree on everything but the cached pointer and the lookups made so far. -/
structure SameButLookups (m m' : Machine) : Prop where
  toRegistry : m.toRegistry = m'.toRegistry
  toHandleDatabase : m.toHandleDatabase = m'.toHandleDatabase
  gPciBusDriverBinding : m.gPciBusDriverBinding = m'.gPciBusDriverBinding
  log : m.log.filter (! ·.isLookup) = m'.log.filter (! ·.isLookup)

/-- The machine as if the binding had been located before the run. -/
def Machine.settled (binding : DriverBinding) (m : Machine) : Machine :=
  { m with
    gDriverBindingSubstituteProtocol := some binding
    log := m.log.filter (! ·.isLookup) }

def Returned.settled (binding : DriverBinding) (r : Returned) : Returned where
  status := r.status
  machine := r.machine.settled binding

theorem settled_eq_iff {binding : DriverBinding} {m m' : Machine} :
    m.settled binding = m'.settled binding ↔ SameButLookups m m' := by
  constructor
  · intro same
    have toRegistry := congrArg Machine.toRegistry same
    have toHandleDatabase := congrArg Machine.toHandleDatabase same
    have gPciBusDriverBinding := congrArg (·.gPciBusDriverBinding) same
    have log := congrArg Machine.log same
    exact ⟨toRegistry, toHandleDatabase, gPciBusDriverBinding, log⟩
  · rintro ⟨toRegistry, toHandleDatabase, gPciBusDriverBinding, log⟩
    unfold Machine.settled
    rw [toRegistry, toHandleDatabase, gPciBusDriverBinding, log]

theorem sameButLookups_settled (binding : DriverBinding) (m : Machine) :
    SameButLookups (m.settled binding) m where
  toRegistry := rfl
  toHandleDatabase := rfl
  gPciBusDriverBinding := rfl
  log := by simp [Machine.settled]

/-- The boot services and the base driver do not see the shim's cached pointer. -/
structure IgnoresLookups (platform : Platform) : Prop where
  allocation : ∀ m m', SameButLookups m m' →
    (platform.allocation m).map Subtype.val = (platform.allocation m').map Subtype.val
  openStatus : ∀ m m', SameButLookups m m' → platform.openStatus m = platform.openStatus m'
  closeStatus : ∀ m m', SameButLookups m m' → platform.closeStatus m = platform.closeStatus m'
  installStatus : ∀ m m', SameButLookups m m' →
    platform.installStatus m = platform.installStatus m'
  newHandle : ∀ m m', SameButLookups m m' → platform.newHandle m = platform.newHandle m'
  uninstallStatus : ∀ m m', SameButLookups m m' →
    platform.uninstallStatus m = platform.uninstallStatus m'
  supportedStatus : ∀ m m', SameButLookups m m' →
    platform.supportedStatus m = platform.supportedStatus m'

section Settled

variable {platform : Platform} {this binding : DriverBinding} {controller : EfiHandle}
  {remainingDevicePath : Pointer} {m : Machine}

theorem record_settled {event : Event} (shown : event.isLookup = false) :
    (m.settled binding).record event = (m.record event).settled binding := by
  simp only [Machine.record, Machine.settled, List.filter_cons, shown, Bool.not_false, if_true]

@[simp] theorem live_settled : (m.settled binding).live = m.live := rfl

theorem touch_settled (block : Addr) :
    (m.settled binding).touch block = (m.touch block).settled binding := by
  by_cases member : block ∈ m.live
  · simp only [Machine.touch, live_settled, member, if_true]
  · simp only [Machine.touch, live_settled, member, if_false]
    exact record_settled rfl

theorem freePool_settled (block : Option Addr) :
    (m.settled binding).freePool block = (m.freePool block).settled binding := by
  cases block with
  | none => rfl
  | some block =>
      by_cases member : block ∈ m.live
      · simp only [Machine.freePool, live_settled, member, if_true]
        rfl
      · simp only [Machine.freePool, live_settled, member, if_false]
        exact record_settled rfl

theorem isProtocolsMapped_settled (protocol : DriverBinding) :
    isProtocolsMapped protocol (m.settled binding) =
      ((isProtocolsMapped protocol m).1, (isProtocolsMapped protocol m).2.settled binding) := by
  have searched := search_commutes (Machine.settled binding) (fun block _ => touch_settled block)
    (fun entry => (m.mapping entry).bindingProtocol = some protocol) m.rootBridgeIoProtocolList m
  unfold isProtocolsMapped
  exact congrArg (fun found => (found.2.isSome, found.1)) searched

variable (ignores : IgnoresLookups platform)
include ignores

theorem openProtocol_settled (request : OpenRecord) :
    (m.settled binding).openProtocol platform request =
      (m.openProtocol platform request).settled binding := by
  simp only [Machine.openProtocol, ignores.openStatus _ _ (sameButLookups_settled binding m)]
  rfl

theorem closeProtocol_settled (key : OpenKey) :
    (m.settled binding).closeProtocol platform key =
      (m.closeProtocol platform key).settled binding := by
  simp only [Machine.closeProtocol, ignores.closeStatus _ _ (sameButLookups_settled binding m)]
  rfl

theorem installMultipleProtocolInterfaces_settled (handle : Option EfiHandle)
    (interface : Interface) :
    (m.settled binding).installMultipleProtocolInterfaces platform handle interface =
      ((m.installMultipleProtocolInterfaces platform handle interface).1.settled binding,
        (m.installMultipleProtocolInterfaces platform handle interface).2) := by
  have same := sameButLookups_settled binding m
  simp only [Machine.installMultipleProtocolInterfaces, ignores.installStatus _ _ same,
    ignores.newHandle _ _ same]
  rfl

theorem uninstallAndFree_settled (handle : Option EfiHandle) (interface : Interface)
    (block : Option Addr) :
    uninstallAndFree platform handle interface block (m.settled binding) =
      (uninstallAndFree platform handle interface block m).settled binding := by
  have uninstalled : (m.settled binding).uninstallMultipleProtocolInterfaces platform handle
      interface = (m.uninstallMultipleProtocolInterfaces platform handle interface).settled
        binding := by
    simp only [Machine.uninstallMultipleProtocolInterfaces,
      ignores.uninstallStatus _ _ (sameButLookups_settled binding m)]
    rfl
  simp only [uninstallAndFree, uninstalled, Returned.settled, freePool_settled]
  congr 1
  split <;> rfl

theorem baseSupported_settled (base : DriverBinding) :
    baseSupported platform base controller remainingDevicePath (m.settled binding) =
      (baseSupported platform base controller remainingDevicePath m).settled binding := by
  simp only [baseSupported, ignores.supportedStatus _ _ (sameButLookups_settled binding m)]
  rfl

theorem installNewMapping_settled (block : Addr) :
    installNewMapping platform this controller block (m.settled binding) =
      (installNewMapping platform this controller block m).settled binding := by
  have new : (m.settled binding).withNewMapping this controller block =
      (m.withNewMapping this controller block).settled binding := rfl
  simp only [installNewMapping, new, installMultipleProtocolInterfaces_settled ignores]
  rfl

theorem installNewResourceAllocation_settled (entry block : Addr) :
    installNewResourceAllocation platform entry block (m.settled binding) =
      (installNewResourceAllocation platform entry block m).settled binding := by
  have new : (m.settled binding).withNewResourceAllocation block =
      (m.withNewResourceAllocation block).settled binding := rfl
  simp only [installNewResourceAllocation, new, installMultipleProtocolInterfaces_settled ignores]
  rfl

theorem allocation_settled (m : Machine) (binding : DriverBinding) :
    platform.allocation (m.settled binding) = platform.allocation m :=
  Option.map_injective Subtype.val_injective
    (ignores.allocation _ _ (sameButLookups_settled binding m))

theorem listMapping_settled (entry : Addr) (tested : Returned) :
    listMapping platform entry (tested.settled binding) =
      (listMapping platform entry tested).map (Returned.settled binding) := by
  have same := allocation_settled ignores tested.machine binding
  cases allocated : platform.allocation tested.machine with
  | none =>
      have allocated' : platform.allocation (tested.settled binding).machine = none :=
        same.trans allocated
      rw [listMapping_of_exhausted allocated, listMapping_of_exhausted allocated']
      rfl
  | some parent =>
      have allocated' : platform.allocation (tested.settled binding).machine = some parent :=
        same.trans allocated
      have install : installNewResourceAllocation platform entry parent.1
          (tested.settled binding).machine =
            (installNewResourceAllocation platform entry parent.1 tested.machine).settled binding :=
        installNewResourceAllocation_settled ignores entry parent.1
      rw [listMapping_of_allocated allocated, listMapping_of_allocated allocated']
      dsimp only
      rw [install, apply_ite (Except.map (Returned.settled binding))]
      rfl

theorem hookController_settled (cached : m.gDriverBindingSubstituteProtocol = some binding) :
    hookController platform this controller remainingDevicePath (m.settled binding) =
      (hookController platform this controller remainingDevicePath m).map
        (Returned.settled binding) := by
  have same := allocation_settled ignores m binding
  cases allocated : platform.allocation m with
  | none =>
      have allocated' : platform.allocation (m.settled binding) = none := same.trans allocated
      rw [hookController_of_exhausted allocated, hookController_of_exhausted allocated']
      rfl
  | some entry =>
      have allocated' : platform.allocation (m.settled binding) = some entry :=
        same.trans allocated
      have install : installNewMapping platform this controller entry.1 (m.settled binding) =
          (installNewMapping platform this controller entry.1 m).settled binding :=
        installNewMapping_settled ignores entry.1
      have status : (installNewMapping platform this controller entry.1 (m.settled binding)).status =
          (installNewMapping platform this controller entry.1 m).status := by
        rw [install]
        rfl
      by_cases installed : (installNewMapping platform this controller entry.1 m).status =
          efiSuccess
      · have installed' := status.trans installed
        rw [hookController_of_allocated cached allocated installed,
          hookController_of_allocated rfl allocated' installed']
        dsimp only
        rw [install, Returned.settled, baseSupported_settled ignores, listMapping_settled ignores,
          apply_ite (Except.map (Returned.settled binding))]
        refine if_congr Iff.rfl rfl (congrArg Except.ok ?_)
        exact congrArg (fun uninstall : Returned => (⟨_, uninstall.machine⟩ : Returned))
          (uninstallAndFree_settled ignores (some controller) (.rootBridgeIo entry.1) (some entry.1))
      · have failed' := mt status.symm.trans installed
        rw [hookController_of_refused allocated installed,
          hookController_of_refused allocated' failed', install]
        rfl

theorem supportProbed_settled (cached : m.gDriverBindingSubstituteProtocol = some binding) :
    supportProbed platform this controller remainingDevicePath (m.settled binding) =
      (supportProbed platform this controller remainingDevicePath m).map
        (Returned.settled binding) := by
  let close := m.closeProtocol platform (rootBridgeIoProbe this.driverBindingHandle controller).key
  have cached' : (isProtocolsMapped this close.machine).2.gDriverBindingSubstituteProtocol =
      some binding := by
    rw [← cached]
    exact congrArg DriverBindings.gDriverBindingSubstituteProtocol
      (toDriverBindings_isProtocolsMapped this close.machine)
  simp only [supportProbed, closeProtocol_settled ignores, Returned.settled,
    isProtocolsMapped_settled]
  rw [apply_ite (Except.map (Returned.settled binding)), callSupported_of_cached cached',
    callSupported_of_cached rfl, baseSupported_settled ignores,
    hookController_settled ignores cached']
  rfl

/-- Once the pointer is cached, the lookups made before do not change what `Supported` does. -/
theorem supported_settled (cached : m.gDriverBindingSubstituteProtocol = some binding) :
    pciBusDriverBindingSupported platform this controller remainingDevicePath
        (m.settled binding) =
      (pciBusDriverBindingSupported platform this controller remainingDevicePath m).map
        (Returned.settled binding) := by
  let probe := m.openProtocol platform (rootBridgeIoProbe this.driverBindingHandle controller)
  have cached' : probe.machine.gDriverBindingSubstituteProtocol = some binding := cached
  have found : findDriverBindingProtocol platform (m.settled binding) =
      (some binding, m.settled binding) := findDriverBindingProtocol_of_cached rfl
  simp only [pciBusDriverBindingSupported, findDriverBindingProtocol_of_cached cached, found,
    Option.some_ne_none, if_false, openProtocol_settled ignores]
  rw [apply_ite (Except.map (Returned.settled binding)),
    apply_ite (Except.map (Returned.settled binding)), ← supportProbed_settled ignores cached']
  rfl

end Settled

/-! ## History -/

/-- Both calls fault alike, or they return the same status in machines that agree. -/
def SameAnswer : Except Fault Returned → Except Fault Returned → Prop
  | .error fault, .error fault' => fault = fault'
  | .ok r, .ok r' => r.status = r'.status ∧ SameButLookups r.machine r'.machine
  | _, _ => False

theorem sameAnswer_of_settled {binding : DriverBinding} {result result' : Except Fault Returned}
    (same : result.map (Returned.settled binding) = result'.map (Returned.settled binding)) :
    SameAnswer result result' := by
  cases result with
  | error fault =>
      cases result' with
      | error fault' => exact Except.error.inj same
      | ok r' => cases same
  | ok r =>
      cases result' with
      | error fault' => cases same
      | ok r' =>
          have status := congrArg Returned.status (Except.ok.inj same)
          have machine := congrArg Returned.machine (Except.ok.inj same)
          exact ⟨status, settled_eq_iff.mp machine⟩

/-- In this state a call finds the published binding, and no call reads through NULL. -/
structure FindsBinding (platform : Platform) (published : DriverBinding) (m : Machine) : Prop where
  found : (findDriverBindingProtocol platform m).1 = some published
  started : ∀ indeterminate this controller remainingDevicePath,
    pciBusDriverBindingStart platform indeterminate this controller remainingDevicePath m ≠
      .error .nullDriverBinding
  stopped : ∀ indeterminate this controller numberOfChildren childHandleBuffer,
    pciBusDriverBindingStop platform indeterminate this controller numberOfChildren
      childHandleBuffer m ≠ .error .nullDriverBinding

/-- What two states with different lookups behind them have in common. -/
structure HistoryIndependent (platform : Platform) (published : DriverBinding) (m m' : Machine) :
    Prop where
  finds : FindsBinding platform published m
  finds' : FindsBinding platform published m'
  supported : ∀ this controller remainingDevicePath,
    SameAnswer (pciBusDriverBindingSupported platform this controller remainingDevicePath m)
      (pciBusDriverBindingSupported platform this controller remainingDevicePath m')

theorem KeepsBindings.not_null {m : Machine} {result : Except Fault Returned}
    (keeps : KeepsBindings m result) : result ≠ .error .nullDriverBinding := by
  rintro rfl
  exact keeps rfl

theorem findsBinding_of_cached {platform : Platform} {published : DriverBinding} {m : Machine}
    (cached : m.gDriverBindingSubstituteProtocol = some published) :
    FindsBinding platform published m where
  found := congrArg Prod.fst (findDriverBindingProtocol_of_cached cached)
  started := fun _ _ _ _ => (start_keepsBindings cached).not_null
  stopped := fun _ _ _ _ _ => (stop_keepsBindings cached).not_null

/-- The lookup returns nothing but what is cached. -/
theorem FindsBinding.cached {platform : Platform} {published : DriverBinding} {m : Machine}
    (finds : FindsBinding platform published m) : m.gDriverBindingSubstituteProtocol ≠ none := by
  intro uncached
  have found := finds.found
  simp only [findDriverBindingProtocol, uncached] at found
  cases found

/--
What a call does is independent of the lookups before it exactly if the published
binding has been cached before the call.
-/
theorem history_independent_iff (platform : Platform) (published : DriverBinding) (m m' : Machine)
    (reached : ReachableBy (Offers published) m) (reached' : ReachableBy (Offers published) m')
    (same : SameButLookups m m') (ignores : IgnoresLookups platform) :
    HistoryIndependent platform published m m' ↔
      m.gDriverBindingSubstituteProtocol ≠ none ∧ m'.gDriverBindingSubstituteProtocol ≠ none := by
  constructor
  · exact fun independent => ⟨independent.finds.cached, independent.finds'.cached⟩
  · rintro ⟨located, located'⟩
    have cached := (cached_of_reachable reached).resolve_left located
    have cached' := (cached_of_reachable reached').resolve_left located'
    refine ⟨findsBinding_of_cached cached, findsBinding_of_cached cached', ?_⟩
    intro this controller remainingDevicePath
    have agree :
        (pciBusDriverBindingSupported platform this controller remainingDevicePath m).map
            (Returned.settled published) =
          (pciBusDriverBindingSupported platform this controller remainingDevicePath m').map
            (Returned.settled published) := by
      rw [← supported_settled ignores cached, ← supported_settled ignores cached',
        settled_eq_iff.mpr same]
    exact sameAnswer_of_settled agree

theorem ignoresLookups_cooperative : IgnoresLookups cooperative where
  allocation := fun m m' same => by
    change some (freshBlock m.live) = some (freshBlock m'.live)
    rw [same.toRegistry]
  openStatus := fun _ _ _ => rfl
  closeStatus := fun m m' same => by
    funext key
    simp only [cooperative, same.toHandleDatabase]
  installStatus := fun _ _ _ => rfl
  newHandle := fun _ _ _ => rfl
  uninstallStatus := fun _ _ _ => rfl
  supportedStatus := fun m m' same => by
    funext _ _ controller _
    simp only [cooperative, same.toHandleDatabase]

/-- A platform on which the base driver has not published its binding yet. -/
def unpublished : Platform :=
  { cooperative with locateProtocol := fun _ => none }

/-- The shim once a lookup has found nothing. -/
def waitingMachine : Machine :=
  { pciDxeShimMain 1 0x400 with log := [.located] }

/-- The shim once a second lookup has located the base driver. -/
def lateMachine : Machine :=
  afterCall (.supported shimBinding 5 0) waitingMachine

theorem offers_cooperative (call : Call) (m : Machine) : Offers ⟨0x300, 2⟩ cooperative call m :=
  fun _ => Or.inr rfl

theorem offers_unpublished (call : Call) (m : Machine) : Offers ⟨0x300, 2⟩ unpublished call m :=
  fun _ => Or.inl rfl

theorem reachableBy_lateMachine : ReachableBy (Offers ⟨0x300, 2⟩) lateMachine :=
  ⟨1, 0x400, ((Reachable.start ..).step
    ⟨unpublished, 0, .supported shimBinding 5 0, efiNotFound, offers_unpublished _ _, rfl⟩).step
    ⟨cooperative, 0, .supported shimBinding 5 0, efiNotFound, offers_cooperative _ _, rfl⟩⟩

theorem history_independent_late : HistoryIndependent cooperative ⟨0x300, 2⟩ locatedMachine
      lateMachine ↔
    locatedMachine.gDriverBindingSubstituteProtocol ≠ none ∧
      lateMachine.gDriverBindingSubstituteProtocol ≠ none :=
  history_independent_iff cooperative ⟨0x300, 2⟩ locatedMachine lateMachine
    (reachableBy_locatedMachine (offers_cooperative _ _)) reachableBy_lateMachine
    ⟨rfl, rfl, rfl, rfl⟩ ignoresLookups_cooperative

/-- The first call misses the published binding, and the second one does not. -/
theorem first_call_misses_binding :
    ¬ ∀ (platform : Platform) (published : DriverBinding) (m m' : Machine),
      ReachableBy (Offers published) m → ReachableBy (Offers published) m' →
      SameButLookups m m' → IgnoresLookups platform →
      (∀ before, platform.locateProtocol before = some published) →
        HistoryIndependent platform published m m' := by
  intro holds
  have independent := holds cooperative ⟨0x300, 2⟩ (pciDxeShimMain 1 0x400) locatedMachine
    ⟨1, 0x400, Reachable.start ..⟩ (reachableBy_locatedMachine (offers_cooperative _ _))
    ⟨rfl, rfl, rfl, rfl⟩ ignoresLookups_cooperative (fun _ => rfl)
  exact independent.finds.cached rfl

end Thundermod.Shim
