import Mathlib.Data.List.TakeWhile
import Thundermod.Shim.DriverBinding

/-!
# What `Supported` can do

One lemma for each way in which hooking a controller ends, and from these the
inversion lemma that the invariants of whole runs are derived from.
-/

namespace Thundermod.Shim

section Supported

variable {platform : Platform} {this binding : DriverBinding} {controller : EfiHandle}
  {remainingDevicePath : Pointer} {m : Machine} {r : Returned} {entry parent : Addr}

theorem callSupported_of_cached (cached : m.gDriverBindingSubstituteProtocol = some binding) :
    callSupported platform controller remainingDevicePath m =
      .ok (baseSupported platform binding controller remainingDevicePath m) := by
  simp only [callSupported, cached]

/-! ## The probe -/

/-- The machine behind a probe that found the protocol and the lookup of the binding. -/
def probed (platform : Platform) (this : DriverBinding) (controller : EfiHandle) (m : Machine) :
    Machine :=
  let request := rootBridgeIoProbe this.driverBindingHandle controller
  let close := (m.openProtocol platform request).machine.closeProtocol platform request.key
  (isProtocolsMapped this close.machine).2

@[simp] theorem toRegistry_probed :
    (probed platform this controller m).toRegistry = m.toRegistry := by
  simp [probed]

@[simp] theorem toDriverBindings_probed :
    (probed platform this controller m).toDriverBindings = m.toDriverBindings := by
  simp [probed]

@[simp] theorem installed_probed : (probed platform this controller m).installed = m.installed := by
  simp [probed]

theorem cached_probed (cached : m.gDriverBindingSubstituteProtocol = some binding) :
    (probed platform this controller m).gDriverBindingSubstituteProtocol = some binding := by
  rw [toDriverBindings_probed]
  exact cached

/-- The first call only locates the base driver. -/
theorem supported_of_unlocated (unlocated : m.gDriverBindingSubstituteProtocol = none) :
    pciBusDriverBindingSupported platform this controller remainingDevicePath m =
      .ok ⟨efiNotFound, (findDriverBindingProtocol platform m).2⟩ := by
  have missing : (findDriverBindingProtocol platform m).1 = none := by
    simp only [findDriverBindingProtocol, unlocated]
  exact if_pos missing

/-- A probe that fails ends the call. -/
theorem supported_of_probe_failed (remainingDevicePath : Pointer)
    (cached : m.gDriverBindingSubstituteProtocol = some binding)
    (failed : efiError (platform.openStatus m
      (rootBridgeIoProbe this.driverBindingHandle controller)) = true) :
    ∃ status, pciBusDriverBindingSupported platform this controller remainingDevicePath m =
      .ok ⟨status, (m.openProtocol platform
        (rootBridgeIoProbe this.driverBindingHandle controller)).machine⟩ := by
  simp only [pciBusDriverBindingSupported, findDriverBindingProtocol_of_cached cached,
    Machine.status_openProtocol, failed]
  split
  · contradiction
  · split
    · exact ⟨efiSuccess, rfl⟩
    · exact ⟨_, rfl⟩

/-- Behind the probe, `Supported` asks the base driver or hooks the controller first. -/
theorem supported_of_probed (cached : m.gDriverBindingSubstituteProtocol = some binding)
    (opened : efiError (platform.openStatus m
      (rootBridgeIoProbe this.driverBindingHandle controller)) = false) :
    pciBusDriverBindingSupported platform this controller remainingDevicePath m =
      if (isProtocolsMapped this m).1 then
        callSupported platform controller remainingDevicePath (probed platform this controller m)
      else
        hookController platform this controller remainingDevicePath
          (probed platform this controller m) := by
  have same : (isProtocolsMapped this ((m.openProtocol platform
      (rootBridgeIoProbe this.driverBindingHandle controller)).machine.closeProtocol platform
      (rootBridgeIoProbe this.driverBindingHandle controller).key).machine).1 =
      (isProtocolsMapped this m).1 := by
    rw [Bool.eq_iff_iff, isProtocolsMapped_iff, isProtocolsMapped_iff]
    rfl
  have fresh : platform.openStatus m (rootBridgeIoProbe this.driverBindingHandle controller) ≠
      efiAlreadyStarted := by
    intro started
    rw [started, efiError_efiAlreadyStarted] at opened
    cases opened
  simp only [pciBusDriverBindingSupported, findDriverBindingProtocol_of_cached cached,
    Machine.status_openProtocol, opened, if_neg fresh, supportProbed, same, probed]
  rfl

/-! ## Hooking a controller -/

/-- A controller has been hooked: its mapping is complete and the last one of the list. -/
structure Hooked (this : DriverBinding) (controller : EfiHandle) (before after : Machine)
    (entry parent : Addr) : Prop where
  list : after.rootBridgeIoProtocolList =
    before.rootBridgeIoProtocolList.takeWhile (· ≠ entry) ++ [entry]
  live : after.live = parent :: entry :: before.live
  entry_new : entry ∉ before.live
  parent_new : parent ∉ entry :: before.live
  mapping : NewMapping this controller (after.mapping entry)
  mapping_parent : (after.mapping entry).parent = some parent
  link : (after.mapping entry).link = true
  wiped : after.mapping parent = {}
  mapping_other : ∀ other, other ≠ entry → other ≠ parent →
    after.mapping other = before.mapping other
  resourceAllocation :
    after.resourceAllocation parent = { substitutedProtocol := substituteResourceAllocation {} }
  resourceAllocation_other : ∀ other, other ≠ entry → other ≠ parent →
    after.resourceAllocation other = before.resourceAllocation other
  installed : ∃ handle, after.installed = (handle, .resourceAllocation (some parent)) ::
    (controller, .rootBridgeIo entry) :: before.installed
  opens : after.opens = before.opens
  closes : after.closes = before.closes
  toDriverBindings : after.toDriverBindings = before.toDriverBindings

/-- A mapping whose block is not still linked joins the list at its end. -/
theorem Hooked.list_of_unlisted {before after : Machine}
    (hooked : Hooked this controller before after entry parent)
    (unlisted : entry ∉ before.rootBridgeIoProtocolList) :
    after.rootBridgeIoProtocolList = before.rootBridgeIoProtocolList ++ [entry] := by
  rw [hooked.list, List.takeWhile_eq_self_iff.mpr]
  intro other listed
  exact decide_eq_true fun same => unlisted (same ▸ listed)

/-- A hook has been taken back: only the contents of the freed block are new. -/
structure Unhooked (this : DriverBinding) (controller : EfiHandle) (before after : Machine)
    (entry : Addr) : Prop where
  list : after.rootBridgeIoProtocolList = before.rootBridgeIoProtocolList
  live : after.live = before.live
  mapping : NewMapping this controller (after.mapping entry)
  mapping_other : ∀ other, other ≠ entry → after.mapping other = before.mapping other
  installed : after.installed = before.installed

/-- Without memory for a mapping, the hook writes through NULL. -/
theorem hookController_of_exhausted (exhausted : platform.allocation m = none) :
    hookController platform this controller remainingDevicePath m = .error .nullAllocation := by
  simp only [hookController, installRootBridgeIoProtocolProtocol, exhausted]

/-- A first installation that fails ends the hook. -/
theorem hookController_of_refused {block : {block : Addr // block ∉ m.live}}
    (allocated : platform.allocation m = some block)
    (failed : (installNewMapping platform this controller block.1 m).status ≠ efiSuccess) :
    hookController platform this controller remainingDevicePath m =
      .ok (installNewMapping platform this controller block.1 m) := by
  simp only [hookController, installRootBridgeIoProtocolProtocol, allocated, if_neg failed]

theorem hookController_of_allocated {block : {block : Addr // block ∉ m.live}}
    (cached : m.gDriverBindingSubstituteProtocol = some binding)
    (allocated : platform.allocation m = some block)
    (installed : (installNewMapping platform this controller block.1 m).status = efiSuccess) :
    hookController platform this controller remainingDevicePath m =
      let tested := baseSupported platform binding controller remainingDevicePath
        (installNewMapping platform this controller block.1 m).machine
      if tested.status = efiSuccess then listMapping platform block.1 tested
      else .ok { tested with
        machine := (uninstallRootBridgeIoProtocolProtocol platform controller block.1
          tested.machine).machine } := by
  have cached' : (installNewMapping platform this controller block.1
      m).machine.gDriverBindingSubstituteProtocol = some binding := cached
  simp only [hookController, installRootBridgeIoProtocolProtocol, allocated, if_pos installed,
    callSupported_of_cached cached']

/-- Once the base driver has accepted the controller, the mapping is completed and listed. -/
theorem hookController_of_accepted {block : {block : Addr // block ∉ m.live}}
    (cached : m.gDriverBindingSubstituteProtocol = some binding)
    (allocated : platform.allocation m = some block)
    (installed : (installNewMapping platform this controller block.1 m).status = efiSuccess)
    (accepted : (baseSupported platform binding controller remainingDevicePath
      (installNewMapping platform this controller block.1 m).machine).status = efiSuccess) :
    hookController platform this controller remainingDevicePath m =
      listMapping platform block.1 (baseSupported platform binding controller remainingDevicePath
        (installNewMapping platform this controller block.1 m).machine) := by
  rw [hookController_of_allocated cached allocated installed]
  exact if_pos accepted

theorem listMapping_of_exhausted {tested : Returned}
    (exhausted : platform.allocation tested.machine = none) :
    listMapping platform entry tested = .error .nullAllocation := by
  simp only [listMapping, installResourceAllocationProtocol, exhausted]

theorem listMapping_of_allocated {tested : Returned}
    {block : {block : Addr // block ∉ tested.machine.live}}
    (allocated : platform.allocation tested.machine = some block) :
    listMapping platform entry tested =
      let install := installNewResourceAllocation platform entry block.1 tested.machine
      if install.status = efiSuccess then
        .ok ⟨tested.status, install.machine.insertTail entry block.1⟩
      else .ok ⟨tested.status, install.machine⟩ := by
  simp only [listMapping, installResourceAllocationProtocol, allocated]

/-! ## The ways in which a call ends -/

section Rules

variable (ends : Except Fault Returned → Prop)

/-- The rule for the end of a hook. -/
theorem listMapping_rule {tested : Returned} (exhausted : ends (.error .nullAllocation))
    (refused : ∀ parent ∉ tested.machine.live, ends (.ok ⟨tested.status,
      (installNewResourceAllocation platform entry parent tested.machine).machine⟩))
    (listed : ∀ parent ∉ tested.machine.live,
      (installNewResourceAllocation platform entry parent tested.machine).status = efiSuccess →
        ends (.ok ⟨tested.status, (installNewResourceAllocation platform entry parent
          tested.machine).machine.insertTail entry parent⟩)) :
    ends (listMapping platform entry tested) := by
  cases allocated : platform.allocation tested.machine with
  | none =>
      rw [listMapping_of_exhausted allocated]
      exact exhausted
  | some parent =>
      rw [listMapping_of_allocated allocated]
      dsimp only
      split
      · next installed => exact listed parent.1 parent.2 installed
      · exact refused parent.1 parent.2

/-- The rule for a hook, once the pointer to the base driver is cached. -/
theorem hookController_rule (cached : m.gDriverBindingSubstituteProtocol = some binding)
    (exhausted : ends (.error .nullAllocation))
    (refused : ∀ entry ∉ m.live, ends (.ok (installNewMapping platform this controller entry m)))
    (rejected : ∀ entry ∉ m.live, ∀ status, ends (.ok ⟨status,
      (uninstallRootBridgeIoProtocolProtocol platform controller entry
        (baseSupported platform binding controller remainingDevicePath
          (installNewMapping platform this controller entry m).machine).machine).machine⟩))
    (accepted : ∀ entry ∉ m.live,
      (installNewMapping platform this controller entry m).status = efiSuccess →
        ends (listMapping platform entry (baseSupported platform binding controller
          remainingDevicePath (installNewMapping platform this controller entry m).machine))) :
    ends (hookController platform this controller remainingDevicePath m) := by
  cases allocated : platform.allocation m with
  | none =>
      rw [hookController_of_exhausted allocated]
      exact exhausted
  | some entry =>
      by_cases installed : (installNewMapping platform this controller entry.1 m).status =
          efiSuccess
      · rw [hookController_of_allocated cached allocated installed]
        dsimp only
        split
        · exact accepted entry.1 entry.2 installed
        · exact rejected entry.1 entry.2 _
      · rw [hookController_of_refused allocated installed]
        exact refused entry.1 entry.2

/-- The rule for `Supported`, once the pointer to the base driver is cached. -/
theorem supported_rule (cached : m.gDriverBindingSubstituteProtocol = some binding)
    (failed : ∀ status, ends (.ok ⟨status, (m.openProtocol platform
      (rootBridgeIoProbe this.driverBindingHandle controller)).machine⟩))
    (mapped : ends (.ok (baseSupported platform binding controller remainingDevicePath
      (probed platform this controller m))))
    (hooked : ends (hookController platform this controller remainingDevicePath
      (probed platform this controller m))) :
    ends (pciBusDriverBindingSupported platform this controller remainingDevicePath m) := by
  by_cases refused : efiError (platform.openStatus m
      (rootBridgeIoProbe this.driverBindingHandle controller)) = true
  · obtain ⟨status, run⟩ := supported_of_probe_failed remainingDevicePath cached refused
    rw [run]
    exact failed status
  · rw [supported_of_probed cached (Bool.eq_false_iff.mpr refused)]
    split
    · rw [callSupported_of_cached (cached_probed cached)]
      exact mapped
    · exact hooked

end Rules

/-! ## Complete and withdrawn hooks -/

/-- With every step behind it, the controller is hooked. -/
theorem hooked_insertTail {tested : Machine} (entry_new : entry ∉ m.live)
    (parent_new : parent ∉ tested.live)
    (installed : (installNewMapping platform this controller entry m).status = efiSuccess)
    (toRegistry : tested.toRegistry =
      (installNewMapping platform this controller entry m).machine.toRegistry)
    (toHandleDatabase : tested.toHandleDatabase =
      (installNewMapping platform this controller entry m).machine.toHandleDatabase)
    (toDriverBindings : tested.toDriverBindings = m.toDriverBindings)
    (closes : tested.closes = m.closes)
    (installed' : (installNewResourceAllocation platform entry parent tested).status = efiSuccess) :
    Hooked this controller m
      ((installNewResourceAllocation platform entry parent tested).machine.insertTail entry parent)
      entry parent := by
  have fresh : parent ∉ entry :: m.live := by simpa [toRegistry] using parent_new
  have different : entry ≠ parent := fun same => fresh (same ▸ List.mem_cons_self)
  obtain ⟨parentHandle, adopted⟩ :=
    mapping_installNewResourceAllocation platform tested different
  have new : NewMapping this controller ((tested.mapping entry).adopt parentHandle parent) := by
    rw [toRegistry]
    exact (newMapping_installNewMapping platform this controller entry m).adopt parentHandle parent
  rw [← adopted] at new
  constructor
  · simp [toRegistry]
  · simp [toRegistry]
  · exact entry_new
  · exact fresh
  · rw [mapping_insertTail]
    exact ⟨new.bindingProtocol, new.controller, new.originalProtocol, new.isOpen, new.functions⟩
  · rw [mapping_insertTail]
  · rw [mapping_insertTail]
  · rw [mapping_insertTail_of_ne _ _ different.symm]
    exact mapping_installNewResourceAllocation_block platform tested different
  · intro other not_entry not_parent
    rw [mapping_insertTail_of_ne _ _ not_entry,
      mapping_installNewResourceAllocation_of_ne platform tested not_entry not_parent, toRegistry,
      mapping_installNewMapping_of_ne platform this controller m not_entry]
  · exact resourceAllocation_installNewResourceAllocation platform entry parent tested
  · intro other not_entry not_parent
    rw [resourceAllocation_insertTail,
      resourceAllocation_installNewResourceAllocation_of_ne platform entry tested not_parent,
      toRegistry, resourceAllocation_installNewMapping_of_ne platform this controller m not_entry]
  · obtain ⟨handle, both⟩ := installed_installNewResourceAllocation installed'
    refine ⟨handle, both.trans ?_⟩
    rw [toHandleDatabase, installed_installNewMapping installed]
  · simp [toHandleDatabase]
  · simpa using closes
  · simpa using toDriverBindings

/-- Every step of the hook succeeds. -/
theorem hookController_hooked {block : {block : Addr // block ∉ m.live}}
    (cached : m.gDriverBindingSubstituteProtocol = some binding)
    (allocated : platform.allocation m = some block)
    (installed : (installNewMapping platform this controller block.1 m).status = efiSuccess)
    (accepted : (baseSupported platform binding controller remainingDevicePath
      (installNewMapping platform this controller block.1 m).machine).status = efiSuccess)
    {block' : {block' : Addr // block' ∉ (baseSupported platform binding controller
      remainingDevicePath (installNewMapping platform this controller block.1 m).machine).machine.live}}
    (allocated' : platform.allocation (baseSupported platform binding controller remainingDevicePath
      (installNewMapping platform this controller block.1 m).machine).machine = some block')
    (installed' : (installNewResourceAllocation platform block.1 block'.1
      (baseSupported platform binding controller remainingDevicePath
        (installNewMapping platform this controller block.1 m).machine).machine).status =
      efiSuccess) :
    ∃ r, hookController platform this controller remainingDevicePath m = .ok r ∧
      r.status = efiSuccess ∧ Hooked this controller m r.machine block.1 block'.1 := by
  rw [hookController_of_accepted cached allocated installed accepted]
  simp only [listMapping_of_allocated allocated', if_pos installed']
  refine ⟨_, rfl, accepted, ?_⟩
  exact hooked_insertTail block.2 block'.2 installed rfl rfl rfl rfl installed'

/-- The base driver refuses the controller, and the substitute is pulled again. -/
theorem hookController_unhooked {block : {block : Addr // block ∉ m.live}}
    (cached : m.gDriverBindingSubstituteProtocol = some binding)
    (allocated : platform.allocation m = some block)
    (installed : (installNewMapping platform this controller block.1 m).status = efiSuccess)
    (refused : (baseSupported platform binding controller remainingDevicePath
      (installNewMapping platform this controller block.1 m).machine).status ≠ efiSuccess)
    (uninstalled : platform.uninstallStatus (baseSupported platform binding controller
      remainingDevicePath (installNewMapping platform this controller block.1 m).machine).machine
      (some controller) (.rootBridgeIo block.1) = efiSuccess) :
    ∃ r, hookController platform this controller remainingDevicePath m = .ok r ∧
      r.status ≠ efiSuccess ∧ Unhooked this controller m r.machine block.1 := by
  rw [hookController_of_allocated cached allocated installed]
  simp only [if_neg refused, uninstallRootBridgeIoProtocolProtocol]
  refine ⟨_, rfl, refused, ?_⟩
  constructor
  · simp [baseSupported]
  · rw [live_uninstallAndFree uninstalled]
    simp [baseSupported]
  · simpa [baseSupported] using newMapping_installNewMapping platform this controller block.1 m
  · intro other different
    simpa [baseSupported] using
      mapping_installNewMapping_of_ne platform this controller m different
  · rw [installed_uninstallAndFree uninstalled]
    simp only [baseSupported, Machine.toHandleDatabase_record,
      installed_installNewMapping installed, List.erase_cons_head]

/-! ## Inversion -/

theorem extends_installNewMapping (entry_new : entry ∉ m.live) :
    m.toRegistry.Extends (installNewMapping platform this controller entry m).machine.toRegistry where
  list := rfl
  live := fun _ member => List.mem_cons_of_mem _ member
  mapping := fun block member =>
    mapping_installNewMapping_of_ne platform this controller m
      (fun same : block = entry => entry_new (same ▸ member))
  resourceAllocation := fun block member =>
    resourceAllocation_installNewMapping_of_ne platform this controller m
      (fun same : block = entry => entry_new (same ▸ member))

/-- Adopting a parent changes nothing but a mapping that was not live before. -/
theorem extends_installNewResourceAllocation {tested : Machine}
    (before : m.toRegistry.Extends tested.toRegistry) (entry_new : entry ∉ m.live)
    (parent_new : parent ∉ tested.live) :
    m.toRegistry.Extends
      (installNewResourceAllocation platform entry parent tested).machine.toRegistry where
  list := before.list
  live := fun block member => List.mem_cons_of_mem _ (before.live block member)
  mapping := fun block member =>
    (mapping_installNewResourceAllocation_of_ne platform tested
      (fun same : block = entry => entry_new (same ▸ member))
      (fun same : block = parent => parent_new (same ▸ before.live block member))).trans
        (before.mapping block member)
  resourceAllocation := fun block member =>
    (resourceAllocation_installNewResourceAllocation_of_ne platform entry tested
      (fun same : block = parent => parent_new (same ▸ before.live block member))).trans
        (before.resourceAllocation block member)

theorem extends_uninstallAndFree {tested : Machine} {handle : Option EfiHandle}
    {interface : Interface} (before : m.toRegistry.Extends tested.toRegistry)
    (entry_new : entry ∉ m.live) :
    m.toRegistry.Extends
      (uninstallAndFree platform handle interface (some entry) tested).machine.toRegistry where
  list := by rw [rootBridgeIoProtocolList_uninstallAndFree, before.list]
  live := fun block member =>
    mem_live_uninstallAndFree (before.live block member)
      (fun same => entry_new ((Option.some.inj same) ▸ member))
  mapping := fun block member => by rw [mapping_uninstallAndFree, before.mapping block member]
  resourceAllocation := fun block member => by
    rw [resourceAllocation_uninstallAndFree, before.resourceAllocation block member]

/-- What a hook does in any case: it opens and closes nothing, and lists one mapping or none. -/
structure HookEffect (this : DriverBinding) (controller : EfiHandle) (before after : Machine) :
    Prop where
  opens : after.opens = before.opens
  closes : after.closes = before.closes
  registry : before.toRegistry.Extends after.toRegistry ∨
    ∃ entry parent, Hooked this controller before after entry parent

/-- Behind the acceptance by the base driver, the mapping is listed or left behind. -/
theorem listMapping_effect (entry_new : entry ∉ m.live)
    (installed : (installNewMapping platform this controller entry m).status = efiSuccess)
    (run : listMapping platform entry (baseSupported platform binding controller
      remainingDevicePath (installNewMapping platform this controller entry m).machine) = .ok r) :
    HookEffect this controller m r.machine := by
  refine listMapping_rule (fun result => ∀ r, result = .ok r → HookEffect this controller m
    r.machine) ?_ ?_ ?_ r run
  · rintro _ ⟨⟩
  · rintro parent parent_new _ ⟨⟩
    exact ⟨rfl, rfl, Or.inl (extends_installNewResourceAllocation
      (extends_installNewMapping entry_new) entry_new parent_new)⟩
  · rintro parent parent_new installed' _ ⟨⟩
    have hooked := hooked_insertTail entry_new parent_new installed rfl rfl rfl rfl installed'
    exact ⟨hooked.opens, hooked.closes, Or.inr ⟨entry, parent, hooked⟩⟩

/-- Without the pointer to the base driver, a hook gets no further than its first installation. -/
theorem hookController_of_unlocated (unlocated : m.gDriverBindingSubstituteProtocol = none)
    (run : hookController platform this controller remainingDevicePath m = .ok r) :
    ∃ entry ∉ m.live, r = installNewMapping platform this controller entry m := by
  cases allocated : platform.allocation m with
  | none =>
      rw [hookController_of_exhausted allocated] at run
      cases run
  | some entry =>
      by_cases installed : (installNewMapping platform this controller entry.1 m).status =
          efiSuccess
      · have missing : (installNewMapping platform this controller entry.1
            m).machine.gDriverBindingSubstituteProtocol = none := unlocated
        simp only [hookController, installRootBridgeIoProtocolProtocol, allocated,
          if_pos installed, callSupported, missing] at run
        cases run
      · rw [hookController_of_refused allocated installed] at run
        exact ⟨entry.1, entry.2, (Except.ok.inj run).symm⟩

theorem hookController_effect
    (run : hookController platform this controller remainingDevicePath m = .ok r) :
    HookEffect this controller m r.machine := by
  cases cached : m.gDriverBindingSubstituteProtocol with
  | none =>
      obtain ⟨entry, entry_new, rfl⟩ := hookController_of_unlocated cached run
      exact ⟨rfl, rfl, Or.inl (extends_installNewMapping entry_new)⟩
  | some binding =>
      refine hookController_rule (fun result => ∀ r, result = .ok r → HookEffect this controller m
        r.machine) cached ?_ ?_ ?_ ?_ r run
      · rintro _ ⟨⟩
      · rintro entry entry_new _ ⟨⟩
        exact ⟨rfl, rfl, Or.inl (extends_installNewMapping entry_new)⟩
      · rintro entry entry_new status _ ⟨⟩
        refine ⟨?_, ?_, Or.inl (extends_uninstallAndFree
          (extends_installNewMapping entry_new) entry_new)⟩
        · exact opens_uninstallAndFree ..
        · exact closes_uninstallAndFree ..
      · exact fun entry entry_new installed _ listing =>
          listMapping_effect entry_new installed listing

/-- What `Supported` leaves behind the probe. -/
structure SupportProbed (platform : Platform) (this : DriverBinding) (controller : EfiHandle)
    (m : Machine) (r : Returned) : Prop where
  opened :
    efiError (platform.openStatus m (rootBridgeIoProbe this.driverBindingHandle controller)) = false
  effect : HookEffect this controller (probed platform this controller m) r.machine

/-- `Supported` leaves everything as it was unless its probe gets through. -/
theorem supported_cases
    (run : pciBusDriverBindingSupported platform this controller remainingDevicePath m = .ok r) :
    (r.machine.toRegistry = m.toRegistry ∧ r.machine.opens = m.opens ∧
        r.machine.closes = m.closes) ∨
      SupportProbed platform this controller m r := by
  cases cached : m.gDriverBindingSubstituteProtocol with
  | none =>
      rw [supported_of_unlocated cached] at run
      cases run
      exact Or.inl ⟨by simp, by simp, by simp⟩
  | some binding =>
      by_cases failed : efiError (platform.openStatus m
          (rootBridgeIoProbe this.driverBindingHandle controller)) = true
      · obtain ⟨status, run'⟩ := supported_of_probe_failed remainingDevicePath cached failed
        cases run.symm.trans run'
        have unopened : platform.openStatus m
            (rootBridgeIoProbe this.driverBindingHandle controller) ≠ efiSuccess := by
          intro success
          rw [success, efiError_efiSuccess] at failed
          cases failed
        exact Or.inl ⟨rfl, if_neg unopened, rfl⟩
      · have opened := Bool.eq_false_iff.mpr failed
        rw [supported_of_probed cached opened] at run
        refine Or.inr ?_
        split at run
        · rw [callSupported_of_cached (cached_probed cached)] at run
          cases run
          exact ⟨opened, rfl, rfl, Or.inl (Registry.Extends.refl _)⟩
        · exact ⟨opened, hookController_effect run⟩

end Supported

end Thundermod.Shim
