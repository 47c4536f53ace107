import Thundermod.Shim.Hooking

/-!
# Is `Supported` all or nothing?

Only a refusal by the base driver is undone.  A failed allocation is written
through, and a failed installation of either substitute leaves a mapping, or a
mapping and an installed substitute, that nothing refers to.  An allocation that
delivers a freed block which is still linked zeroes its links, and the list with them.
-/

namespace Thundermod.Shim

variable {platform : Platform} {this binding : DriverBinding} {controller : EfiHandle}
  {remainingDevicePath : Pointer} {m : Machine} {r : Returned}

/-- One complete mapping has been added at the end of the list, whose links are all set. -/
structure Appended (this : DriverBinding) (controller : EfiHandle) (before after : Machine)
    (entry parent : Addr) (parentHandle : EfiHandle) : Prop where
  list : after.rootBridgeIoProtocolList = before.rootBridgeIoProtocolList ++ [entry]
  bindingProtocol : (after.mapping entry).bindingProtocol = some this
  mapping_controller : (after.mapping entry).controller = some controller
  mapping_parent : (after.mapping entry).parent = some parent
  rootBridgeIo : (controller, .rootBridgeIo entry) ∈ after.installed
  resourceAllocation : (parentHandle, .resourceAllocation (some parent)) ∈ after.installed
  linked : after.toRegistry.Linked
  others : ∀ other ∈ before.rootBridgeIoProtocolList, after.mapping other = before.mapping other

/-- The linked mappings, the installed substitutes and the live allocations are the same. -/
structure Unchanged (before after : Machine) : Prop where
  list : after.rootBridgeIoProtocolList = before.rootBridgeIoProtocolList
  linked : after.toRegistry.Linked
  mappings : ∀ other ∈ before.rootBridgeIoProtocolList, after.mapping other = before.mapping other
  installed : after.installed = before.installed
  live : after.live = before.live

/-- Either the controller is hooked, or an error is returned and nothing has changed. -/
def AllOrNothing (this : DriverBinding) (controller : EfiHandle) (before : Machine)
    (r : Returned) : Prop :=
  (r.status = efiSuccess ∧ ∃ entry parent parentHandle,
      Appended this controller before r.machine entry parent parentHandle) ∨
    (r.status ≠ efiSuccess ∧ Unchanged before r.machine)

/-- `Supported` returns, without a write through NULL, and is all or nothing. -/
def SupportedAllOrNothing (platform : Platform) (this : DriverBinding) (controller : EfiHandle)
    (remainingDevicePath : Pointer) (m : Machine) : Prop :=
  ∃ r, pciBusDriverBindingSupported platform this controller remainingDevicePath m = .ok r ∧
    AllOrNothing this controller m r

/--
If the base driver accepts the controller, the rest of the hook succeeds, in a block
that is not still linked in the list.
-/
def HookCompletes (platform : Platform) (binding : DriverBinding) (controller : EfiHandle)
    (remainingDevicePath : Pointer) (entry : Addr) (m : Machine) : Prop :=
  let tested := baseSupported platform binding controller remainingDevicePath m
  tested.status = efiSuccess →
    ∃ parent, platform.allocation tested.machine = some parent ∧
      parent.1 ∉ tested.machine.rootBridgeIoProtocolList ∧
      (installNewResourceAllocation platform entry parent.1 tested.machine).status = efiSuccess

/--
The outcomes that leave nothing half done: the first allocation delivers a block
that is not still linked in the list, its substitute can be installed, and if the
base driver then accepts the controller, the second allocation and installation
succeed as well.  The links of the list must not have been lost before.
-/
def HookSettles (platform : Platform) (this binding : DriverBinding) (controller : EfiHandle)
    (remainingDevicePath : Pointer) (m : Machine) : Prop :=
  m.toRegistry.Linked ∧
    ∃ entry, platform.allocation m = some entry ∧ entry.1 ∉ m.rootBridgeIoProtocolList ∧
      let install := installNewMapping platform this controller entry.1 m
      install.status = efiSuccess ∧
        HookCompletes platform binding controller remainingDevicePath entry.1 install.machine

/-- The substitute that a hook has just installed can be uninstalled again. -/
def HookWithdraws (platform : Platform) (this binding : DriverBinding) (controller : EfiHandle)
    (remainingDevicePath : Pointer) (m : Machine) : Prop :=
  ∀ entry, platform.allocation m = some entry →
    let tested := baseSupported platform binding controller remainingDevicePath
      (installNewMapping platform this controller entry.1 m).machine
    platform.uninstallStatus tested.machine (some controller) (.rootBridgeIo entry.1) = efiSuccess

theorem Hooked.appended {before after : Machine} {entry parent : Addr}
    (hooked : Hooked this controller before after entry parent)
    (linked : before.toRegistry.Linked) (unlinked : entry ∉ before.rootBridgeIoProtocolList)
    (unlinked' : parent ∉ before.rootBridgeIoProtocolList) :
    ∃ parentHandle, Appended this controller before after entry parent parentHandle := by
  obtain ⟨parentHandle, installed⟩ := hooked.installed
  have others : ∀ other ∈ before.rootBridgeIoProtocolList,
      after.mapping other = before.mapping other := fun other listed =>
    hooked.mapping_other other (fun same => unlinked (same ▸ listed))
      (fun same => unlinked' (same ▸ listed))
  have list := hooked.list_of_unlisted unlinked
  refine ⟨parentHandle, list, hooked.mapping.bindingProtocol, hooked.mapping.controller,
    hooked.mapping_parent, ?_, ?_, ?_, others⟩
  · simp [installed]
  · simp [installed]
  · intro other listed
    rw [list, List.mem_append, List.mem_singleton] at listed
    rcases listed with older | rfl
    · rw [others other older]
      exact linked other older
    · exact hooked.link

theorem Unhooked.unchanged {before after : Machine} {entry : Addr}
    (unhooked : Unhooked this controller before after entry)
    (linked : before.toRegistry.Linked) (unlinked : entry ∉ before.rootBridgeIoProtocolList) :
    Unchanged before after := by
  have mappings : ∀ other ∈ before.rootBridgeIoProtocolList,
      after.mapping other = before.mapping other := fun other listed =>
    unhooked.mapping_other other fun same => unlinked (same ▸ listed)
  refine ⟨unhooked.list, ?_, mappings, unhooked.installed, unhooked.live⟩
  intro other listed
  rw [unhooked.list] at listed
  rw [mappings other listed]
  exact linked other listed

/-- What is all or nothing leaves all links set, and the mappings that were listed as they were. -/
theorem AllOrNothing.linked {before : Machine} (outcome : AllOrNothing this controller before r) :
    r.machine.toRegistry.Linked ∧ ∀ other ∈ before.rootBridgeIoProtocolList,
      other ∈ r.machine.rootBridgeIoProtocolList ∧
        r.machine.mapping other = before.mapping other := by
  rcases outcome with ⟨_, _, _, _, appended⟩ | ⟨_, unchanged⟩
  · refine ⟨appended.linked, fun other listed => ⟨?_, appended.others other listed⟩⟩
    rw [appended.list]
    exact List.mem_append_left _ listed
  · refine ⟨unchanged.linked, fun other listed => ⟨?_, unchanged.mappings other listed⟩⟩
    rwa [unchanged.list]

/-- A hook that settles ends in one of the two ways. -/
theorem allOrNothing_of_settles (cached : m.gDriverBindingSubstituteProtocol = some binding)
    (withdraws : HookWithdraws platform this binding controller remainingDevicePath m)
    (settles : HookSettles platform this binding controller remainingDevicePath m) :
    ∃ r, hookController platform this controller remainingDevicePath m = .ok r ∧
      AllOrNothing this controller m r := by
  obtain ⟨linked, entry, allocated, unlinked, installed, completes⟩ := settles
  by_cases accepted : (baseSupported platform binding controller remainingDevicePath
      (installNewMapping platform this controller entry.1 m).machine).status = efiSuccess
  · obtain ⟨parent, allocated', unlinked', installed'⟩ := completes accepted
    obtain ⟨r, run, status, hooked⟩ :=
      hookController_hooked cached allocated installed accepted allocated' installed'
    obtain ⟨parentHandle, appended⟩ := hooked.appended linked unlinked unlinked'
    exact ⟨r, run, Or.inl ⟨status, entry.1, parent.1, parentHandle, appended⟩⟩
  · obtain ⟨r, run, status, unhooked⟩ :=
      hookController_unhooked cached allocated installed accepted (withdraws entry allocated)
    exact ⟨r, run, Or.inr ⟨status, unhooked.unchanged linked unlinked⟩⟩

/-- A hook whose first installation fails keeps the block it has allocated. -/
theorem live_of_not_installed {entry : {block : Addr // block ∉ m.live}}
    (allocated : platform.allocation m = some entry)
    (failed : (installNewMapping platform this controller entry.1 m).status ≠ efiSuccess)
    (run : hookController platform this controller remainingDevicePath m = .ok r) :
    r.status ≠ efiSuccess ∧ r.machine.live = entry.1 :: m.live := by
  rw [hookController_of_refused allocated failed] at run
  cases run
  exact ⟨failed, rfl⟩

/-- A hook whose second installation fails returns success and lists nothing. -/
theorem list_of_orphaned {tested : Returned} {entry : Addr}
    {parent : {block : Addr // block ∉ tested.machine.live}}
    (allocated : platform.allocation tested.machine = some parent)
    (failed : (installNewResourceAllocation platform entry parent.1 tested.machine).status ≠
      efiSuccess)
    (run : listMapping platform entry tested = .ok r) :
    r.status = tested.status ∧
      r.machine.rootBridgeIoProtocolList = tested.machine.rootBridgeIoProtocolList := by
  simp only [listMapping_of_allocated allocated, if_neg failed] at run
  cases run
  exact ⟨rfl, rfl⟩

/-- A hook that is all or nothing completes once its substitute is installed. -/
theorem completes_of_allOrNothing {entry : {block : Addr // block ∉ m.live}}
    (cached : m.gDriverBindingSubstituteProtocol = some binding)
    (allocated : platform.allocation m = some entry)
    (installed : (installNewMapping platform this controller entry.1 m).status = efiSuccess)
    (run : hookController platform this controller remainingDevicePath m = .ok r)
    (outcome : AllOrNothing this controller m r) :
    HookCompletes platform binding controller remainingDevicePath entry.1
      (installNewMapping platform this controller entry.1 m).machine := by
  intro accepted
  have listing := run
  rw [hookController_of_accepted cached allocated installed accepted] at listing
  cases allocated' : platform.allocation (baseSupported platform binding controller
      remainingDevicePath (installNewMapping platform this controller entry.1 m).machine).machine
  with
  | none =>
      rw [listMapping_of_exhausted allocated'] at listing
      cases listing
  | some parent =>
      have installed' : (installNewResourceAllocation platform entry.1 parent.1
          (baseSupported platform binding controller remainingDevicePath
            (installNewMapping platform this controller entry.1 m).machine).machine).status =
          efiSuccess := by
        by_contra failed
        obtain ⟨status, list⟩ := list_of_orphaned allocated' failed listing
        rcases outcome with ⟨_, _, _, _, appended⟩ | ⟨failure, _⟩
        · exact List.cons_ne_nil _ _ (List.append_right_eq_self.mp (appended.list.symm.trans list))
        · exact failure (status.trans accepted)
      refine ⟨parent, rfl, ?_, installed'⟩
      -- The block of the parent has lost its link, so it cannot have been on the list.
      intro listed
      obtain ⟨r', run', _, hooked⟩ :=
        hookController_hooked cached allocated installed accepted allocated' installed'
      cases run.symm.trans run'
      have link := outcome.linked.1 parent.1 (outcome.linked.2 parent.1 listed).1
      rw [hooked.wiped] at link
      cases link

/-- A hook that gets through leaves a new mapping in the block it has allocated. -/
theorem newMapping_of_completes {entry : {block : Addr // block ∉ m.live}}
    (cached : m.gDriverBindingSubstituteProtocol = some binding)
    (allocated : platform.allocation m = some entry)
    (installed : (installNewMapping platform this controller entry.1 m).status = efiSuccess)
    (withdraws : HookWithdraws platform this binding controller remainingDevicePath m)
    (completes : HookCompletes platform binding controller remainingDevicePath entry.1
      (installNewMapping platform this controller entry.1 m).machine)
    (run : hookController platform this controller remainingDevicePath m = .ok r) :
    NewMapping this controller (r.machine.mapping entry.1) := by
  by_cases accepted : (baseSupported platform binding controller remainingDevicePath
      (installNewMapping platform this controller entry.1 m).machine).status = efiSuccess
  · obtain ⟨parent, allocated', _, installed'⟩ := completes accepted
    obtain ⟨r', run', _, hooked⟩ :=
      hookController_hooked cached allocated installed accepted allocated' installed'
    cases run.symm.trans run'
    exact hooked.mapping
  · obtain ⟨r', run', _, unhooked⟩ :=
      hookController_unhooked cached allocated installed accepted (withdraws entry allocated)
    cases run.symm.trans run'
    exact unhooked.mapping

/-- The outcomes of a call that is all or nothing are those of a hook that settles. -/
theorem settles_of_allOrNothing (cached : m.gDriverBindingSubstituteProtocol = some binding)
    (unmapped : ∀ entry ∈ m.rootBridgeIoProtocolList,
      (m.mapping entry).bindingProtocol ≠ some this)
    (withdraws : HookWithdraws platform this binding controller remainingDevicePath m)
    (run : hookController platform this controller remainingDevicePath m = .ok r)
    (outcome : AllOrNothing this controller m r) :
    HookSettles platform this binding controller remainingDevicePath m := by
  cases allocated : platform.allocation m with
  | none =>
      rw [hookController_of_exhausted allocated] at run
      cases run
  | some entry =>
      have installed : (installNewMapping platform this controller entry.1 m).status =
          efiSuccess := by
        by_contra failed
        obtain ⟨status, live⟩ := live_of_not_installed allocated failed run
        rcases outcome with ⟨success, _⟩ | ⟨_, unchanged⟩
        · exact status success
        · exact List.cons_ne_self entry.1 m.live (live.symm.trans unchanged.live)
      have completes := completes_of_allOrNothing cached allocated installed run outcome
      obtain ⟨linked, kept⟩ := outcome.linked
      refine ⟨?_, entry, allocated, ?_, installed, completes⟩
      · intro other listed
        obtain ⟨listed', same⟩ := kept other listed
        rw [← same]
        exact linked other listed'
      · -- The new mapping belongs to `this`, so its block cannot have been on the list.
        intro listed
        have new := newMapping_of_completes cached allocated installed withdraws completes run
        exact unmapped entry.1 listed ((kept entry.1 listed).2 ▸ new.bindingProtocol)

/-- The outcome is judged by the registry and the installed substitutes before the call. -/
theorem AllOrNothing.congr {before before' : Machine}
    (outcome : AllOrNothing this controller before r)
    (toRegistry : before'.toRegistry = before.toRegistry)
    (installed : before'.installed = before.installed) :
    AllOrNothing this controller before' r := by
  rcases outcome with ⟨status, entry, parent, parentHandle, appended⟩ | ⟨status, unchanged⟩
  · refine Or.inl ⟨status, entry, parent, parentHandle, ?_, appended.bindingProtocol,
      appended.mapping_controller, appended.mapping_parent, appended.rootBridgeIo,
      appended.resourceAllocation, appended.linked, ?_⟩
    · rw [toRegistry, appended.list]
    · rw [toRegistry]
      exact appended.others
  · refine Or.inr ⟨status, ?_, unchanged.linked, ?_, ?_, ?_⟩
    · rw [toRegistry, unchanged.list]
    · rw [toRegistry]
      exact unchanged.mappings
    · rw [installed, unchanged.installed]
    · rw [toRegistry, unchanged.live]

/--
In every state, reachable or not, a call for an unmapped binding is all or nothing
exactly when the outcomes of its steps settle the hook.
-/
theorem supported_all_or_nothing_iff {platform : Platform} {this binding : DriverBinding}
    {controller : EfiHandle} (remainingDevicePath : Pointer) {m : Machine}
    (cached : m.gDriverBindingSubstituteProtocol = some binding)
    (opened : platform.openStatus m (rootBridgeIoProbe this.driverBindingHandle controller) =
      efiSuccess)
    (unmapped : (isProtocolsMapped this m).1 = false)
    (withdraws : HookWithdraws platform this binding controller remainingDevicePath
      (probed platform this controller m)) :
    SupportedAllOrNothing platform this controller remainingDevicePath m ↔
      HookSettles platform this binding controller remainingDevicePath
        (probed platform this controller m) := by
  have cached' : (probed platform this controller m).gDriverBindingSubstituteProtocol =
      some binding := cached_probed cached
  have unlisted : ∀ entry ∈ (probed platform this controller m).rootBridgeIoProtocolList,
      ((probed platform this controller m).mapping entry).bindingProtocol ≠ some this := by
    intro entry listed mapped
    rw [toRegistry_probed] at listed mapped
    have found := (isProtocolsMapped_iff this m).mpr ⟨entry, listed, mapped⟩
    rw [unmapped] at found
    cases found
  unfold SupportedAllOrNothing
  rw [supported_of_probed cached (by rw [opened, efiError_efiSuccess]), if_neg (by simp [unmapped])]
  constructor
  · rintro ⟨r, run, outcome⟩
    exact settles_of_allOrNothing cached' unlisted withdraws run
      (outcome.congr toRegistry_probed installed_probed)
  · intro settles
    obtain ⟨r, run, outcome⟩ := allOrNothing_of_settles cached' withdraws settles
    exact ⟨r, run, outcome.congr toRegistry_probed.symm installed_probed.symm⟩

theorem supported_all_or_nothing_located :
    SupportedAllOrNothing cooperative shimBinding 5 0 locatedMachine ↔
      HookSettles cooperative shimBinding ⟨0x300, 2⟩ 5 0
        (probed cooperative shimBinding 5 locatedMachine) :=
  supported_all_or_nothing_iff 0 rfl rfl rfl fun _ _ => rfl

/-- A platform that cannot install a second substitute. -/
def crowded : Platform :=
  { cooperative with
    installStatus := fun _ _ interface =>
      match interface with
      | .rootBridgeIo _ => efiSuccess
      | .resourceAllocation _ => efiOutOfResources }

/-- The second installation fails, and success is returned with a substitute on no list. -/
theorem supported_crowded : (pciBusDriverBindingSupported crowded shimBinding 5 0
    locatedMachine).toOption.map (fun r => (r.status, r.machine.rootBridgeIoProtocolList,
      r.machine.installed)) = some (efiSuccess, [], [(5, .rootBridgeIo 1)]) := by
  decide

/-- A call on a reachable state that returns success without a complete mapping. -/
theorem supported_leaves_half_a_hook :
    ¬ ∀ (platform : Platform) (this binding : DriverBinding) (controller : EfiHandle)
      (remainingDevicePath : Pointer) (m : Machine), ReachableBy (fun _ _ _ => True) m →
      m.gDriverBindingSubstituteProtocol = some binding →
      platform.openStatus m (rootBridgeIoProbe this.driverBindingHandle controller) = efiSuccess →
      (isProtocolsMapped this m).1 = false →
      HookWithdraws platform this binding controller remainingDevicePath
        (probed platform this controller m) →
        SupportedAllOrNothing platform this controller remainingDevicePath m := by
  intro holds
  obtain ⟨r, run, outcome⟩ := holds crowded shimBinding ⟨0x300, 2⟩ 5 0 locatedMachine
    (reachableBy_locatedMachine trivial) rfl rfl rfl fun _ _ => rfl
  have left := supported_crowded
  rw [run] at left
  obtain ⟨status, list, _⟩ : r.status = efiSuccess ∧ r.machine.rootBridgeIoProtocolList = [] ∧
      r.machine.installed = [(5, .rootBridgeIo 1)] := by
    simpa [Except.toOption] using left
  rcases outcome with ⟨_, entry, _, _, appended⟩ | ⟨failure, _⟩
  · exact List.cons_ne_nil entry [] (appended.list.symm.trans list)
  · exact failure status

end Thundermod.Shim
