import Thundermod.Shim.Sessions

/-!
# The way to the substitutes

The base driver comes to the host bridge in two steps: it finds a root bridge on the
controller that it is given, and a resource allocation on the handle that this root bridge
names as its parent.  Along this way it finds the substitutes of every listed mapping.
-/

namespace Thundermod.Shim

open Control

/-- Both substitutes of a mapping are installed where the base driver looks for them. -/
structure Machine.Findable (m : Machine) (entry : Addr) : Prop where
  onController : ∃ controller, (m.mapping entry).controller = some controller ∧
    (controller, .rootBridgeIo entry) ∈ m.installed
  onParentHandle : ∃ handle parent,
    (m.mapping entry).substitutedProtocol.parentHandle = some handle ∧
    (m.mapping entry).parent = some parent ∧
    (handle, .resourceAllocation (some parent)) ∈ m.installed

/-- All listed mappings are findable. -/
def Machine.AllFindable (m : Machine) : Prop :=
  ∀ entry ∈ m.rootBridgeIoProtocolList, m.Findable entry

/-- Only the registry and the installed interfaces matter. -/
theorem Machine.AllFindable.congr {before after : Machine} (findable : before.AllFindable)
    (toRegistry : after.toRegistry = before.toRegistry)
    (installed : after.installed = before.installed) : after.AllFindable := by
  intro entry listed
  rw [toRegistry] at listed
  obtain ⟨onController, onParentHandle⟩ := findable entry listed
  constructor
  · rw [toRegistry, installed]
    exact onController
  · rw [toRegistry, installed]
    exact onParentHandle

/-- If the function returns, it has left all listed mappings findable. -/
def LeavesFindable (result : Except Fault Returned) : Prop :=
  ∀ r, result = .ok r → r.machine.AllFindable

section Supported

variable {platform : Platform} {this binding : DriverBinding} {controller : EfiHandle}
  {remainingDevicePath : Pointer} {before after m : Machine} {entry parent : Addr}

/-- A mapping stays findable as long as it is not changed and its interfaces are kept. -/
theorem Machine.Findable.kept {foreign : Addr} (findable : before.Findable entry)
    (mapping : after.mapping entry = before.mapping entry)
    (installed : ∀ handle interface, (handle, interface) ∈ before.installed →
      interface ≠ .rootBridgeIo foreign → (handle, interface) ∈ after.installed)
    (different : entry ≠ foreign) : after.Findable entry := by
  obtain ⟨⟨controller, has_controller, onController⟩,
    ⟨handle, other, has_handle, has_parent, onHandle⟩⟩ := findable
  constructor
  · refine ⟨controller, by rwa [mapping], installed _ _ onController ?_⟩
    intro same
    exact different (Interface.rootBridgeIo.inj same)
  · refine ⟨handle, other, by rwa [mapping], by rwa [mapping], installed _ _ onHandle ?_⟩
    exact nofun

/-- A new mapping in a free block leaves the listed ones alone. -/
theorem findable_installNewMapping (wellFormed : m.toRegistry.WellFormed)
    (findable : m.AllFindable) (free : entry ∉ m.live) :
    (installNewMapping platform this controller entry m).machine.AllFindable := by
  intro other listed
  have different : other ≠ entry := fun same => free (same ▸ wellFormed.live listed)
  refine (findable other listed).kept
    (mapping_installNewMapping_of_ne platform this controller m different) ?_ different
  intro handle interface member _
  change (handle, interface) ∈ ite _ _ _
  split
  · exact List.mem_cons_of_mem _ member
  · exact member

/-- The substitute of a parent ends up on the handle that the root bridge then names. -/
theorem adopted_installNewResourceAllocation (different : entry ≠ parent)
    (installed : (installNewResourceAllocation platform entry parent m).status = efiSuccess) :
    ∃ handle, (installNewResourceAllocation platform entry parent m).machine.mapping entry =
        (m.mapping entry).adopt (some handle) parent ∧
      (installNewResourceAllocation platform entry parent m).machine.installed =
        (handle, .resourceAllocation (some parent)) :: m.installed := by
  refine ⟨(m.mapping entry).substitutedProtocol.parentHandle.getD
    (platform.newHandle (m.withNewResourceAllocation parent)), ?_, if_pos installed⟩
  refine (Machine.mapping_modifyMapping ..).trans ?_
  rw [Machine.toRegistry_install, mapping_withNewResourceAllocation_of_ne m different]
  exact congrArg ((m.mapping entry).adopt · parent) (if_pos installed)

theorem findable_installNewResourceAllocation (findable : m.AllFindable)
    (unlisted : entry ∉ m.rootBridgeIoProtocolList)
    (apart : ∀ other ∈ m.rootBridgeIoProtocolList, other ≠ parent) :
    (installNewResourceAllocation platform entry parent m).machine.AllFindable := by
  intro other listed
  have different : other ≠ entry := fun same => unlisted (same ▸ listed)
  refine (findable other listed).kept
    (mapping_installNewResourceAllocation_of_ne platform m different (apart other listed)) ?_
    different
  intro handle interface member _
  change (handle, interface) ∈ ite _ _ _
  split
  · exact List.mem_cons_of_mem _ member
  · exact member

/-- The mapping that is listed at the end of a hook is findable, and the others still are. -/
theorem findable_insertTail (findable : m.AllFindable)
    (unlisted : entry ∉ m.rootBridgeIoProtocolList)
    (apart : ∀ other ∈ m.rootBridgeIoProtocolList, other ≠ parent) (different : entry ≠ parent)
    (has_controller : (m.mapping entry).controller = some controller)
    (onController : (controller, .rootBridgeIo entry) ∈ m.installed)
    (installed : (installNewResourceAllocation platform entry parent m).status = efiSuccess) :
    ((installNewResourceAllocation platform entry parent m).machine.insertTail entry
      parent).AllFindable := by
  obtain ⟨handle, adopted, both⟩ := adopted_installNewResourceAllocation different installed
  intro other listed
  rw [rootBridgeIoProtocolList_insertTail, List.mem_append, List.mem_singleton] at listed
  rcases listed with front | rfl
  · have older : other ∈ m.rootBridgeIoProtocolList :=
      (List.takeWhile_sublist _).mem (by simpa using front)
    have foreign : other ≠ entry := fun same => unlisted (same ▸ older)
    have before : (installNewResourceAllocation platform entry parent m).machine.Findable other :=
      findable_installNewResourceAllocation findable unlisted apart other older
    exact before.kept (mapping_insertTail_of_ne parent _ foreign) (fun _ _ member _ => member)
      foreign
  · have content : ((installNewResourceAllocation platform other parent m).machine.insertTail other
        parent).mapping other =
        { (m.mapping other).adopt (some handle) parent with
          parent := some parent
          link := true } := by
      rw [mapping_insertTail, adopted]
    constructor
    · refine ⟨controller, by rw [content]; exact has_controller, ?_⟩
      rw [toHandleDatabase_insertTail, both]
      exact List.mem_cons_of_mem _ onController
    · refine ⟨handle, parent, by rw [content]; rfl, by rw [content], ?_⟩
      rw [toHandleDatabase_insertTail, both]
      exact List.mem_cons_self

theorem findable_hookController (cached : m.gDriverBindingSubstituteProtocol = some binding)
    (wellFormed : m.toRegistry.WellFormed) (findable : m.AllFindable) :
    LeavesFindable (hookController platform this controller remainingDevicePath m) := by
  have added (entry : Addr) (free : entry ∉ m.live) :
      (installNewMapping platform this controller entry m).machine.AllFindable :=
    findable_installNewMapping wellFormed findable free
  refine hookController_rule LeavesFindable cached ?_ ?_ ?_ ?_
  · rintro _ ⟨⟩
  · rintro entry free _ ⟨⟩
    exact added entry free
  · rintro entry free status _ ⟨⟩ other listed
    unfold uninstallRootBridgeIoProtocolProtocol at listed ⊢
    rw [rootBridgeIoProtocolList_uninstallAndFree] at listed
    have different : other ≠ entry := fun same => free (same ▸ wellFormed.live listed)
    refine (added entry free other listed).kept (congrFun (mapping_uninstallAndFree ..) other) ?_
      different
    intro handle interface member foreign
    refine mem_installed_uninstallAndFree member ?_
    intro same
    exact foreign (Prod.mk.inj same).2
  · intro entry free installed
    have unlisted : entry ∉ m.rootBridgeIoProtocolList :=
      fun listed => free (wellFormed.live listed)
    have tested : (baseSupported platform binding controller remainingDevicePath
        (installNewMapping platform this controller entry m).machine).machine.AllFindable :=
      (added entry free).congr rfl rfl
    have apart {parent : Addr} (free' : parent ∉ entry :: m.live) :
        ∀ other ∈ m.rootBridgeIoProtocolList, other ≠ parent := fun other listed same =>
      free' (List.mem_cons_of_mem _ (same ▸ wellFormed.live listed))
    refine listMapping_rule LeavesFindable ?_ ?_ ?_
    · rintro _ ⟨⟩
    · rintro parent free' _ ⟨⟩
      exact findable_installNewResourceAllocation tested unlisted (apart free')
    · rintro parent free' installed' _ ⟨⟩
      have different : entry ≠ parent := fun same => free' (same ▸ List.mem_cons_self)
      have new := newMapping_installNewMapping platform this controller entry m
      have onController : (controller, .rootBridgeIo entry) ∈
          (installNewMapping platform this controller entry m).machine.installed := by
        rw [installed_installNewMapping installed]
        exact List.mem_cons_self
      exact findable_insertTail tested unlisted (apart free') different new.controller onController
        installed'

theorem findable_supported (wellFormed : m.toRegistry.WellFormed) (findable : m.AllFindable) :
    LeavesFindable
      (pciBusDriverBindingSupported platform this controller remainingDevicePath m) := by
  cases cached : m.gDriverBindingSubstituteProtocol with
  | none =>
      rw [supported_of_unlocated cached]
      rintro _ ⟨⟩
      refine findable.congr (toRegistry_findDriverBindingProtocol ..) ?_
      rw [toHandleDatabase_findDriverBindingProtocol]
  | some binding =>
      have searched : (probed platform this controller m).AllFindable :=
        findable.congr toRegistry_probed installed_probed
      have wellFormed' : (probed platform this controller m).toRegistry.WellFormed := by
        rwa [toRegistry_probed]
      refine supported_rule LeavesFindable cached ?_ ?_
        (findable_hookController (cached_probed cached) wellFormed' searched)
      · rintro status _ ⟨⟩
        exact findable.congr rfl rfl
      · rintro _ ⟨⟩
        exact searched.congr rfl rfl

end Supported

section Start

variable {platform : Platform} {before after m : Machine} {entry : Addr}

/-- Opening protocols installs nothing and moves no mapping. -/
theorem findable_opening (findable : before.AllFindable)
    (step : OpeningStep platform before after) : after.AllFindable := by
  cases step with
  | located =>
      refine findable.congr (toRegistry_findDriverBindingProtocol ..) ?_
      rw [toHandleDatabase_findDriverBindingProtocol]
  | answered _ => exact findable.congr rfl rfl
  | touched =>
      refine findable.congr (Machine.toRegistry_touch ..) ?_
      rw [Machine.toHandleDatabase_touch]
  | opened => exact findable.congr rfl rfl
  | closed => exact findable.congr rfl rfl
  | @recorded entry original _ =>
      intro other listed
      obtain ⟨onController, onParentHandle⟩ := findable other listed
      by_cases same : other = entry
      · subst same
        constructor
        · rw [Machine.mapping_modifyMapping]
          exact onController
        · rw [Machine.mapping_modifyMapping]
          exact onParentHandle
      · constructor
        · rw [Machine.mapping_modifyMapping_of_ne same]
          exact onController
        · rw [Machine.mapping_modifyMapping_of_ne same]
          exact onParentHandle
  | parentRecorded =>
      exact fun other listed => ⟨(findable other listed).1, (findable other listed).2⟩

theorem findable_start {indeterminate : EfiStatus} {this : DriverBinding} {controller : EfiHandle}
    {remainingDevicePath : Pointer} (findable : m.AllFindable) : LeavesFindable
      (pciBusDriverBindingStart platform indeterminate this controller remainingDevicePath m) :=
  fun r run => (start_steps r run).invariant Machine.AllFindable findable
    fun _ _ => findable_opening

end Start

/--
In every state that connecting calls lead to, the base driver finds the substitute of every
listed root bridge on its controller, and on the handle that this substitute names as its
parent the substitute of the resource allocation.
-/
theorem hooked_bridges_findable {m : Machine} (reached : ReachableBy Connects m) :
    m.AllFindable := by
  refine (reached.invariant (fun m => m.toRegistry.WellFormed ∧ m.AllFindable) ?_ ?_).2
  · exact fun _ _ => ⟨Registry.wellFormed_of_empty rfl, fun _ listed => nomatch listed⟩
  · rintro platform indeterminate call m r ⟨wellFormed, findable⟩ connects run
    cases call with
    | supported this controller remainingDevicePath =>
        exact ⟨wellFormed_supported wellFormed run, findable_supported wellFormed findable r run⟩
    | start this controller remainingDevicePath =>
        exact ⟨wellFormed_start wellFormed run, findable_start findable r run⟩
    | stop this controller numberOfChildren childHandleBuffer => exact connects.elim

theorem hooked_bridges_findable_started : startedMachine.AllFindable :=
  hooked_bridges_findable (reachableBy_startedMachine trivial trivial trivial)

end Thundermod.Shim
