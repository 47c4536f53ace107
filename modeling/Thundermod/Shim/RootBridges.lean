import Thundermod.Control.Run
import Thundermod.Shim.Opening
import Thundermod.Shim.Teardown

/-!
# Several root bridges

`Supported` hooks a controller if its own binding protocol has no mapping yet, so
of several controllers only the first one is hooked.
-/

namespace Thundermod.Shim

open Control

/-- Every service succeeds, and the base driver supports just what carries a substitute. -/
structure AllSucceed (platform : Platform) : Prop where
  allocated : ∀ m, platform.allocation m ≠ none
  opened : ∀ m request, platform.openStatus m request = efiSuccess
  closed : ∀ m key, platform.closeStatus m key = efiSuccess
  installed : ∀ m handle interface, platform.installStatus m handle interface = efiSuccess
  uninstalled : ∀ m handle interface, platform.uninstallStatus m handle interface = efiSuccess
  supported : ∀ m binding this controller remainingDevicePath,
    platform.supportedStatus m binding this controller remainingDevicePath = efiSuccess ↔
      Carries m controller

/-- How many of the listed mappings are for the controller. -/
def Machine.mappingsOf (controller : EfiHandle) (m : Machine) : Nat :=
  m.rootBridgeIoProtocolList.countP fun entry => (m.mapping entry).controller = some controller

/-- One mapping for the controller is listed, and it carries a substitute. -/
def HookedOnce (m : Machine) (controller : EfiHandle) : Prop :=
  m.mappingsOf controller = 1 ∧ Carries m controller

/-- `Supported` for one controller with its remaining device path. -/
def supportController (platform : Platform) (this : DriverBinding) (m : Machine)
    (request : EfiHandle × Pointer) : Except Fault (Machine × EfiStatus) :=
  match pciBusDriverBindingSupported platform this request.1 request.2 m with
  | .error fault => .error fault
  | .ok r => .ok (r.machine, r.status)

/-- `Supported` returns success for each of the controllers, and each is hooked once. -/
def EachHooked (platform : Platform) (this : DriverBinding) (requests : List (EfiHandle × Pointer))
    (m : Machine) : Prop :=
  ∃ after statuses, serve (supportController platform this) m requests = .ok (after, statuses) ∧
    (∀ status ∈ statuses, status = efiSuccess) ∧
    ∀ request ∈ requests, HookedOnce after request.1

/--
At most one of the controllers is left to be hooked, and it comes first: if `this`
has a mapping already none is, and else the first one has no mapping yet.
-/
def AtMostFirstUnhooked (this : DriverBinding) (m : Machine) : List EfiHandle → Prop
  | [] => True
  | first :: rest =>
      (if (isProtocolsMapped this m).1 then HookedOnce m first else m.mappingsOf first = 0) ∧
        ∀ controller ∈ rest, HookedOnce m controller

/-! ## One call -/

section Supported

variable {platform : Platform} {this binding : DriverBinding} {m : Machine}

/-- What a call that hooks nothing leaves as it was. -/
structure Unaffected (before after : Machine) : Prop where
  toRegistry : after.toRegistry = before.toRegistry
  installed : after.installed = before.installed
  toDriverBindings : after.toDriverBindings = before.toDriverBindings

theorem Unaffected.refl (m : Machine) : Unaffected m m := ⟨rfl, rfl, rfl⟩

theorem Unaffected.trans {before middle after : Machine} (first : Unaffected before middle)
    (second : Unaffected middle after) : Unaffected before after where
  toRegistry := second.toRegistry.trans first.toRegistry
  installed := second.installed.trans first.installed
  toDriverBindings := second.toDriverBindings.trans first.toDriverBindings

theorem Unaffected.isProtocolsMapped {before after : Machine} (unaffected : Unaffected before after)
    (this : DriverBinding) :
    (isProtocolsMapped this after).1 = (isProtocolsMapped this before).1 := by
  rw [Bool.eq_iff_iff, isProtocolsMapped_iff, isProtocolsMapped_iff, unaffected.toRegistry]

theorem Unaffected.carries {before after : Machine} (unaffected : Unaffected before after)
    (controller : EfiHandle) : Carries after controller ↔ Carries before controller := by
  unfold Carries
  rw [unaffected.installed]

theorem Unaffected.mappingsOf {before after : Machine} (unaffected : Unaffected before after)
    (controller : EfiHandle) : after.mappingsOf controller = before.mappingsOf controller := by
  unfold Machine.mappingsOf
  rw [unaffected.toRegistry]

theorem Unaffected.hookedOnce {before after : Machine} (unaffected : Unaffected before after)
    (controller : EfiHandle) : HookedOnce after controller ↔ HookedOnce before controller := by
  rw [HookedOnce, HookedOnce, unaffected.mappingsOf, unaffected.carries]

/-- Once `this` has a mapping, no controller is hooked any more. -/
theorem supported_of_mapped (all : AllSucceed platform)
    (cached : m.gDriverBindingSubstituteProtocol = some binding)
    (mapped : (isProtocolsMapped this m).1 = true) (request : EfiHandle × Pointer) :
    ∃ after status, supportController platform this m request = .ok (after, status) ∧
      Unaffected m after ∧ (status = efiSuccess ↔ Carries m request.1) := by
  have opened : efiError (platform.openStatus m
      (rootBridgeIoProbe this.driverBindingHandle request.1)) = false := by
    rw [all.opened, efiError_efiSuccess]
  unfold supportController
  rw [supported_of_probed cached opened, if_pos mapped,
    callSupported_of_cached (cached_probed cached)]
  refine ⟨_, _, rfl, ?_, ?_⟩
  · constructor <;> simp [baseSupported]
  · refine (all.supported _ _ _ _ _).trans ?_
    unfold Carries
    rw [installed_probed]

/-- As long as `this` has no mapping, the controller is hooked. -/
theorem supported_of_unmapped (all : AllSucceed platform)
    (cached : m.gDriverBindingSubstituteProtocol = some binding)
    (unmapped : (isProtocolsMapped this m).1 = false) (request : EfiHandle × Pointer) :
    ∃ after entry parent, supportController platform this m request = .ok (after, efiSuccess) ∧
      Hooked this request.1 (probed platform this request.1 m) after entry parent := by
  have opened : efiError (platform.openStatus m
      (rootBridgeIoProbe this.driverBindingHandle request.1)) = false := by
    rw [all.opened, efiError_efiSuccess]
  have cached' : (probed platform this request.1 m).gDriverBindingSubstituteProtocol =
      some binding := cached_probed cached
  obtain ⟨entry, allocated⟩ := Option.ne_none_iff_exists'.mp
    (all.allocated (probed platform this request.1 m))
  have installed := all.installed ((probed platform this request.1 m).withNewMapping this request.1
    entry.1) (some request.1) (.rootBridgeIo entry.1)
  have accepted : (baseSupported platform binding request.1 request.2 (installNewMapping platform
      this request.1 entry.1 (probed platform this request.1 m)).machine).status = efiSuccess := by
    refine (all.supported _ _ _ _ _).mpr ⟨entry.1, ?_⟩
    rw [installed_installNewMapping installed]
    exact List.mem_cons_self
  obtain ⟨parent, allocated'⟩ := Option.ne_none_iff_exists'.mp (all.allocated (baseSupported
    platform binding request.1 request.2 (installNewMapping platform this request.1 entry.1
      (probed platform this request.1 m)).machine).machine)
  obtain ⟨r, run, status, hooked⟩ := hookController_hooked cached' allocated installed accepted
    allocated' (all.installed _ _ _)
  refine ⟨r.machine, entry.1, parent.1, ?_, hooked⟩
  simp only [supportController, supported_of_probed cached opened, unmapped, Bool.false_eq_true,
    if_false, run, status]

/-! ## A sequence of calls -/

theorem eachHooked_of_run {requests : List (EfiHandle × Pointer)} {after : Machine}
    {statuses : List EfiStatus}
    (run : serve (supportController platform this) m requests = .ok (after, statuses)) :
    EachHooked platform this requests m ↔
      (∀ status ∈ statuses, status = efiSuccess) ∧
        ∀ request ∈ requests, HookedOnce after request.1 := by
  constructor
  · rintro ⟨after', statuses', run', hooked⟩
    cases run.symm.trans run'
    exact hooked
  · exact fun hooked => ⟨after, statuses, run, hooked⟩

/-- Once `this` has a mapping, a sequence of calls only asks the base driver. -/
theorem serve_of_mapped (all : AllSucceed platform)
    (cached : m.gDriverBindingSubstituteProtocol = some binding)
    (mapped : (isProtocolsMapped this m).1 = true) (requests : List (EfiHandle × Pointer)) :
    ∃ after statuses, serve (supportController platform this) m requests = .ok (after, statuses) ∧
      Unaffected m after ∧
      ((∀ status ∈ statuses, status = efiSuccess) ↔ ∀ request ∈ requests, Carries m request.1) := by
  have one (before : Machine) (request : EfiHandle × Pointer) (unaffected : Unaffected m before) :
      ∃ after status, supportController platform this before request = .ok (after, status) ∧
        Unaffected m after ∧ (status = efiSuccess ↔ Carries m request.1) := by
    have cached' : before.gDriverBindingSubstituteProtocol = some binding := by
      rw [unaffected.toDriverBindings, cached]
    obtain ⟨after, status, run, same, supported⟩ := supported_of_mapped all cached'
      ((unaffected.isProtocolsMapped this).trans mapped) request
    exact ⟨after, status, run, unaffected.trans same,
      supported.trans (unaffected.carries request.1)⟩
  obtain ⟨after, statuses, run, unaffected, answered⟩ := serve_completes (Unaffected m)
    (fun request status => status = efiSuccess ↔ Carries m request.1) one requests m
    (Unaffected.refl m)
  exact ⟨after, statuses, run, unaffected, forall_answers_iff answered⟩

end Supported

section Hooked

variable {this : DriverBinding} {controller : EfiHandle} {before after : Machine}
  {entry parent : Addr}

theorem Hooked.isProtocolsMapped (hooked : Hooked this controller before after entry parent) :
    (isProtocolsMapped this after).1 = true := by
  refine (isProtocolsMapped_iff this after).mpr ⟨entry, ?_, hooked.mapping.bindingProtocol⟩
  simp [hooked.list]

theorem Hooked.carries_iff (hooked : Hooked this controller before after entry parent)
    (other : EfiHandle) : Carries after other ↔ other = controller ∨ Carries before other := by
  obtain ⟨handle, installed⟩ := hooked.installed
  unfold Carries
  simp [installed, exists_or]

/-- A new mapping is counted for its own controller only. -/
theorem Hooked.mappingsOf (hooked : Hooked this controller before after entry parent)
    (wellFormed : before.toRegistry.WellFormed) (other : EfiHandle) :
    after.mappingsOf other =
      before.mappingsOf other + if other = controller then 1 else 0 := by
  have kept : before.rootBridgeIoProtocolList.countP
        (fun entry => (after.mapping entry).controller = some other) =
      before.mappingsOf other := by
    refine List.countP_congr ?_
    intro listed member
    have older : after.mapping listed = before.mapping listed :=
      hooked.extends.mapping listed (wellFormed.live member)
    rw [older]
  simp only [Machine.mappingsOf, wellFormed.list_hooked hooked, List.countP_append, kept,
    List.countP_singleton, hooked.mapping.controller]
  simp [eq_comm]

end Hooked

/-! ## Runs -/

/-- When every service succeeds the registry stays well formed. -/
theorem wellFormed_of_allSucceed {m : Machine}
    (reached : ReachableBy (fun platform _ _ => AllSucceed platform) m) :
    m.toRegistry.WellFormed := by
  refine reached.invariant (fun m => m.toRegistry.WellFormed) ?_ ?_
  · exact fun _ _ => Registry.wellFormed_of_empty rfl
  · intro platform indeterminate call m r wellFormed all run
    cases call with
    | supported this controller remainingDevicePath => exact wellFormed_supported wellFormed run
    | start this controller remainingDevicePath => exact wellFormed_start wellFormed run
    | stop this controller numberOfChildren childHandleBuffer =>
        obtain ⟨binding, status, _, _, ⟨_, rfl⟩ | ⟨_, cleanup⟩⟩ := stop_cases run
        · exact wellFormed
        · have cleaned := cleanedOut_of_cleanupDriver all.closed all.uninstalled cleanup
          exact Registry.wellFormed_of_empty cleaned.emptied

/-! ## Several controllers -/

section EachHooked

variable {platform : Platform} {this binding : DriverBinding} {m : Machine}

/-- With a mapping for `this` on the list, every controller must have been hooked before. -/
theorem eachHooked_of_mapped (all : AllSucceed platform)
    (cached : m.gDriverBindingSubstituteProtocol = some binding)
    (mapped : (isProtocolsMapped this m).1 = true) (requests : List (EfiHandle × Pointer)) :
    EachHooked platform this requests m ↔ ∀ request ∈ requests, HookedOnce m request.1 := by
  obtain ⟨after, statuses, run, unaffected, supported⟩ :=
    serve_of_mapped all cached mapped requests
  rw [eachHooked_of_run run, supported]
  constructor
  · rintro ⟨_, hooked⟩ request member
    exact (unaffected.hookedOnce request.1).mp (hooked request member)
  · intro hooked
    exact ⟨fun request member => (hooked request member).2,
      fun request member => (unaffected.hookedOnce request.1).mpr (hooked request member)⟩

/-- With no mapping for `this` on the list, the first controller alone is hooked. -/
theorem eachHooked_of_unmapped (all : AllSucceed platform) (wellFormed : m.toRegistry.WellFormed)
    (cached : m.gDriverBindingSubstituteProtocol = some binding)
    (unmapped : (isProtocolsMapped this m).1 = false) {first : EfiHandle × Pointer}
    {rest : List (EfiHandle × Pointer)} (distinct : ∀ request ∈ rest, request.1 ≠ first.1) :
    EachHooked platform this (first :: rest) m ↔
      m.mappingsOf first.1 = 0 ∧ ∀ request ∈ rest, HookedOnce m request.1 := by
  have behind : Unaffected m (probed platform this first.1 m) := by constructor <;> simp
  obtain ⟨middle, entry, parent, run, hooked⟩ := supported_of_unmapped all cached unmapped first
  have cached' : middle.gDriverBindingSubstituteProtocol = some binding := by
    rw [hooked.toDriverBindings, behind.toDriverBindings, cached]
  have count (other : EfiHandle) : middle.mappingsOf other =
      m.mappingsOf other + if other = first.1 then 1 else 0 := by
    rw [hooked.mappingsOf (behind.toRegistry ▸ wellFormed), behind.mappingsOf]
  have head : HookedOnce middle first.1 ↔ m.mappingsOf first.1 = 0 := by
    simp [HookedOnce, count, hooked.carries_iff]
  have tail (request : EfiHandle × Pointer) (member : request ∈ rest) :
      HookedOnce middle request.1 ↔ HookedOnce m request.1 := by
    simp [HookedOnce, count, hooked.carries_iff, behind.carries, distinct request member]
  obtain ⟨after, statuses, others, unaffected, supported⟩ :=
    serve_of_mapped all cached' hooked.isProtocolsMapped rest
  rw [eachHooked_of_run (serve_cons_ok run others), List.forall_mem_cons, List.forall_mem_cons,
    unaffected.hookedOnce, head, supported]
  constructor
  · rintro ⟨_, unhooked, once⟩
    refine ⟨unhooked, ?_⟩
    intro request member
    rw [← tail request member, ← unaffected.hookedOnce]
    exact once request member
  · rintro ⟨unhooked, once⟩
    have kept (request : EfiHandle × Pointer) (member : request ∈ rest) :
        HookedOnce middle request.1 :=
      (tail request member).mpr (once request member)
    exact ⟨⟨rfl, fun request member => (kept request member).2⟩, unhooked,
      fun request member => (unaffected.hookedOnce request.1).mpr (kept request member)⟩

/--
From any reachable state, each of several controllers gets its own mapping exactly
when there is at most one left to be hooked.
-/
theorem each_hooked_iff (reached : ReachableBy (fun platform _ _ => AllSucceed platform) m)
    (cached : m.gDriverBindingSubstituteProtocol = some binding) (all : AllSucceed platform)
    {requests : List (EfiHandle × Pointer)} (distinct : (requests.map Prod.fst).Nodup) :
    EachHooked platform this requests m ↔
      AtMostFirstUnhooked this m (requests.map Prod.fst) := by
  cases mapped : (isProtocolsMapped this m).1 with
  | true =>
      rw [eachHooked_of_mapped all cached mapped]
      cases requests with
      | nil => simp [AtMostFirstUnhooked]
      | cons first rest => simp [AtMostFirstUnhooked, mapped]
  | false =>
      cases requests with
      | nil =>
          refine iff_of_true ⟨m, [], rfl, ?_, ?_⟩ trivial <;> simp
      | cons first rest =>
          have others : ∀ request ∈ rest, request.1 ≠ first.1 := by
            intro request member same
            refine (List.nodup_cons.mp distinct).1 ?_
            rw [← same]
            exact List.mem_map_of_mem member
          rw [eachHooked_of_unmapped all (wellFormed_of_allSucceed reached) cached mapped others]
          simp [AtMostFirstUnhooked, mapped]

/-! ## Two controllers -/

theorem allSucceed_compliant : AllSucceed compliant where
  allocated := fun _ => Option.some_ne_none _
  opened := fun _ _ => rfl
  closed := fun _ _ => rfl
  installed := fun _ _ _ => rfl
  uninstalled := fun _ _ _ => rfl
  supported := by
    intro m binding this controller remainingDevicePath
    rw [← any_isRootBridgeIoOn]
    change (if m.installed.any (isRootBridgeIoOn controller) then efiSuccess else efiNotFound) =
      efiSuccess ↔ _
    split
    · next carried => exact iff_of_true rfl carried
    · next bare => exact iff_of_false efiNotFound_ne_efiSuccess bare

theorem reachableBy_compliant :
    ReachableBy (fun platform _ _ => AllSucceed platform) locatedMachine :=
  ⟨1, 0x400, (Reachable.start ..).step
    ⟨compliant, 0, .supported shimBinding 5 0, efiNotFound, allSucceed_compliant, rfl⟩⟩

theorem each_hooked_located : EachHooked compliant shimBinding [(5, 0), (6, 0)] locatedMachine ↔
    AtMostFirstUnhooked shimBinding locatedMachine [5, 6] :=
  each_hooked_iff reachableBy_compliant rfl allSucceed_compliant (by decide)

/-- The second of two controllers is not hooked, and the base driver does not support it. -/
theorem second_root_bridge_unhooked :
    ¬ ∀ (platform : Platform) (this binding : DriverBinding)
      (requests : List (EfiHandle × Pointer)) (m : Machine),
      ReachableBy (fun platform _ _ => AllSucceed platform) m →
      m.gDriverBindingSubstituteProtocol = some binding → AllSucceed platform →
      (requests.map Prod.fst).Nodup → EachHooked platform this requests m := by
  intro holds
  obtain ⟨after, statuses, run, success, _⟩ := holds compliant shimBinding ⟨0x300, 2⟩
    [(5, 0), (6, 0)] locatedMachine reachableBy_compliant rfl allSucceed_compliant (by decide)
  have returned : (serve (supportController compliant shimBinding) locatedMachine
      [(5, 0), (6, 0)]).toOption.map Prod.snd = some [efiSuccess, efiNotFound] := by
    decide
  rw [run] at returned
  obtain rfl : statuses = [efiSuccess, efiNotFound] := by
    simpa [Except.toOption] using returned
  exact efiNotFound_ne_efiSuccess (success efiNotFound (by simp))

end EachHooked

end Thundermod.Shim
