import Thundermod.Shim.Cleanup
import Thundermod.Shim.Retries
import Thundermod.Shim.Transparency

/-!
# Heaps and flags along runs

No call makes the pool hold a block twice, so that the heap is in order in every state
that connecting calls lead to.  The flags of the mappings keep their promise as long as
no `Start` opens a mapping by half.
-/

namespace Thundermod.Shim

open Control

/-! ## Distinct blocks -/

section Freeing

variable (platform : Platform) (this : DriverBinding) (controller : EfiHandle) (entry : Addr)
  {m : Machine}

theorem nodup_freePool (nodup : m.live.Nodup) (block : Option Addr) :
    (m.freePool block).live.Nodup := by
  cases block with
  | none => exact nodup
  | some block =>
      rw [Machine.live_freePool]
      exact nodup.erase block

theorem nodup_uninstallAndFree (nodup : m.live.Nodup) (handle : Option EfiHandle)
    (interface : Interface) (block : Option Addr) :
    (uninstallAndFree platform handle interface block m).machine.live.Nodup := by
  unfold uninstallAndFree
  split
  · apply nodup_freePool
    rw [Machine.toRegistry_uninstall]
    exact nodup
  · exact nodup

theorem nodup_touch (nodup : m.live.Nodup) : (m.touch entry).live.Nodup := by
  rw [Machine.toRegistry_touch]
  exact nodup

theorem nodup_uninstallSubstitutes (nodup : m.live.Nodup) :
    (uninstallSubstitutes platform controller entry m).Ensures
      (fun r => r.machine.live.Nodup) (fun r => r.machine.live.Nodup) := by
  have first := nodup_uninstallAndFree platform (nodup_touch entry nodup)
  unfold uninstallSubstitutes uninstallResourceAllocationProtocol
    uninstallRootBridgeIoProtocolProtocol
  dsimp only
  split
  · split
    · exact nodup_touch entry (nodup_uninstallAndFree platform (first ..) ..)
    · exact nodup_uninstallAndFree platform (first ..) ..
  · exact first ..

theorem nodup_cleanupMapping (state : Returned) (nodup : state.machine.live.Nodup) :
    (cleanupMapping platform this controller entry state).Ensures
      (fun r => r.machine.live.Nodup) (fun r => r.machine.live.Nodup) := by
  unfold cleanupMapping
  dsimp only
  split
  · split
    · trivial
    · split
      · exact nodup_uninstallSubstitutes platform controller entry (nodup_touch entry nodup)
      · exact nodup_touch entry nodup
  · exact nodup

theorem nodup_cleanupDriver {indeterminate : EfiStatus} {r : Returned} (nodup : m.live.Nodup)
    (run : cleanupDriver platform indeterminate this controller m = .ok r) :
    r.machine.live.Nodup := by
  have loop := forEach_ensures (fun _ (r : Returned) => r.machine.live.Nodup)
    (fun r : Returned => r.machine.live.Nodup)
    (fun entry _ state holds => nodup_cleanupMapping platform this controller entry state holds)
    m.rootBridgeIoProtocolList ⟨indeterminate, m⟩ nodup
  unfold cleanupDriver at run
  split at run
  · cases run
  all_goals
    next outcome =>
      rw [outcome] at loop
      cases run
      exact loop

end Freeing

section Calls

variable {platform : Platform} {this binding : DriverBinding} {controller : EfiHandle}
  {remainingDevicePath : Pointer} {indeterminate : EfiStatus} {entry : Addr} {m : Machine}
  {r : Returned}

/-- However the function ends, it leaves distinct blocks. -/
def LeavesNodup (result : Except Fault Returned) : Prop :=
  ∀ r, result = .ok r → r.machine.live.Nodup

theorem nodup_hookController (cached : m.gDriverBindingSubstituteProtocol = some binding)
    (nodup : m.live.Nodup) :
    LeavesNodup (hookController platform this controller remainingDevicePath m) := by
  have added (entry : Addr) (entry_new : entry ∉ m.live) : (entry :: m.live).Nodup :=
    List.nodup_cons.mpr ⟨entry_new, nodup⟩
  refine hookController_rule LeavesNodup cached ?_ ?_ ?_ ?_
  · rintro _ ⟨⟩
  · rintro entry entry_new _ ⟨⟩
    exact added entry entry_new
  · rintro entry entry_new status _ ⟨⟩
    exact nodup_uninstallAndFree platform (added entry entry_new) ..
  · intro entry entry_new _
    have both (parent : Addr) (parent_new : parent ∉ entry :: m.live) :
        (parent :: entry :: m.live).Nodup :=
      List.nodup_cons.mpr ⟨parent_new, added entry entry_new⟩
    refine listMapping_rule LeavesNodup ?_ ?_ ?_
    · rintro _ ⟨⟩
    · rintro parent parent_new _ ⟨⟩
      exact both parent parent_new
    · rintro parent parent_new _ _ ⟨⟩
      exact both parent parent_new

theorem nodup_supported (nodup : m.live.Nodup) :
    LeavesNodup (pciBusDriverBindingSupported platform this controller remainingDevicePath m) := by
  cases cached : m.gDriverBindingSubstituteProtocol with
  | none =>
      rw [supported_of_unlocated cached]
      rintro _ ⟨⟩
      rw [toRegistry_findDriverBindingProtocol]
      exact nodup
  | some binding =>
      have probed_nodup : (probed platform this controller m).live.Nodup := by
        rwa [toRegistry_probed]
      refine supported_rule LeavesNodup cached ?_ ?_
        (nodup_hookController (cached_probed cached) probed_nodup)
      · rintro status _ ⟨⟩
        exact nodup
      · rintro _ ⟨⟩
        exact probed_nodup

theorem nodup_start (nodup : m.live.Nodup)
    (run : pciBusDriverBindingStart platform indeterminate this controller remainingDevicePath m =
      .ok r) : r.machine.live.Nodup := by
  refine start_invariant (fun m => m.live.Nodup) ?_ ?_ ?_ run
  · rw [toRegistry_findDriverBindingProtocol]
    exact nodup
  · intro entry before after _ nodup pass
    rw [pass.same_live]
    exact nodup
  · intro before status dumped nodup dump
    rw [toRegistry_dumpInstalledDevices dump]
    exact nodup

theorem nodup_stop {numberOfChildren : Nat} {childHandleBuffer : List EfiHandle}
    (nodup : m.live.Nodup)
    (run : pciBusDriverBindingStop platform indeterminate this controller numberOfChildren
      childHandleBuffer m = .ok r) : r.machine.live.Nodup := by
  obtain ⟨_, status, _, _, ⟨_, rfl⟩ | ⟨_, cleanup⟩⟩ := stop_cases run
  · exact nodup
  · exact nodup_cleanupDriver platform this controller
      (m := m.record (.stopped controller efiSuccess)) nodup cleanup

end Calls

/-- Whatever calls are made, the pool never holds a block twice. -/
theorem nodup_of_reachable {Admitted : Platform → Call → Machine → Prop} {m : Machine}
    (reached : ReachableBy Admitted m) : m.live.Nodup := by
  refine reached.invariant (fun m => m.live.Nodup) (fun _ _ => List.nodup_nil) ?_
  intro platform indeterminate call m r nodup _ run
  cases call with
  | supported this controller remainingDevicePath => exact nodup_supported nodup r run
  | start this controller remainingDevicePath => exact nodup_start nodup run
  | stop this controller numberOfChildren childHandleBuffer => exact nodup_stop nodup run

/-- The heap is in order in every state that connecting calls lead to. -/
theorem owned_of_connects {m : Machine} (reached : ReachableBy Connects m) :
    m.toRegistry.Owned :=
  (wellFormed_of_connects reached).owned (nodup_of_reachable reached)

/--
In every state that connecting calls lead to, a cleanup whose first pass frees
something breaks the heap.
-/
theorem not_cleanupLive_of_connects {platform : Platform} {indeterminate : EfiStatus}
    {this : DriverBinding} {controller : EfiHandle} {entry : Addr} {rest : List Addr}
    {original : HostRootBridgeIo} {m : Machine} (reached : ReachableBy Connects m)
    (list : m.rootBridgeIoProtocolList = entry :: rest)
    (opened : (m.mapping entry).originalProtocol = some original)
    (goes : ¬ HaltsUnharmed platform this controller entry original m) :
    ¬ CleanupLive platform indeterminate this controller m :=
  not_cleanupLive (owned_of_connects reached) list opened goes

/-! ## The flags of the mappings -/

theorem Registry.FlagsKept.extends {before after : Registry} (flags : before.FlagsKept)
    (wellFormed : before.WellFormed) (extension : before.Extends after) : after.FlagsKept := by
  intro entry listed flag
  rw [extension.list] at listed
  obtain ⟨parent, complete⟩ := wellFormed.complete entry listed
  have same := extension.mapping entry complete.live
  rw [same] at flag
  obtain ⟨original, parent', has_parent, parentOriginal⟩ := flags entry listed flag
  obtain rfl : parent = parent' := Option.some.inj (complete.has_parent.symm.trans has_parent)
  refine ⟨by rwa [same], parent, by rwa [same], ?_⟩
  rwa [extension.resourceAllocation parent complete.parent_live]

/-- A hooked mapping is not open yet. -/
theorem Registry.FlagsKept.hooked {this : DriverBinding} {controller : EfiHandle}
    {before after : Machine} {entry parent : Addr} (flags : before.toRegistry.FlagsKept)
    (wellFormed : before.toRegistry.WellFormed)
    (hooked : Hooked this controller before after entry parent) : after.toRegistry.FlagsKept := by
  intro other listed flag
  rw [wellFormed.list_hooked hooked, List.mem_append, List.mem_singleton] at listed
  rcases listed with older | rfl
  · exact flags.extends wellFormed hooked.extends other older flag
  · rw [hooked.mapping.isOpen] at flag
    cases flag

theorem flagsKept_supported {platform : Platform} {this : DriverBinding} {controller : EfiHandle}
    {remainingDevicePath : Pointer} {m : Machine} {r : Returned}
    (wellFormed : m.toRegistry.WellFormed) (flags : m.toRegistry.FlagsKept)
    (run : pciBusDriverBindingSupported platform this controller remainingDevicePath m = .ok r) :
    r.machine.toRegistry.FlagsKept := by
  rcases supported_cases run with ⟨same, _⟩ | behind
  · exact same ▸ flags
  · have same : (probed platform this controller m).toRegistry = m.toRegistry := toRegistry_probed
    rw [← same] at wellFormed flags
    rcases behind.effect.registry with extension | ⟨entry, parent, hooked⟩
    · exact flags.extends wellFormed extension
    · exact flags.hooked wellFormed hooked

/-- A `Start` whose opening comes to no mapping that it opens by half keeps the flags. -/
theorem flagsKept_start {platform : Platform} {indeterminate : EfiStatus} {this : DriverBinding}
    {controller : EfiHandle} {remainingDevicePath : Pointer} {m : Machine} {r : Returned}
    (flags : m.toRegistry.FlagsKept)
    (whole : NeverHalf (findDriverBindingProtocol platform m).2 ⟨platform, indeterminate⟩)
    (run : pciBusDriverBindingStart platform indeterminate this controller remainingDevicePath m =
      .ok r) : r.machine.toRegistry.FlagsKept := by
  have found : (findDriverBindingProtocol platform m).2.toRegistry.FlagsKept := by
    rwa [toRegistry_findDriverBindingProtocol]
  obtain ⟨opened, opening, outcome⟩ := start_cases run
  have answered : OpenCall.answer (findDriverBindingProtocol platform m).2
      ⟨platform, indeterminate⟩ = .ok (opened.machine, opened.status) := by
    simp only [OpenCall.answer, opening]
  have kept := (opensFully_of_neverHalf found whole answered).flags
  rcases outcome with ⟨_, rfl⟩ | ⟨_, original, status, dumped, _, _, dump, rfl⟩
  · exact kept
  · have same := toRegistry_dumpInstalledDevices dump
    exact same ▸ kept

/-- Connecting calls whose `Start` opens no mapping by half. -/
def OpensWhole (platform : Platform) (call : Call) (m : Machine) : Prop :=
  match call with
  | .supported _ _ _ => True
  | .start _ _ _ => ∀ indeterminate,
      NeverHalf (findDriverBindingProtocol platform m).2 ⟨platform, indeterminate⟩
  | .stop _ _ _ _ => False

/-- As long as no `Start` opens a mapping by half, every flag keeps its promise. -/
theorem flagsKept_of_whole {m : Machine} (reached : ReachableBy OpensWhole m) :
    m.toRegistry.FlagsKept := by
  refine (reached.invariant (fun m => m.toRegistry.WellFormed ∧ m.toRegistry.FlagsKept) ?_ ?_).2
  · exact fun _ _ => ⟨Registry.wellFormed_of_empty rfl, fun _ listed => nomatch listed⟩
  · rintro platform indeterminate call m r ⟨wellFormed, flags⟩ whole run
    cases call with
    | supported this controller remainingDevicePath =>
        exact ⟨wellFormed_supported wellFormed run, flagsKept_supported wellFormed flags run⟩
    | start this controller remainingDevicePath =>
        exact ⟨wellFormed_start wellFormed run, flagsKept_start flags (whole indeterminate) run⟩
    | stop this controller numberOfChildren childHandleBuffer => exact whole.elim

/-- Behind such a run, an opening that never opens by half opens everything when it succeeds. -/
theorem opensFully_of_whole {call : OpenCall} {m after : Machine} {status : EfiStatus}
    (reached : ReachableBy OpensWhole m) (whole : NeverHalf m call)
    (run : call.answer m = .ok (after, status)) : OpensFully after status :=
  opensFully_of_neverHalf (flagsKept_of_whole reached) whole run

end Thundermod.Shim
