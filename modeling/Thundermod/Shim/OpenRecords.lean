import Thundermod.Shim.Opening
import Thundermod.Shim.Teardown

/-!
# Open records and the registry

The probe of `Supported` and the long-lived open of a root-bridge protocol share
an agent and a controller, so closing the one closes the other.  As long as no
call does that, the open records and the open mappings agree.
-/

namespace Thundermod.Shim

open Control

/-! ## The law of open records -/

/-- The shim has an open record for the key. -/
def Machine.Holds (m : Machine) (key : OpenKey) : Prop :=
  ∃ request ∈ m.opens, request.key = key

instance (m : Machine) (key : OpenKey) : Decidable (m.Holds key) :=
  inferInstanceAs (Decidable (∃ request ∈ m.opens, request.key = key))

theorem Machine.holds_congr {m m' : Machine} (opens : m'.opens = m.opens) (key : OpenKey) :
    m'.Holds key ↔ m.Holds key := by
  unfold Machine.Holds
  rw [opens]

/-- `OpenProtocol` succeeds or errs; `CloseProtocol` needs a record, and errs only without one. -/
structure Lawful (platform : Platform) : Prop where
  opens : ∀ m request, platform.openStatus m request = efiSuccess ∨
    efiError (platform.openStatus m request) = true
  closes : ∀ m key, platform.closeStatus m key = if m.Holds key then efiSuccess else efiNotFound

/-- The mapping is open under the key of its long-lived open. -/
def RootBridgeIoProtocolMapping.OpenedUnder (mapping : RootBridgeIoProtocolMapping)
    (key : OpenKey) : Prop :=
  mapping.isOpen = true ∧ ∃ binding, mapping.bindingProtocol = some binding ∧
    key = (rootBridgeIoOpen binding.driverBindingHandle mapping.controller).key

theorem RootBridgeIoProtocolMapping.OpenedUnder.unique {mapping : RootBridgeIoProtocolMapping}
    {key key' : OpenKey} (opened : mapping.OpenedUnder key) (opened' : mapping.OpenedUnder key') :
    key = key' := by
  obtain ⟨_, binding, bound, rfl⟩ := opened
  obtain ⟨_, binding', bound', rfl⟩ := opened'
  cases bound.symm.trans bound'
  rfl

/-- Some agent of the shim holds a record on the original root-bridge protocol of the controller. -/
def Machine.HoldsRootBridgeIo (m : Machine) (controller : EfiHandle) : Prop :=
  ∃ request ∈ m.opens, request.key.protocol = .pciRootBridgeIo ∧
    request.key.handle = some controller

/--
The open records follow the registry: they are those of the open mappings, no
close has found none to remove, and no admitted `Supported` changes them.
-/
structure RecordsFollow (Admitted : Platform → Call → Machine → Prop) (m : Machine) : Prop where
  held : ∀ controller, m.HoldsRootBridgeIo controller ↔
    ∃ entry ∈ m.rootBridgeIoProtocolList,
      (m.mapping entry).controller = some controller ∧ (m.mapping entry).isOpen = true
  found : ∀ key, (key, efiNotFound) ∉ m.closes
  supported : ∀ platform this controller remainingDevicePath r,
    Admitted platform (.supported this controller remainingDevicePath) m →
    pciBusDriverBindingSupported platform this controller remainingDevicePath m = .ok r →
      r.machine.opens = m.opens

/-- Both substitutes of a mapping can be uninstalled, at the two calls that a cleanup pass makes. -/
def SubstitutesWithdraw (platform : Platform) (controller : EfiHandle) (entry : Addr)
    (m : Machine) : Prop :=
  let handle := (m.mapping entry).substitutedProtocol.parentHandle
  let parent := (m.mapping entry).parent
  platform.uninstallStatus (m.touch entry) handle (.resourceAllocation parent) = efiSuccess ∧
    platform.uninstallStatus
      (uninstallResourceAllocationProtocol platform handle parent (m.touch entry)).machine
      (some controller) (.rootBridgeIo entry) = efiSuccess

/--
What a cleanup finds that does no harm: nothing, or just one mapping, which is
open for the controller and the agent of the call, with its second record still
held and substitutes that can be uninstalled once both originals are closed.
-/
def StopsOne (platform : Platform) (this : DriverBinding) (controller : EfiHandle) (m : Machine) :
    Prop :=
  m.rootBridgeIoProtocolList = [] ∨ ∃ entry original,
    m.rootBridgeIoProtocolList = [entry] ∧
    (m.mapping entry).OpenedUnder
      (rootBridgeIoOpen this.driverBindingHandle (some controller)).key ∧
    (m.mapping entry).originalProtocol = some original ∧
    m.Holds (resourceAllocationOpen this.driverBindingHandle (some controller)
      original.parentHandle).key ∧
    SubstitutesWithdraw platform controller entry
      (closedOriginals platform this controller entry original m)

/--
The calls that close no record of a mapping that stays open: a `Supported` whose
probe gets through only where no mapping is open under the key of the probe, and a
`Stop` that cleans up only a single mapping of its own.
-/
def KeepsRecords (platform : Platform) (call : Call) (m : Machine) : Prop :=
  match call with
  | .supported this controller _ =>
      m.gDriverBindingSubstituteProtocol ≠ none →
      platform.openStatus m (rootBridgeIoProbe this.driverBindingHandle controller) = efiSuccess →
        ∀ entry ∈ m.rootBridgeIoProtocolList, ¬ (m.mapping entry).OpenedUnder
          (rootBridgeIoProbe this.driverBindingHandle controller).key
  | .start _ _ _ => True
  | .stop this controller numberOfChildren childHandleBuffer =>
      ∀ binding, m.gDriverBindingSubstituteProtocol = some binding →
        platform.stopStatus m binding binding controller numberOfChildren childHandleBuffer =
          efiSuccess →
        StopsOne platform this controller (m.record (.stopped controller efiSuccess))

/-! ## The invariant -/

/-- A root-bridge protocol is held under the keys of the listed open mappings, and no others. -/
structure Tracked (m : Machine) : Prop where
  wellFormed : m.toRegistry.WellFormed
  records : ∀ key, key.protocol = .pciRootBridgeIo →
    (m.Holds key ↔ ∃ entry ∈ m.rootBridgeIoProtocolList, (m.mapping entry).OpenedUnder key)
  found : ∀ key, (key, efiNotFound) ∉ m.closes

theorem tracked_pciDxeShimMain (imageHandle : EfiHandle) (gPciBusDriverBinding : Pointer) :
    Tracked (pciDxeShimMain imageHandle gPciBusDriverBinding) where
  wellFormed := Registry.wellFormed_of_empty rfl
  records := by simp [Machine.Holds, pciDxeShimMain]
  found := by simp [Machine.closes, pciDxeShimMain]

/-- The invariant looks at live blocks, root-bridge records and closes that failed. -/
theorem Tracked.congr {before after : Machine} (tracked : Tracked before)
    (extension : before.toRegistry.Extends after.toRegistry)
    (holds : ∀ key, key.protocol = .pciRootBridgeIo → (after.Holds key ↔ before.Holds key))
    (closes : ∀ key, (key, efiNotFound) ∈ after.closes → (key, efiNotFound) ∈ before.closes) :
    Tracked after where
  wellFormed := tracked.wellFormed.extends extension
  records := by
    intro key rootBridge
    have same {entry : Addr} (listed : entry ∈ before.rootBridgeIoProtocolList) :
        after.mapping entry = before.mapping entry :=
      extension.mapping entry (tracked.wellFormed.live listed)
    rw [holds key rootBridge, tracked.records key rootBridge, extension.list]
    constructor
    · rintro ⟨entry, listed, opened⟩
      exact ⟨entry, listed, (same listed).symm ▸ opened⟩
    · rintro ⟨entry, listed, opened⟩
      exact ⟨entry, listed, same listed ▸ opened⟩
  found := fun key failed => tracked.found key (closes key failed)

theorem Tracked.of_same {before after : Machine} (tracked : Tracked before)
    (toRegistry : after.toRegistry = before.toRegistry) (opens : after.opens = before.opens)
    (closes : after.closes = before.closes) : Tracked after := by
  refine tracked.congr (toRegistry ▸ Registry.Extends.refl _)
    (fun key _ => Machine.holds_congr opens key) ?_
  intro key failed
  rwa [closes] at failed

/-- The invariant in the terms of the registry. -/
theorem Tracked.held {m : Machine} (tracked : Tracked m) (controller : EfiHandle) :
    m.HoldsRootBridgeIo controller ↔ ∃ entry ∈ m.rootBridgeIoProtocolList,
      (m.mapping entry).controller = some controller ∧ (m.mapping entry).isOpen = true := by
  constructor
  · rintro ⟨request, member, rootBridge, handle⟩
    obtain ⟨entry, listed, isOpen, binding, _, key⟩ :=
      (tracked.records request.key rootBridge).mp ⟨request, member, rfl⟩
    refine ⟨entry, listed, ?_, isOpen⟩
    rw [key] at handle
    exact handle
  · rintro ⟨entry, listed, bound, isOpen⟩
    obtain ⟨parent, complete⟩ := tracked.wellFormed.complete entry listed
    obtain ⟨binding, found⟩ := Option.ne_none_iff_exists'.mp complete.bindingProtocol
    have opened : (m.mapping entry).OpenedUnder
        (rootBridgeIoOpen binding.driverBindingHandle (m.mapping entry).controller).key :=
      ⟨isOpen, binding, found, rfl⟩
    obtain ⟨request, member, key⟩ := (tracked.records _ rfl).mpr ⟨entry, listed, opened⟩
    exact ⟨request, member, by rw [key]; rfl, by rw [key]; exact bound⟩

/-! ## Opening and closing -/

section Services

variable {platform : Platform} {request : OpenRecord} {key : OpenKey} {m : Machine}

theorem holds_openProtocol (success : platform.openStatus m request = efiSuccess) (key : OpenKey) :
    (m.openProtocol platform request).machine.Holds key ↔ request.key = key ∨ m.Holds key := by
  unfold Machine.Holds
  rw [Machine.opens_openProtocol success]
  simp

theorem holds_opened (success : platform.openStatus m request = efiSuccess) :
    (m.openProtocol platform request).machine.Holds request.key :=
  (holds_openProtocol success request.key).mpr (Or.inl rfl)

/-- What is held can be closed. -/
theorem closeStatus_of_holds (lawful : Lawful platform) (held : m.Holds key) :
    platform.closeStatus m key = efiSuccess := by
  rw [lawful.closes, if_pos held]

theorem holds_closeProtocol (lawful : Lawful platform) (held : m.Holds key) (other : OpenKey) :
    (m.closeProtocol platform key).machine.Holds other ↔ m.Holds other ∧ other ≠ key := by
  unfold Machine.Holds
  rw [Machine.opens_closeProtocol (closeStatus_of_holds lawful held)]
  simp only [List.mem_filter, decide_eq_true_eq]
  constructor
  · rintro ⟨request, ⟨member, different⟩, rfl⟩
    exact ⟨⟨request, member, rfl⟩, different⟩
  · rintro ⟨⟨request, member, rfl⟩, different⟩
    exact ⟨request, ⟨member, different⟩, rfl⟩

/-- Opening and closing under a key that was not held before changes no record. -/
theorem opens_open_close (lawful : Lawful platform)
    (success : platform.openStatus m request = efiSuccess) (unheld : ¬ m.Holds request.key) :
    ((m.openProtocol platform request).machine.closeProtocol platform request.key).machine.opens =
      m.opens := by
  rw [Machine.opens_closeProtocol (closeStatus_of_holds lawful (holds_opened success)),
    Machine.opens_openProtocol success, List.filter_cons_of_neg (by simp), List.filter_eq_self]
  intro other member
  refine decide_eq_true ?_
  intro same
  exact unheld ⟨other, member, same⟩

end Services

/-! ## Supported -/

section Supported

variable {platform : Platform} {this : DriverBinding} {controller : EfiHandle}
  {remainingDevicePath : Pointer} {m : Machine} {r : Returned}

/-- A mapping that has just been hooked is not open. -/
theorem Tracked.hooked {before after : Machine} {entry parent : Addr} (tracked : Tracked before)
    (hooked : Hooked this controller before after entry parent) : Tracked after where
  wellFormed := tracked.wellFormed.hooked hooked
  records := by
    intro key rootBridge
    have older {listed : Addr} (member : listed ∈ before.rootBridgeIoProtocolList) :
        after.mapping listed = before.mapping listed :=
      hooked.extends.mapping listed (tracked.wellFormed.live member)
    rw [Machine.holds_congr hooked.opens, tracked.records key rootBridge,
      tracked.wellFormed.list_hooked hooked]
    constructor
    · rintro ⟨listed, member, opened⟩
      exact ⟨listed, List.mem_append_left _ member, older member ▸ opened⟩
    · rintro ⟨listed, member, opened⟩
      rcases List.mem_append.mp member with member | new
      · exact ⟨listed, member, older member ▸ opened⟩
      · rw [List.mem_singleton.mp new] at opened
        have closed := hooked.mapping.isOpen
        rw [opened.1] at closed
        cases closed
  found := by
    rw [hooked.closes]
    exact tracked.found

theorem opens_probed (lawful : Lawful platform)
    (success : platform.openStatus m (rootBridgeIoProbe this.driverBindingHandle controller) =
      efiSuccess)
    (unheld : ¬ m.Holds (rootBridgeIoProbe this.driverBindingHandle controller).key) :
    (probed platform this controller m).opens = m.opens := by
  simp only [probed, toHandleDatabase_isProtocolsMapped]
  exact opens_open_close lawful success unheld

theorem closes_probed (lawful : Lawful platform)
    (success : platform.openStatus m (rootBridgeIoProbe this.driverBindingHandle controller) =
      efiSuccess) :
    (probed platform this controller m).closes =
      ((rootBridgeIoProbe this.driverBindingHandle controller).key, efiSuccess) :: m.closes := by
  simp only [probed, closes_isProtocolsMapped, Machine.closes_closeProtocol,
    Machine.closes_openProtocol, closeStatus_of_holds lawful (holds_opened success)]

/-- A call that closes nothing but its own probe leaves the records as they were. -/
theorem tracked_supported (lawful : Lawful platform) (tracked : Tracked m)
    (keeps : KeepsRecords platform (.supported this controller remainingDevicePath) m)
    (run : pciBusDriverBindingSupported platform this controller remainingDevicePath m = .ok r) :
    Tracked r.machine ∧ r.machine.opens = m.opens := by
  cases cached : m.gDriverBindingSubstituteProtocol with
  | none =>
      rw [supported_of_unlocated cached] at run
      cases run
      exact ⟨tracked.of_same (by simp) (by simp) (by simp), by simp⟩
  | some binding =>
      rcases supported_cases run with ⟨toRegistry, opens, closes⟩ | behind
      · exact ⟨tracked.of_same toRegistry opens closes, opens⟩
      · have success : platform.openStatus m
            (rootBridgeIoProbe this.driverBindingHandle controller) = efiSuccess := by
          refine (lawful.opens m _).resolve_right ?_
          simp [behind.opened]
        have unheld : ¬ m.Holds (rootBridgeIoProbe this.driverBindingHandle controller).key := by
          rw [tracked.records _ rfl]
          rintro ⟨entry, listed, opened⟩
          exact keeps (by simp [cached]) success entry listed opened
        have opens := opens_probed lawful success unheld
        have kept : Tracked (probed platform this controller m) := by
          refine tracked.congr ?_ ?_ ?_
          · rw [toRegistry_probed]
            exact Registry.Extends.refl _
          · exact fun key _ => Machine.holds_congr opens key
          · simp [closes_probed lawful success, efiNotFound_ne_efiSuccess]
        refine ⟨?_, behind.effect.opens.trans opens⟩
        rcases behind.effect.registry with extension | ⟨entry, parent, hooked⟩
        · refine kept.congr extension
            (fun key _ => Machine.holds_congr behind.effect.opens key) ?_
          intro key failed
          rwa [behind.effect.closes] at failed
        · exact kept.hooked hooked

end Supported

/-! ## Start -/

section Start

variable {platform : Platform} {m : Machine}

/-- Of the records that have been added, only that of a root-bridge protocol counts. -/
theorem Machine.holds_of_added {before after : Machine} {others : List OpenRecord}
    {added : OpenRecord} {key : OpenKey} (opens : after.opens = others ++ added :: before.opens)
    (foreign : ∀ request ∈ others, request.key.protocol ≠ .pciRootBridgeIo)
    (rootBridge : key.protocol = .pciRootBridgeIo) :
    after.Holds key ↔ added.key = key ∨ before.Holds key := by
  unfold Machine.Holds
  rw [opens]
  constructor
  · rintro ⟨request, member, rfl⟩
    rcases List.mem_append.mp member with other | member
    · exact absurd rootBridge (foreign request other)
    · rcases List.mem_cons.mp member with rfl | member
      · exact Or.inl rfl
      · exact Or.inr ⟨request, member, rfl⟩
  · rintro (same | ⟨request, member, rfl⟩)
    · exact ⟨added, List.mem_append_right _ List.mem_cons_self, same⟩
    · exact ⟨request, List.mem_append_right _ (List.mem_cons_of_mem _ member), rfl⟩

theorem RootBridgeIoProtocolMapping.openedUnder_openWith {mapping : RootBridgeIoProtocolMapping}
    {binding : DriverBinding} {original : HostRootBridgeIo} {key : OpenKey}
    (bound : mapping.bindingProtocol = some binding) :
    (mapping.openWith original).OpenedUnder key ↔
      (rootBridgeIoOpen binding.driverBindingHandle mapping.controller).key = key := by
  simp [RootBridgeIoProtocolMapping.OpenedUnder, RootBridgeIoProtocolMapping.openWith, bound,
    eq_comm]

/-- Opening a mapping adds its record to those that are held. -/
theorem Tracked.openPass {entry : Addr} {before after : Machine} (tracked : Tracked before)
    (listed : entry ∈ before.rootBridgeIoProtocolList) (pass : OpenPass entry before after) :
    Tracked after := by
  cases pass with
  | idle toRegistry opens closes => exact tracked.of_same toRegistry opens closes
  | @opened binding _ others unopened bound list live mapping functions opens foreign closes =>
      have kept {other : Addr} (different : other ≠ entry) :
          after.mapping other = before.mapping other := by
        rw [mapping, Function.update_of_ne different]
      constructor
      · exact tracked.wellFormed.openPass
          (.opened unopened bound list live mapping functions opens foreign closes)
      · intro key rootBridge
        have here : (after.mapping entry).OpenedUnder key ↔ (rootBridgeIoOpen
            binding.driverBindingHandle (before.mapping entry).controller).key = key := by
          rw [mapping, Function.update_self, RootBridgeIoProtocolMapping.openedUnder_openWith bound]
        rw [Machine.holds_of_added opens foreign rootBridge, tracked.records key rootBridge, list]
        constructor
        · rintro (same | ⟨other, listed', opened⟩)
          · exact ⟨entry, listed, here.mpr same⟩
          · have different : other ≠ entry := by
              rintro rfl
              exact Bool.false_ne_true (unopened.symm.trans opened.1)
            exact ⟨other, listed', (kept different).symm ▸ opened⟩
        · rintro ⟨other, listed', opened⟩
          by_cases same : other = entry
          · rw [same] at opened
            exact Or.inl (here.mp opened)
          · exact Or.inr ⟨other, listed', kept same ▸ opened⟩
      · rw [closes]
        exact tracked.found

/-- The dump of a device opens and closes no root-bridge protocol. -/
theorem tracked_dumpDevice (lawful : Lawful platform) (this : DriverBinding)
    (controller device : EfiHandle) {state : Returned} (tracked : Tracked state.machine) :
    (dumpDevice platform this controller device state).Ensures (fun r => Tracked r.machine)
      (fun r => Tracked r.machine) := by
  let request : OpenRecord :=
    ⟨⟨some device, .pciIo, this.driverBindingHandle, some controller⟩, .getProtocol⟩
  unfold dumpDevice
  dsimp only
  split
  · next failed =>
      refine tracked.of_same rfl (Machine.opens_openProtocol_failed ?_) rfl
      intro success
      rw [Machine.status_openProtocol, success, efiError_efiSuccess] at failed
      cases failed
  · next failed =>
      have success : platform.openStatus state.machine request = efiSuccess :=
        (lawful.opens state.machine request).resolve_right failed
      have foreign {key : OpenKey} (rootBridge : key.protocol = .pciRootBridgeIo) :
          request.key ≠ key := by
        rintro rfl
        cases rootBridge
      have opened : Tracked (state.machine.openProtocol platform request).machine := by
        refine tracked.congr (Registry.Extends.refl _) ?_ fun _ failed => failed
        intro key rootBridge
        simp [holds_openProtocol success, foreign rootBridge]
      split
      · exact opened
      · have closed : Tracked ((state.machine.openProtocol platform request).machine.closeProtocol
            platform request.key).machine := by
          refine opened.congr (Registry.Extends.refl _) ?_ ?_
          · intro key rootBridge
            simp [holds_closeProtocol lawful (holds_opened success), (foreign rootBridge).symm]
          · simp [closeStatus_of_holds lawful (holds_opened success), efiNotFound_ne_efiSuccess]
        split
        · exact closed
        · exact closed

theorem tracked_start {indeterminate : EfiStatus} {this : DriverBinding} {controller : EfiHandle}
    {remainingDevicePath : Pointer} {r : Returned} (lawful : Lawful platform) (tracked : Tracked m)
    (run : pciBusDriverBindingStart platform indeterminate this controller remainingDevicePath m =
      .ok r) : Tracked r.machine := by
  refine start_invariant Tracked ?_ ?_ ?_ run
  · exact tracked.of_same (by simp) (by simp) (by simp)
  · exact fun _ _ _ listed tracked pass => tracked.openPass listed pass
  · intro before status dumped tracked dump
    refine dumpInstalledDevices_invariant Tracked
      (fun device _ tracked => tracked_dumpDevice lawful this controller device tracked) ?_ dump
    exact fun _ => tracked.of_same rfl rfl rfl

end Start

/-! ## Stop -/

section Stop

variable {platform : Platform} {this : DriverBinding} {controller : EfiHandle} {m : Machine}

/-- Substitutes that can be uninstalled let the pass go on. -/
theorem uninstallSubstitutes_of_withdraw {entry : Addr}
    (withdraw : SubstitutesWithdraw platform controller entry m) :
    ∃ after, uninstallSubstitutes platform controller entry m = .next after ∧
      SubstitutesGone controller m after.machine := by
  let withdrawn := uninstallResourceAllocationProtocol platform
    (m.mapping entry).substitutedProtocol.parentHandle (m.mapping entry).parent (m.touch entry)
  have first : withdrawn.status = efiSuccess := withdraw.1
  have second : (uninstallRootBridgeIoProtocolProtocol platform controller entry
    withdrawn.machine).status = efiSuccess := withdraw.2
  obtain ⟨after, pass⟩ : ∃ after,
      uninstallSubstitutes platform controller entry m = .next after := by
    simp only [uninstallSubstitutes, withdrawn, if_pos first, if_pos second]
    exact ⟨_, rfl⟩
  have gone := @uninstallSubstitutes_ends platform controller entry m
  rw [pass] at gone
  exact ⟨after, pass, gone⟩

/-- A pass whose closes succeed goes on to uninstall the substitutes. -/
theorem cleanupMapping_of_closed {entry : Addr} {original : HostRootBridgeIo} {state : Returned}
    (opened : (state.machine.mapping entry).originalProtocol = some original)
    (first : (state.machine.closeProtocol platform
      (rootBridgeIoOpen this.driverBindingHandle (some controller)).key).status = efiSuccess)
    (second : (((state.machine.closeProtocol platform
      (rootBridgeIoOpen this.driverBindingHandle (some controller)).key).machine.touch
        entry).closeProtocol platform (resourceAllocationOpen this.driverBindingHandle
          (some controller) original.parentHandle).key).status = efiSuccess) :
    cleanupMapping platform this controller entry state =
      uninstallSubstitutes platform controller entry
        (closedOriginals platform this controller entry original state.machine) := by
  simp only [cleanupMapping, if_pos first, Machine.toRegistry_closeProtocol, opened, if_pos second]
  rfl

/-- A pass that holds both records closes them and nothing else. -/
theorem cleanupMapping_of_held {entry : Addr} {original : HostRootBridgeIo} (state : Returned)
    (lawful : Lawful platform)
    (opened : (state.machine.mapping entry).originalProtocol = some original)
    (rootBridge : state.machine.Holds
      (rootBridgeIoOpen this.driverBindingHandle (some controller)).key)
    (allocation : state.machine.Holds (resourceAllocationOpen this.driverBindingHandle
      (some controller) original.parentHandle).key)
    (withdraw : SubstitutesWithdraw platform controller entry
      (closedOriginals platform this controller entry original state.machine)) :
    ∃ after, cleanupMapping platform this controller entry state = .next after ∧
      (∀ key, key.protocol = .pciRootBridgeIo → (after.machine.Holds key ↔
        state.machine.Holds key ∧
          key ≠ (rootBridgeIoOpen this.driverBindingHandle (some controller)).key)) ∧
      ∀ key, (key, efiNotFound) ∈ after.machine.closes →
        (key, efiNotFound) ∈ state.machine.closes := by
  let first := (rootBridgeIoOpen this.driverBindingHandle (some controller)).key
  let second := (resourceAllocationOpen this.driverBindingHandle (some controller)
    original.parentHandle).key
  let middle := (state.machine.closeProtocol platform first).machine.touch entry
  have middle_holds (key : OpenKey) : middle.Holds key ↔ state.machine.Holds key ∧ key ≠ first := by
    rw [← holds_closeProtocol lawful rootBridge]
    exact Machine.holds_congr (by rw [Machine.toHandleDatabase_touch]) key
  have different : second ≠ first := fun same => by cases (OpenKey.mk.inj same).2.1
  have held : middle.Holds second := (middle_holds second).mpr ⟨allocation, different⟩
  have closed₁ : platform.closeStatus state.machine first = efiSuccess :=
    closeStatus_of_holds lawful rootBridge
  have closed₂ : platform.closeStatus middle second = efiSuccess := closeStatus_of_holds lawful held
  obtain ⟨after, pass, gone⟩ := uninstallSubstitutes_of_withdraw withdraw
  refine ⟨after, (cleanupMapping_of_closed opened closed₁ closed₂).trans pass, ?_, ?_⟩
  · intro key rootBridge
    have foreign : key ≠ second := by
      rintro rfl
      cases rootBridge
    rw [Machine.holds_congr gone.opens, closedOriginals, holds_closeProtocol lawful held,
      middle_holds, and_iff_left foreign]
  · intro key failed
    rw [gone.closes, closedOriginals, Machine.closes_closeProtocol, closed₂,
      Machine.closes_touch, Machine.closes_closeProtocol, closed₁] at failed
    simpa [efiNotFound_ne_efiSuccess] using failed

/-- The cleanup of a single mapping gives back its record along with the mapping. -/
theorem tracked_cleanupDriver {indeterminate : EfiStatus} {entry : Addr}
    {original : HostRootBridgeIo} {r : Returned} (lawful : Lawful platform) (tracked : Tracked m)
    (single : m.rootBridgeIoProtocolList = [entry])
    (own : (m.mapping entry).OpenedUnder
      (rootBridgeIoOpen this.driverBindingHandle (some controller)).key)
    (opened : (m.mapping entry).originalProtocol = some original)
    (allocation : m.Holds (resourceAllocationOpen this.driverBindingHandle (some controller)
      original.parentHandle).key)
    (withdraw : SubstitutesWithdraw platform controller entry
      (closedOriginals platform this controller entry original m))
    (run : cleanupDriver platform indeterminate this controller m = .ok r) :
    Tracked r.machine := by
  have rootBridge := (tracked.records _ rfl).mpr ⟨entry, by simp [single], own⟩
  obtain ⟨after, pass, holds, closes⟩ := cleanupMapping_of_held ⟨indeterminate, m⟩ lawful
    opened rootBridge allocation withdraw
  have loop : forEach (cleanupMapping platform this controller) [entry] ⟨indeterminate, m⟩ =
      .next after :=
    forEach_cons_next pass
  simp only [cleanupDriver, single, loop] at run
  cases run
  constructor
  · exact Registry.wellFormed_of_empty rfl
  · intro key rootBridge
    refine iff_of_false ?_ (by simp)
    intro held
    obtain ⟨older, different⟩ := (holds key rootBridge).mp held
    obtain ⟨other, listed, opened⟩ := (tracked.records key rootBridge).mp older
    rw [single, List.mem_singleton] at listed
    rw [listed] at opened
    exact different (opened.unique own)
  · exact fun key failed => tracked.found key (closes key failed)

theorem tracked_stop {indeterminate : EfiStatus} {numberOfChildren : Nat}
    {childHandleBuffer : List EfiHandle} {r : Returned} (lawful : Lawful platform)
    (tracked : Tracked m)
    (keeps : KeepsRecords platform (.stop this controller numberOfChildren childHandleBuffer) m)
    (run : pciBusDriverBindingStop platform indeterminate this controller numberOfChildren
      childHandleBuffer m = .ok r) : Tracked r.machine := by
  obtain ⟨binding, status, cached, asked, ⟨_, rfl⟩ | ⟨stopped, cleanup⟩⟩ := stop_cases run
  · exact tracked.of_same rfl rfl rfl
  · have tracked' : Tracked (m.record (.stopped controller efiSuccess)) :=
      tracked.of_same rfl rfl rfl
    rcases keeps binding cached (asked.trans stopped) with
      empty | ⟨entry, original, single, own, found, held, withdraw⟩
    · obtain ⟨toRegistry, toHandleDatabase, closes⟩ := cleanupDriver_of_empty
        (m := m.record (.stopped controller efiSuccess)) empty cleanup
      exact tracked'.of_same toRegistry (by rw [toHandleDatabase]) closes
    · exact tracked_cleanupDriver lawful tracked' single own found held withdraw cleanup

end Stop

/-! ## Runs -/

/-- The runs that the law of open records admits. -/
def AdmitsLawful (platform : Platform) (_ : Call) (_ : Machine) : Prop :=
  Lawful platform

/-- The runs that close no record of a mapping that stays open. -/
def AdmitsKeeping (platform : Platform) (call : Call) (m : Machine) : Prop :=
  Lawful platform ∧ KeepsRecords platform call m

theorem tracked_of_reachable {m : Machine} (reached : ReachableBy AdmitsKeeping m) : Tracked m := by
  refine reached.invariant Tracked tracked_pciDxeShimMain ?_
  rintro platform indeterminate call m r tracked ⟨lawful, keeps⟩ run
  cases call with
  | supported this controller remainingDevicePath =>
      exact (tracked_supported lawful tracked keeps run).1
  | start this controller remainingDevicePath => exact tracked_start lawful tracked run
  | stop this controller numberOfChildren childHandleBuffer =>
      exact tracked_stop lawful tracked keeps run

/-- In every run of calls that keep the records, these follow the registry. -/
theorem records_follow_registry {m : Machine} (reached : ReachableBy AdmitsKeeping m) :
    RecordsFollow AdmitsKeeping m := by
  have tracked := tracked_of_reachable reached
  refine ⟨tracked.held, tracked.found, ?_⟩
  rintro platform this controller remainingDevicePath r ⟨lawful, keeps⟩ run
  exact (tracked_supported lawful tracked keeps run).2

theorem lawful_cooperative : Lawful cooperative where
  opens := fun _ _ => Or.inl rfl
  closes := fun _ _ => rfl

theorem reachableBy_lawful : ReachableBy AdmitsLawful startedMachine :=
  reachableBy_startedMachine lawful_cooperative lawful_cooperative lawful_cooperative

theorem records_follow_registry_started : RecordsFollow AdmitsKeeping startedMachine := by
  refine records_follow_registry (reachableBy_startedMachine ⟨lawful_cooperative, ?_⟩
    ⟨lawful_cooperative, ?_⟩ ⟨lawful_cooperative, trivial⟩)
  · exact fun located => absurd rfl located
  · exact fun _ _ entry listed => absurd listed List.not_mem_nil

/-- A `Supported` after `Start` closes the record of the open mapping along with its probe. -/
theorem probe_closes_open_mapping :
    ¬ ∀ m, ReachableBy AdmitsLawful m → RecordsFollow AdmitsLawful m := by
  intro holds
  obtain ⟨imageHandle, gPciBusDriverBinding, reached⟩ := reachableBy_lawful
  have follow := holds (afterCall (.supported shimBinding 5 0) startedMachine)
    ⟨imageHandle, gPciBusDriverBinding,
      reached.step ⟨cooperative, 0, .supported shimBinding 5 0, efiSuccess, lawful_cooperative,
        rfl⟩⟩
  obtain ⟨request, member, rootBridge, _⟩ := (follow.held 5).mpr ⟨1, by decide, rfl, rfl⟩
  have others : ∀ request ∈ (afterCall (.supported shimBinding 5 0) startedMachine).opens,
      request.key.protocol ≠ .pciRootBridgeIo := by
    decide
  exact others request member rootBridge

end Thundermod.Shim
