import Thundermod.Shim.WellFormed

/-!
# What `Start` can do

One pass of `openBaseProtocols` leaves a mapping alone or records its original;
what is preserved by every pass is preserved by `Start`.
-/

namespace Thundermod.Shim

open Control

variable {platform : Platform} {m : Machine}

/-! ## One pass of the loop -/

/-- What a pass of `openBaseProtocols` can do to the machine. -/
inductive OpenPass (entry : Addr) (before after : Machine) : Prop
  | idle (toRegistry : after.toRegistry = before.toRegistry) (opens : after.opens = before.opens)
      (closes : after.closes = before.closes)
  | opened {binding : DriverBinding} {original : HostRootBridgeIo} {others : List OpenRecord}
      (unopened : (before.mapping entry).isOpen = false)
      (bound : (before.mapping entry).bindingProtocol = some binding)
      (list : after.rootBridgeIoProtocolList = before.rootBridgeIoProtocolList)
      (live : after.live = before.live)
      (mapping : after.mapping =
        Function.update before.mapping entry ((before.mapping entry).openWith original))
      (functions : ∀ block, (after.resourceAllocation block).substitutedProtocol =
        (before.resourceAllocation block).substitutedProtocol)
      (opens : after.opens = others ++
        rootBridgeIoOpen binding.driverBindingHandle (before.mapping entry).controller ::
          before.opens)
      (foreign : ∀ request ∈ others, request.key.protocol ≠ .pciRootBridgeIo)
      (closes : after.closes = before.closes)

theorem OpenPass.same_list {entry : Addr} {before after : Machine}
    (pass : OpenPass entry before after) :
    after.rootBridgeIoProtocolList = before.rootBridgeIoProtocolList := by
  cases pass with
  | idle toRegistry _ _ => rw [toRegistry]
  | opened _ _ list _ _ _ _ _ _ => exact list

theorem OpenPass.same_live {entry : Addr} {before after : Machine}
    (pass : OpenPass entry before after) : after.live = before.live := by
  cases pass with
  | idle toRegistry _ _ => rw [toRegistry]
  | opened _ _ _ live _ _ _ _ _ => exact live

theorem OpenPass.congr {entry : Addr} {before before' after : Machine}
    (pass : OpenPass entry before' after) (toRegistry : before'.toRegistry = before.toRegistry)
    (opens : before'.opens = before.opens) (closes : before'.closes = before.closes) :
    OpenPass entry before after := by
  cases pass with
  | idle same sameOpens sameCloses =>
      exact .idle (same.trans toRegistry) (sameOpens.trans opens) (sameCloses.trans closes)
  | opened unopened bound list live mapping functions added foreign sameCloses =>
      rw [toRegistry] at unopened bound list live mapping added
      rw [opens] at added
      refine .opened unopened bound list live mapping ?_ added foreign (sameCloses.trans closes)
      intro block
      rw [functions block, toRegistry]

/-- The second open of a pass, which is not of a root-bridge protocol. -/
structure ParentOpen (before after : Machine) : Prop where
  list : after.rootBridgeIoProtocolList = before.rootBridgeIoProtocolList
  live : after.live = before.live
  mapping : after.mapping = before.mapping
  functions : ∀ block, (after.resourceAllocation block).substitutedProtocol =
    (before.resourceAllocation block).substitutedProtocol
  opens : ∃ others, after.opens = others ++ before.opens ∧
    ∀ request ∈ others, request.key.protocol ≠ .pciRootBridgeIo
  closes : after.closes = before.closes

theorem openResourceAllocation_cases (binding : DriverBinding)
    (mapping : RootBridgeIoProtocolMapping) (original : HostRootBridgeIo) :
    (openResourceAllocation platform binding mapping original m).Ensures
      (fun r => ParentOpen m r.machine) (fun r => ParentOpen m r.machine) := by
  unfold openResourceAllocation
  by_cases success : (m.openProtocol platform (resourceAllocationOpen binding.driverBindingHandle
      mapping.controller original.parentHandle)).status = efiSuccess
  · simp only [if_pos success]
    cases mapping.parent with
    | none => trivial
    | some parent =>
        constructor
        · simp
        · simp
        · simp
        · intro block
          by_cases same : block = parent
          · subst same
            simp [Machine.resourceAllocation_modifyResourceAllocation]
          · simp [Machine.resourceAllocation_modifyResourceAllocation_of_ne same]
        · refine ⟨[resourceAllocationOpen binding.driverBindingHandle mapping.controller
            original.parentHandle], ?_, by simp [resourceAllocationOpen]⟩
          simpa using Machine.opens_openProtocol success
        · simp
  · simp only [if_neg success]
    exact ⟨rfl, rfl, rfl, fun _ => rfl,
      ⟨[], Machine.opens_openProtocol_failed success, by simp⟩, rfl⟩

theorem openOriginals_cases {entry : Addr} {binding : DriverBinding}
    (unopened : (m.mapping entry).isOpen = false)
    (bound : (m.mapping entry).bindingProtocol = some binding) :
    (openOriginals platform entry binding m).Ensures (fun r => OpenPass entry m r.machine)
      (fun r => OpenPass entry m r.machine) := by
  by_cases success : (m.openProtocol platform (rootBridgeIoOpen binding.driverBindingHandle
      (m.mapping entry).controller)).status = efiSuccess
  · simp only [openOriginals, if_pos success]
    have opens : (m.openProtocol platform (rootBridgeIoOpen binding.driverBindingHandle
        (m.mapping entry).controller)).machine.opens = rootBridgeIoOpen
          binding.driverBindingHandle (m.mapping entry).controller :: m.opens :=
      Machine.opens_openProtocol success
    refine (openResourceAllocation_cases binding _ _).imp ?_ ?_
    all_goals
      intro r parentOpen
      obtain ⟨others, added, foreign⟩ := parentOpen.opens
      exact .opened unopened bound parentOpen.list parentOpen.live parentOpen.mapping
        parentOpen.functions (added.trans (congrArg (others ++ ·) opens)) foreign parentOpen.closes
  · simp only [openOriginals, if_neg success]
    exact .idle rfl (Machine.opens_openProtocol_failed success) rfl

theorem openMapping_cases (entry : Addr) (state : Returned) :
    (openMapping platform entry state).Ensures (fun r => OpenPass entry state.machine r.machine)
      (fun r => OpenPass entry state.machine r.machine) := by
  cases unopened : (state.machine.mapping entry).isOpen with
  | true =>
      simp only [openMapping, Machine.toRegistry_touch, unopened, if_true]
      exact .idle (by simp) (by simp) (by simp)
  | false =>
      cases bound : (state.machine.mapping entry).bindingProtocol with
      | none =>
          simp only [openMapping, Machine.toRegistry_touch, unopened, bound, Bool.false_eq_true,
            if_false]
          trivial
      | some binding =>
          simp only [openMapping, Machine.toRegistry_touch, unopened, bound, Bool.false_eq_true,
            if_false]
          refine (openOriginals_cases (m := state.machine.touch entry) (by simpa using unopened)
            (by simpa using bound)).imp ?_ ?_
          all_goals
            intro r pass
            exact pass.congr (by simp) (by simp) (by simp)

/-! ## The loop and its callers -/

/-- What every pass preserves `openBaseProtocols` preserves. -/
theorem openBaseProtocols_invariant {invariant : Machine → Prop} {indeterminate : EfiStatus}
    {r : Returned}
    (pass : ∀ entry before after, entry ∈ before.rootBridgeIoProtocolList → invariant before →
      OpenPass entry before after → invariant after)
    (start : invariant m) (run : openBaseProtocols platform indeterminate m = .ok r) :
    invariant r.machine := by
  let Inside (rest : List Addr) (state : Returned) : Prop :=
    (∀ entry ∈ rest, entry ∈ state.machine.rootBridgeIoProtocolList) ∧ invariant state.machine
  have one (entry : Addr) (rest : List Addr) (state : Returned)
      (inside : Inside (entry :: rest) state) :
      (openMapping platform entry state).Ensures (Inside rest) (fun r => invariant r.machine) := by
    obtain ⟨listed, holds⟩ := inside
    have first := listed entry List.mem_cons_self
    refine (openMapping_cases entry state).imp ?_ ?_
    · intro after passed
      refine ⟨?_, pass entry _ _ first holds passed⟩
      intro other member
      rw [passed.same_list]
      exact listed other (List.mem_cons_of_mem _ member)
    · exact fun after passed => pass entry _ _ first holds passed
  have loop := forEach_ensures Inside (fun r : Returned => invariant r.machine) one
    m.rootBridgeIoProtocolList ⟨indeterminate, m⟩ ⟨fun _ listed => listed, start⟩
  unfold openBaseProtocols at run
  cases outcome : forEach (openMapping platform) m.rootBridgeIoProtocolList ⟨indeterminate, m⟩ with
  | fault fault =>
      rw [outcome] at run
      cases run
  | next state =>
      rw [outcome] at run loop
      cases run
      exact loop.2
  | leave result =>
      rw [outcome] at run loop
      cases run
      exact loop

/-- What every device's dump preserves the whole dump preserves. -/
theorem dumpInstalledDevices_invariant (invariant : Machine → Prop) {this : DriverBinding}
    {controller : EfiHandle} {r : Returned}
    (device : ∀ device state, invariant state.machine →
      (dumpDevice platform this controller device state).Ensures (fun r => invariant r.machine)
        (fun r => invariant r.machine))
    (start : ∀ status, invariant (m.record (.enumerated status)))
    (run : dumpInstalledDevices platform this controller m = .ok r) : invariant r.machine := by
  have loop := forEach_ensures (fun _ (r : Returned) => invariant r.machine)
    (fun r : Returned => invariant r.machine) (fun item _ state holds => device item state holds)
    (platform.locateHandleBuffer m).2
    ⟨(platform.locateHandleBuffer m).1, m.record (.enumerated (platform.locateHandleBuffer m).1)⟩
    (start _)
  unfold dumpInstalledDevices at run
  dsimp only at run
  split at run
  · cases run
    exact start _
  · split at run
    · cases run
    · next state outcome =>
        rw [outcome] at loop
        cases run
        exact loop
    · next result outcome =>
        rw [outcome] at loop
        cases run
        exact loop

theorem toRegistry_dumpInstalledDevices {this : DriverBinding} {controller : EfiHandle}
    {r : Returned} (run : dumpInstalledDevices platform this controller m = .ok r) :
    r.machine.toRegistry = m.toRegistry := by
  refine dumpInstalledDevices_invariant (fun after => after.toRegistry = m.toRegistry) ?_
    (fun _ => rfl) run
  intro device state same
  unfold dumpDevice
  dsimp only
  split
  · exact same
  · split
    · exact same
    · split <;> exact same

/-- A `Start` that returns has opened the protocols, and has started and dumped if that succeeded. -/
theorem start_cases {indeterminate : EfiStatus} {this : DriverBinding} {controller : EfiHandle}
    {remainingDevicePath : Pointer} {r : Returned}
    (run : pciBusDriverBindingStart platform indeterminate this controller remainingDevicePath m =
      .ok r) :
    ∃ opened, openBaseProtocols platform indeterminate (findDriverBindingProtocol platform m).2 =
        .ok opened ∧
      ((opened.status ≠ efiSuccess ∧ r = opened) ∨
        (opened.status = efiSuccess ∧ ∃ original status dumped,
          (findDriverBindingProtocol platform m).1 = some original ∧
          platform.startStatus opened.machine original original controller remainingDevicePath =
            status ∧
          dumpInstalledDevices platform this controller
            (opened.machine.record (.started controller status)) = .ok dumped ∧
          r = { dumped with status := status })) := by
  unfold pciBusDriverBindingStart at run
  dsimp only at run
  split at run
  · cases run
  · next opened opening =>
      refine ⟨opened, opening, ?_⟩
      split at run
      · next success =>
          split at run
          · cases run
          · next original found =>
              split at run
              · cases run
              · next dumped dump =>
                  cases run
                  exact Or.inr ⟨success, original, _, dumped, found, rfl, dump, rfl⟩
      · next failed =>
          cases run
          exact Or.inl ⟨failed, rfl⟩

/-- What the lookup, every pass and the dump preserve `Start` preserves. -/
theorem start_invariant (invariant : Machine → Prop) {indeterminate : EfiStatus}
    {this : DriverBinding} {controller : EfiHandle} {remainingDevicePath : Pointer} {r : Returned}
    (located : invariant (findDriverBindingProtocol platform m).2)
    (pass : ∀ entry before after, entry ∈ before.rootBridgeIoProtocolList → invariant before →
      OpenPass entry before after → invariant after)
    (dump : ∀ before status dumped, invariant before →
      dumpInstalledDevices platform this controller (before.record (.started controller status)) =
        .ok dumped → invariant dumped.machine)
    (run : pciBusDriverBindingStart platform indeterminate this controller remainingDevicePath m =
      .ok r) : invariant r.machine := by
  obtain ⟨opened, opening, outcome⟩ := start_cases run
  have holds := openBaseProtocols_invariant pass located opening
  rcases outcome with ⟨_, rfl⟩ | ⟨_, original, status, dumped, _, _, dumping, rfl⟩
  · exact holds
  · exact dump opened.machine status dumped holds dumping

/-! ## Well-formed registries -/

theorem Registry.WellFormed.openPass {entry : Addr} {before after : Machine}
    (wellFormed : before.toRegistry.WellFormed) (pass : OpenPass entry before after) :
    after.toRegistry.WellFormed := by
  cases pass with
  | idle toRegistry _ _ => exact toRegistry ▸ wellFormed
  | @opened binding original _ _ _ list live mapping functions _ _ _ =>
      have kept (block : Addr) :
          (after.mapping block).parent = (before.mapping block).parent ∧
          (after.mapping block).bindingProtocol = (before.mapping block).bindingProtocol := by
        rw [mapping]
        by_cases same : block = entry
        · subst same
          simp [RootBridgeIoProtocolMapping.openWith]
        · simp [Function.update_of_ne same]
      have hooked (block : Addr)
          (functions : substituteRootBridgeIo (before.mapping block).substitutedProtocol =
            (before.mapping block).substitutedProtocol) :
          substituteRootBridgeIo (after.mapping block).substitutedProtocol =
            (after.mapping block).substitutedProtocol := by
        rw [mapping]
        by_cases same : block = entry
        · subst same
          rw [Function.update_self]
          exact congrArg (fun protocol => { protocol with segmentNumber := original.segmentNumber })
            functions
        · rwa [Function.update_of_ne same]
      constructor
      · intro other listed
        rw [list] at listed
        obtain ⟨parent, complete⟩ := wellFormed.complete other listed
        refine ⟨parent, live ▸ complete.live, live ▸ complete.parent_live,
          (kept other).1.trans complete.has_parent, ?_, hooked other complete.functions, ?_⟩
        · rw [(kept other).2]
          exact complete.bindingProtocol
        · rw [functions, complete.parent_functions]
      · intro first listed second listed' same
        rw [list] at listed listed'
        rw [(kept first).1, (kept second).1] at same
        exact wellFormed.parents first listed second listed' same

theorem wellFormed_start {indeterminate : EfiStatus} {this : DriverBinding} {controller : EfiHandle}
    {remainingDevicePath : Pointer} {r : Returned} (wellFormed : m.toRegistry.WellFormed)
    (run : pciBusDriverBindingStart platform indeterminate this controller remainingDevicePath m =
      .ok r) : r.machine.toRegistry.WellFormed := by
  refine start_invariant (fun m => m.toRegistry.WellFormed) ?_ ?_ ?_ run
  · simpa using wellFormed
  · exact fun _ _ _ _ wellFormed pass => wellFormed.openPass pass
  · intro before status dumped wellFormed dump
    rw [toRegistry_dumpInstalledDevices dump]
    exact wellFormed

end Thundermod.Shim
