import Thundermod.Shim.Interfaces

/-!
# Installed substitutes are complete

A driver that finds a substitute in the handle database may call any of its functions at
once.  Whatever calls are made, every installed substitute holds the shim's functions in
all of its entries, and the data of an opened one is that of its original.
-/

namespace Thundermod.Shim

open Control

/-- A mapping whose substitute can be called, and whose data agrees with its original. -/
structure RootBridgeIoProtocolMapping.Consistent (mapping : RootBridgeIoProtocolMapping) :
    Prop where
  functions : substituteRootBridgeIo mapping.substitutedProtocol = mapping.substitutedProtocol
  isOpen : mapping.isOpen = mapping.originalProtocol.isSome
  segmentNumber : ∀ original, mapping.originalProtocol = some original →
    mapping.substitutedProtocol.segmentNumber = original.segmentNumber

namespace RootBridgeIoProtocolMapping.Consistent

variable {mapping : RootBridgeIoProtocolMapping}

theorem openWith (consistent : mapping.Consistent) (original : HostRootBridgeIo) :
    (mapping.openWith original).Consistent where
  functions := congrArg (fun protocol => { protocol with segmentNumber := original.segmentNumber })
    consistent.functions
  isOpen := rfl
  segmentNumber := by
    rintro _ ⟨⟩
    rfl

theorem adopt (consistent : mapping.Consistent) (parentHandle : Option EfiHandle) (parent : Addr) :
    (mapping.adopt parentHandle parent).Consistent where
  functions := congrArg (fun protocol => { protocol with parentHandle := parentHandle })
    consistent.functions
  isOpen := consistent.isOpen
  segmentNumber := consistent.segmentNumber

end RootBridgeIoProtocolMapping.Consistent

/-- What a driver can rely on when it finds an interface on a handle. -/
def Registry.Callable (registry : Registry) (handle : EfiHandle) : Interface → Prop
  | .rootBridgeIo block =>
      (registry.mapping block).Consistent ∧ (registry.mapping block).controller = some handle
  | .resourceAllocation none => True
  | .resourceAllocation (some block) =>
      substituteResourceAllocation (registry.resourceAllocation block).substitutedProtocol =
        (registry.resourceAllocation block).substitutedProtocol

/-- Only the block of the interface matters, and of a parent only its functions. -/
theorem Registry.Callable.congr {before after : Registry} {handle : EfiHandle}
    {interface : Interface} (callable : before.Callable handle interface)
    (mapping : ∀ block, interface.block = some block → after.mapping block = before.mapping block)
    (functions : ∀ block, interface.block = some block →
      (after.resourceAllocation block).substitutedProtocol =
        (before.resourceAllocation block).substitutedProtocol) :
    after.Callable handle interface := by
  cases interface with
  | rootBridgeIo block =>
      simp only [Registry.Callable, mapping block rfl]
      exact callable
  | resourceAllocation block =>
      cases block with
      | none => trivial
      | some block =>
          simp only [Registry.Callable, functions block rfl]
          exact callable

/-- Every installed substitute can be called. -/
def Machine.InstalledCallable (m : Machine) : Prop :=
  ∀ handle interface, (handle, interface) ∈ m.installed → m.toRegistry.Callable handle interface

section Steps

variable {platform : Platform} {before after m : Machine} {entry : Addr}

/-- A change of mappings that keeps them consistent and on their controllers. -/
theorem callable_modifyMapping
    {change : RootBridgeIoProtocolMapping → RootBridgeIoProtocolMapping}
    (keeps : ∀ mapping : RootBridgeIoProtocolMapping, mapping.Consistent →
      (change mapping).Consistent ∧ (change mapping).controller = mapping.controller)
    (callable : m.InstalledCallable) : (m.modifyMapping entry change).InstalledCallable := by
  intro handle interface member
  have older : m.toRegistry.Callable handle interface := callable handle interface member
  cases interface with
  | resourceAllocation block =>
      cases block with
      | none => trivial
      | some block => exact older
  | rootBridgeIo block =>
      obtain ⟨consistent, controller⟩ := older
      by_cases same : block = entry
      · subst same
        have kept := keeps (m.mapping block) consistent
        simp only [Registry.Callable, Machine.mapping_modifyMapping]
        exact ⟨kept.1, kept.2.trans controller⟩
      · simp only [Registry.Callable, Machine.mapping_modifyMapping_of_ne same]
        exact ⟨consistent, controller⟩

theorem callable_modifyResourceAllocation {parent : Addr} {original : HostResourceAllocation}
    (callable : m.InstalledCallable) :
    (m.modifyResourceAllocation parent fun allocation =>
      { allocation with originalProtocol := some original }).InstalledCallable := by
  intro handle interface member
  refine (callable handle interface member).congr (fun _ _ => rfl) ?_
  intro block _
  by_cases same : block = parent
  · subst same
    rw [Machine.resourceAllocation_modifyResourceAllocation]
  · rw [Machine.resourceAllocation_modifyResourceAllocation_of_ne same]

/-- An interface that was installed before has a live block, so not that of a new one. -/
theorem block_ne_of_installed {block new : Addr} {handle : EfiHandle} {interface : Interface}
    (sound : m.ledger.Sound) (member : (handle, interface) ∈ m.installed)
    (lies : interface.block = some block) (free : new ∉ m.live) : block ≠ new := by
  rintro rfl
  exact free (sound.held_of_published (List.mem_filterMap.mpr ⟨_, member, lies⟩))

theorem callable_opening (callable : before.InstalledCallable)
    (step : OpeningStep platform before after) : after.InstalledCallable := by
  cases step with
  | located =>
      intro handle interface member
      rw [toHandleDatabase_findDriverBindingProtocol] at member
      rw [toRegistry_findDriverBindingProtocol]
      exact callable handle interface member
  | answered _ => exact callable
  | touched =>
      intro handle interface member
      rw [Machine.toHandleDatabase_touch] at member
      rw [Machine.toRegistry_touch]
      exact callable handle interface member
  | opened => exact callable
  | closed => exact callable
  | recorded _ =>
      exact callable_modifyMapping (fun _ consistent => ⟨consistent.openWith _, rfl⟩) callable
  | parentRecorded => exact callable_modifyResourceAllocation callable

/-- The contents of a new mapping. -/
theorem consistent_installNewMapping (this : DriverBinding) (controller : EfiHandle)
    (m : Machine) :
    ((installNewMapping platform this controller entry m).machine.mapping entry).Consistent := by
  have new := newMapping_installNewMapping platform this controller entry m
  constructor
  · exact new.functions
  · rw [new.isOpen, new.originalProtocol]
    rfl
  · intro original recorded
    rw [new.originalProtocol] at recorded
    cases recorded

theorem callable_installNewMapping {this : DriverBinding} {controller : EfiHandle}
    (sound : m.ledger.Sound) (callable : m.InstalledCallable) (free : entry ∉ m.live) :
    (installNewMapping platform this controller entry m).machine.InstalledCallable := by
  intro handle interface member
  rcases installed_of_install (m := m.withNewMapping this controller entry) member with
    same | older
  · cases same
    exact ⟨consistent_installNewMapping this controller m,
      (newMapping_installNewMapping platform this controller entry m).controller⟩
  · have apart (block : Addr) (lies : interface.block = some block) : block ≠ entry :=
      block_ne_of_installed sound older lies free
    refine (callable handle interface older).congr ?_ ?_
    · exact fun block lies =>
        mapping_installNewMapping_of_ne platform this controller m (apart block lies)
    · intro block lies
      rw [resourceAllocation_installNewMapping_of_ne platform this controller m (apart block lies)]

theorem callable_installNewResourceAllocation {parent : Addr} (sound : m.ledger.Sound)
    (callable : m.InstalledCallable) (free : parent ∉ m.live) :
    (installNewResourceAllocation platform entry parent m).machine.InstalledCallable := by
  let handle := (m.mapping entry).substitutedProtocol.parentHandle
  let installed := ((m.withNewResourceAllocation parent).installMultipleProtocolInterfaces platform
    handle (.resourceAllocation (some parent))).1.machine
  -- Adopting the parent only changes fields that no driver relies on.
  have adopting : installed.InstalledCallable →
      (installNewResourceAllocation platform entry parent m).machine.InstalledCallable :=
    callable_modifyMapping fun _ consistent => ⟨consistent.adopt _ _, rfl⟩
  have new := resourceAllocation_installNewResourceAllocation platform entry parent m
  have old := fun block => @resourceAllocation_installNewResourceAllocation_of_ne platform entry m
    parent block
  refine adopting ?_
  intro handle interface member
  rcases installed_of_install (m := m.withNewResourceAllocation parent) member with same | older
  · cases same
    change substituteResourceAllocation (installed.resourceAllocation parent).substitutedProtocol =
      (installed.resourceAllocation parent).substitutedProtocol
    have contents : installed.resourceAllocation parent =
        { substitutedProtocol := substituteResourceAllocation {} } := new
    rw [contents]
    rfl
  · have apart (block : Addr) (lies : interface.block = some block) : block ≠ parent :=
      block_ne_of_installed sound older lies free
    refine (callable handle interface older).congr ?_ ?_
    · exact fun block lies => mapping_withNewResourceAllocation_of_ne m (apart block lies)
    · exact fun block lies => congrArg ResourceAllocationProtocolMapping.substitutedProtocol
        (old block (apart block lies))

/-- Every primitive step leaves all installed substitutes callable. -/
theorem callable_primitive (sound : before.ledger.Sound) (callable : before.InstalledCallable)
    (step : Primitive platform before after) : after.InstalledCallable := by
  cases step with
  | opening step => exact callable_opening callable step
  | mapped free => exact callable_installNewMapping sound callable free
  | allocated free => exact callable_installNewResourceAllocation sound callable free
  | @inserted entry parent =>
      have kept : (before.modifyMapping entry fun mapping =>
          { mapping with parent := some parent, link := true }).InstalledCallable :=
        callable_modifyMapping (fun _ consistent => ⟨⟨consistent.functions, consistent.isOpen,
          consistent.segmentNumber⟩, rfl⟩) callable
      exact kept
  | uninstalled =>
      intro handle interface member
      refine (callable handle interface (installed_of_uninstallAndFree member)).congr ?_ ?_
      · exact fun block _ => congrFun (mapping_uninstallAndFree ..) block
      · intro block _
        rw [resourceAllocation_uninstallAndFree]
  | emptied => exact callable

end Steps

/--
Whatever is hooked, started and stopped, and however the calls end, a substitute that is
installed holds a function of the shim in every entry; a substitute root bridge is on its
own controller, and is open exactly when it has an original, whose segment it shows.
-/
theorem installed_substitutes_complete {m : Machine} (reached : ReachableBy Uninstalls m) :
    m.InstalledCallable := by
  refine (reached.primitive_invariant (fun m => m.ledger.Sound ∧ m.InstalledCallable) ?_ ?_).2
  · exact fun _ _ => ⟨⟨List.nodup_nil, .refl _, rfl⟩, fun _ _ member => nomatch member⟩
  · rintro platform ⟨_, _, uninstalls⟩ before after ⟨sound, callable⟩ step
    exact ⟨sound.step (ledger_primitive uninstalls sound step),
      callable_primitive sound callable step⟩

theorem installed_substitutes_complete_rehooked : rehookedMachine.InstalledCallable :=
  installed_substitutes_complete (reachableBy_rehookedMachine fun _ _ => uninstallsInstalled_strict)

end Thundermod.Shim
