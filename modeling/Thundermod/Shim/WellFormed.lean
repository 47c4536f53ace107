import Thundermod.Shim.Hooking

/-!
# Well-formed registries

As long as nothing is torn down, every listed mapping and its parent are live,
no two mappings share a parent, and both substitutes hold the shim's functions.
-/

namespace Thundermod.Shim

open Control

/-- A complete mapping with its parent. -/
structure Registry.Complete (registry : Registry) (entry parent : Addr) : Prop where
  live : entry ∈ registry.live
  parent_live : parent ∈ registry.live
  has_parent : (registry.mapping entry).parent = some parent
  bindingProtocol : (registry.mapping entry).bindingProtocol ≠ none
  functions : substituteRootBridgeIo (registry.mapping entry).substitutedProtocol =
    (registry.mapping entry).substitutedProtocol
  parent_functions :
    substituteResourceAllocation (registry.resourceAllocation parent).substitutedProtocol =
      (registry.resourceAllocation parent).substitutedProtocol

structure Registry.WellFormed (registry : Registry) : Prop where
  complete : ∀ entry ∈ registry.rootBridgeIoProtocolList, ∃ parent, registry.Complete entry parent
  parents : ∀ entry ∈ registry.rootBridgeIoProtocolList,
    ∀ other ∈ registry.rootBridgeIoProtocolList,
      (registry.mapping entry).parent = (registry.mapping other).parent → entry = other

theorem Registry.wellFormed_of_empty {registry : Registry}
    (empty : registry.rootBridgeIoProtocolList = []) : registry.WellFormed where
  complete := by simp [empty]
  parents := by simp [empty]

theorem Registry.WellFormed.live {registry : Registry} {entry : Addr}
    (wellFormed : registry.WellFormed) (listed : entry ∈ registry.rootBridgeIoProtocolList) :
    entry ∈ registry.live := by
  obtain ⟨parent, complete⟩ := wellFormed.complete entry listed
  exact complete.live

/-! ## Supported -/

theorem Registry.Complete.extends {before after : Registry} {entry parent : Addr}
    (complete : before.Complete entry parent) (extension : before.Extends after) :
    after.Complete entry parent := by
  have same := extension.mapping entry complete.live
  have same' := extension.resourceAllocation parent complete.parent_live
  constructor
  · exact extension.live entry complete.live
  · exact extension.live parent complete.parent_live
  · rw [same, complete.has_parent]
  · rw [same]
    exact complete.bindingProtocol
  · rw [same, complete.functions]
  · rw [same', complete.parent_functions]

theorem Registry.WellFormed.extends {before after : Registry} (wellFormed : before.WellFormed)
    (extension : before.Extends after) : after.WellFormed := by
  constructor
  · intro entry listed
    rw [extension.list] at listed
    obtain ⟨parent, complete⟩ := wellFormed.complete entry listed
    exact ⟨parent, complete.extends extension⟩
  · intro entry listed other listed' same
    rw [extension.list] at listed listed'
    rw [extension.mapping entry (wellFormed.live listed),
      extension.mapping other (wellFormed.live listed')] at same
    exact wellFormed.parents entry listed other listed' same

section Hooked

variable {this : DriverBinding} {controller : EfiHandle} {before after : Machine}
  {entry parent : Addr}

/-- Apart from the list, hooking a controller only adds to the registry. -/
theorem Hooked.extends (hooked : Hooked this controller before after entry parent) :
    before.toRegistry.Extends
      { after.toRegistry with rootBridgeIoProtocolList := before.rootBridgeIoProtocolList } where
  list := rfl
  live := fun block member => by
    rw [hooked.live]
    exact List.mem_cons_of_mem _ (List.mem_cons_of_mem _ member)
  mapping := fun block member =>
    hooked.mapping_other block (fun same => hooked.entry_new (same ▸ member))
      fun same => hooked.parent_new (List.mem_cons_of_mem _ (same ▸ member))
  resourceAllocation := fun block member =>
    hooked.resourceAllocation_other block (fun same => hooked.entry_new (same ▸ member))
      fun same => hooked.parent_new (List.mem_cons_of_mem _ (same ▸ member))

/-- The mapping that has been hooked is complete. -/
theorem Hooked.complete (hooked : Hooked this controller before after entry parent) :
    after.toRegistry.Complete entry parent := by
  constructor
  · simp [hooked.live]
  · simp [hooked.live]
  · exact hooked.mapping_parent
  · simp [hooked.mapping.bindingProtocol]
  · exact hooked.mapping.functions
  · rw [hooked.resourceAllocation]
    rfl

/-- The blocks that are listed are live, so that of a new mapping is not among them. -/
theorem Registry.WellFormed.list_hooked (wellFormed : before.toRegistry.WellFormed)
    (hooked : Hooked this controller before after entry parent) :
    after.rootBridgeIoProtocolList = before.rootBridgeIoProtocolList ++ [entry] :=
  hooked.list_of_unlisted fun listed => hooked.entry_new (wellFormed.live listed)

theorem Registry.WellFormed.hooked (wellFormed : before.toRegistry.WellFormed)
    (hooked : Hooked this controller before after entry parent) : after.toRegistry.WellFormed := by
  -- An older mapping has a parent that was live before, so it is not the new one's.
  have older {other : Addr} (listed : other ∈ before.rootBridgeIoProtocolList) :
      ∃ parent', after.toRegistry.Complete other parent' ∧ parent' ≠ parent := by
    obtain ⟨parent', complete⟩ := wellFormed.complete other listed
    have kept := complete.extends hooked.extends
    refine ⟨parent', ⟨kept.live, kept.parent_live, kept.has_parent, kept.bindingProtocol,
      kept.functions, kept.parent_functions⟩, ?_⟩
    rintro rfl
    exact hooked.parent_new (List.mem_cons_of_mem _ complete.parent_live)
  constructor
  · intro other listed
    rw [wellFormed.list_hooked hooked, List.mem_append, List.mem_singleton] at listed
    rcases listed with listed | rfl
    · obtain ⟨parent', complete, _⟩ := older listed
      exact ⟨parent', complete⟩
    · exact ⟨parent, hooked.complete⟩
  · intro first listed second listed' same
    rw [wellFormed.list_hooked hooked, List.mem_append, List.mem_singleton] at listed listed'
    rcases listed with listed | rfl <;> rcases listed' with listed' | rfl
    · have kept : after.mapping first = before.mapping first :=
        hooked.extends.mapping first (wellFormed.live listed)
      have kept' : after.mapping second = before.mapping second :=
        hooked.extends.mapping second (wellFormed.live listed')
      rw [kept, kept'] at same
      exact wellFormed.parents first listed second listed' same
    · obtain ⟨parent', complete, different⟩ := older listed
      rw [complete.has_parent, hooked.mapping_parent] at same
      exact absurd (Option.some.inj same) different
    · obtain ⟨parent', complete, different⟩ := older listed'
      rw [complete.has_parent, hooked.mapping_parent] at same
      exact absurd (Option.some.inj same).symm different
    · rfl

end Hooked

theorem wellFormed_supported {platform : Platform} {this : DriverBinding} {controller : EfiHandle}
    {remainingDevicePath : Pointer} {m : Machine} {r : Returned}
    (wellFormed : m.toRegistry.WellFormed)
    (run : pciBusDriverBindingSupported platform this controller remainingDevicePath m = .ok r) :
    r.machine.toRegistry.WellFormed := by
  rcases supported_cases run with ⟨same, _⟩ | behind
  · exact same ▸ wellFormed
  · have before : (probed platform this controller m).toRegistry.WellFormed := by
      rwa [toRegistry_probed]
    rcases behind.effect.registry with extension | ⟨entry, parent, hooked⟩
    · exact before.extends extension
    · exact before.hooked hooked

end Thundermod.Shim
