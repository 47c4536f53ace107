import Thundermod.Control.Growth
import Thundermod.Shim.Primitives
import Thundermod.Shim.Transparency

/-!
# The hooks

What the shim keeps account of, without its memory and its boot services: a list of
hooked controllers that only grows, and on which the originals behind a hook are looked
up at most once and then kept for good.  Every call that connects drivers is a sequence
of such steps.
-/

namespace Thundermod.Shim

open Control

/-! ## Hooks -/

/-- What is known of the originals behind the two substitutes of a hook. -/
inductive Originals
  | unknown
  | rootBridgeIo (original : HostRootBridgeIo)
  | both (original : HostRootBridgeIo) (parentOriginal : HostResourceAllocation)

def Originals.rootBridge : Originals → Option HostRootBridgeIo
  | unknown => none
  | rootBridgeIo original => some original
  | both original _ => some original

def Originals.parent : Originals → Option HostResourceAllocation
  | unknown => none
  | rootBridgeIo _ => none
  | both _ parentOriginal => some parentOriginal

theorem Originals.rootBridge_isSome {originals : Originals} :
    originals.rootBridge.isSome = false ↔ originals = .unknown := by
  cases originals <;> simp [rootBridge]

/-- A controller whose two protocols are substituted. -/
structure Hook where
  entry : Addr
  parent : Addr
  bindingProtocol : DriverBinding
  controller : EfiHandle
  originals : Originals

/-- The blocks that the substitutes of the hooks lie in. -/
def blocksOf (hooks : List Hook) : List Addr :=
  hooks.flatMap fun hook => [hook.entry, hook.parent]

/-- A hook that knows no original yet and has its own blocks. -/
structure Hook.Fresh (hooks : List Hook) (hook : Hook) : Prop where
  unknown : hook.originals = .unknown
  distinct : hook.entry ≠ hook.parent
  entry_new : hook.entry ∉ blocksOf hooks
  parent_new : hook.parent ∉ blocksOf hooks

/-- The originals behind a hook are looked up: the first alone, or both. -/
inductive Hook.Opens : Hook → Hook → Prop
  | opens {hook : Hook} {originals : Originals} (unknown : hook.originals = .unknown)
      (known : originals ≠ .unknown) : Hook.Opens hook { hook with originals := originals }

/-- A step of the shim: a controller is hooked, or the originals behind a hook are looked up. -/
abbrev HookStep : List Hook → List Hook → Prop :=
  GrowthStep Hook.Fresh Hook.Opens

/-- What can become of a hook. -/
def Hook.Later (hook next : Hook) : Prop :=
  next = hook ∨ Hook.Opens hook next

theorem Hook.Later.trans (first second third : Hook) (later : Hook.Later first second)
    (later' : Hook.Later second third) : Hook.Later first third := by
  rcases later with rfl | opens
  · exact later'
  · rcases later' with rfl | ⟨unknown, _⟩
    · exact Or.inr opens
    · cases opens with
      | opens _ known => exact absurd unknown known

/-- Every hook stays at its place, and once it knows an original it never changes. -/
theorem hooks_grown {hooks hooks' : List Hook} (reached : Reachable HookStep hooks hooks') :
    Grown Hook.Later hooks hooks' :=
  reached.grown (fun _ => Or.inl rfl) (fun _ _ => Or.inr) Hook.Later.trans

section Blocks

variable {hooks front back : List Hook} {hook other next : Hook}

theorem entry_mem_blocksOf (member : hook ∈ hooks) : hook.entry ∈ blocksOf hooks :=
  List.mem_flatMap.mpr ⟨hook, member, by simp⟩

theorem parent_mem_blocksOf (member : hook ∈ hooks) : hook.parent ∈ blocksOf hooks :=
  List.mem_flatMap.mpr ⟨hook, member, by simp⟩

theorem blocksOf_append : blocksOf (front ++ back) = blocksOf front ++ blocksOf back :=
  List.flatMap_append

theorem blocksOf_cons : blocksOf (hook :: back) = hook.entry :: hook.parent :: blocksOf back := rfl

/-- Different hooks have different substitutes. -/
theorem other_blocks (distinct : (blocksOf (front ++ hook :: back)).Nodup)
    (member : other ∈ front ++ back) : other.entry ≠ hook.entry ∧ other.parent ≠ hook.parent := by
  simp only [blocksOf_append, blocksOf_cons, List.nodup_append, List.nodup_cons,
    List.mem_cons] at distinct
  obtain ⟨_, ⟨entry_new, parent_new, _⟩, apart⟩ := distinct
  rcases List.mem_append.mp member with earlier | later
  · exact ⟨apart _ (entry_mem_blocksOf earlier) _ (Or.inl rfl),
      apart _ (parent_mem_blocksOf earlier) _ (Or.inr (Or.inl rfl))⟩
  · constructor
    · intro same
      exact entry_new (Or.inr (same ▸ entry_mem_blocksOf later))
    · intro same
      exact parent_new (same ▸ parent_mem_blocksOf later)

theorem Hook.Fresh.nodup (fresh : Hook.Fresh hooks hook) (distinct : (blocksOf hooks).Nodup) :
    (blocksOf (hooks ++ [hook])).Nodup := by
  simp only [blocksOf_append, blocksOf_cons, List.nodup_append, List.nodup_cons]
  refine ⟨distinct, ⟨by simpa [blocksOf] using fresh.distinct, by simp [blocksOf], List.nodup_nil⟩,
    ?_⟩
  intro block inside new member same
  subst same
  simp only [blocksOf, List.flatMap_nil, List.mem_cons, List.not_mem_nil, or_false] at member
  rcases member with rfl | rfl
  · exact fresh.entry_new inside
  · exact fresh.parent_new inside

theorem Hook.Opens.same_blocks (opens : Hook.Opens hook next) :
    blocksOf (front ++ next :: back) = blocksOf (front ++ hook :: back) := by
  cases opens with
  | opens _ _ => simp only [blocksOf_append, blocksOf_cons]

end Blocks

/-! ## The registry shows the hooks -/

/-- A mapping and its parent contain what the hook says. -/
structure Registry.Represents (registry : Registry) (hook : Hook) : Prop where
  entry_live : hook.entry ∈ registry.live
  parent_live : hook.parent ∈ registry.live
  parent : (registry.mapping hook.entry).parent = some hook.parent
  bindingProtocol : (registry.mapping hook.entry).bindingProtocol = some hook.bindingProtocol
  controller : (registry.mapping hook.entry).controller = some hook.controller
  isOpen : (registry.mapping hook.entry).isOpen = hook.originals.rootBridge.isSome
  original : (registry.mapping hook.entry).originalProtocol = hook.originals.rootBridge
  parentOriginal :
    (registry.resourceAllocation hook.parent).originalProtocol = hook.originals.parent

/-- The list of mappings is the list of hooks. -/
structure Registry.Shows (registry : Registry) (hooks : List Hook) : Prop where
  list : registry.rootBridgeIoProtocolList = hooks.map Hook.entry
  represents : ∀ hook ∈ hooks, registry.Represents hook
  distinct : (blocksOf hooks).Nodup

section Represents

variable {before after : Registry} {hooks front back : List Hook} {hook next : Hook}

theorem Registry.Represents.congr (represents : before.Represents hook)
    (live : ∀ block ∈ before.live, block ∈ after.live)
    (mapping : after.mapping hook.entry = before.mapping hook.entry)
    (resourceAllocation :
      after.resourceAllocation hook.parent = before.resourceAllocation hook.parent) :
    after.Represents hook := by
  obtain ⟨entry_live, parent_live, parent, bindingProtocol, controller, isOpen, original,
    parentOriginal⟩ := represents
  rw [← mapping] at parent bindingProtocol controller isOpen original
  rw [← resourceAllocation] at parentOriginal
  exact ⟨live _ entry_live, live _ parent_live, parent, bindingProtocol, controller, isOpen,
    original, parentOriginal⟩

theorem Registry.Shows.extends (shown : before.Shows hooks) (extension : before.Extends after) :
    after.Shows hooks where
  list := extension.list.trans shown.list
  represents := fun hook member =>
    let represents := shown.represents hook member
    represents.congr extension.live (extension.mapping _ represents.entry_live)
      (extension.resourceAllocation _ represents.parent_live)
  distinct := shown.distinct

/-- Only the contents of one hook have changed. -/
theorem Registry.Shows.advance (shown : before.Shows (front ++ hook :: back))
    (opens : Hook.Opens hook next) (list : after.rootBridgeIoProtocolList =
      before.rootBridgeIoProtocolList) (live : after.live = before.live)
    (represents : after.Represents next)
    (mapping : ∀ block, block ≠ hook.entry → after.mapping block = before.mapping block)
    (resourceAllocation : ∀ block, block ≠ hook.parent →
      after.resourceAllocation block = before.resourceAllocation block) :
    after.Shows (front ++ next :: back) := by
  have others (other : Hook) (member : other ∈ front ++ back) : after.Represents other := by
    obtain ⟨entry, parent⟩ := other_blocks shown.distinct member
    have older := shown.represents other (by simp only [List.mem_append, List.mem_cons] at *; tauto)
    exact older.congr (fun block inside => live ▸ inside) (mapping _ entry)
      (resourceAllocation _ parent)
  constructor
  · rw [list, shown.list]
    cases opens with
    | opens _ _ => simp
  · intro other member
    rcases List.mem_append.mp member with earlier | later
    · exact others other (List.mem_append_left _ earlier)
    · rcases List.mem_cons.mp later with rfl | later
      · exact represents
      · exact others other (List.mem_append_right _ later)
  · rw [opens.same_blocks]
    exact shown.distinct

end Represents

/-- The shim shows hooks that have come about by steps of the abstract model. -/
def Machine.ShowsFrom (hooks : List Hook) (m : Machine) : Prop :=
  ∃ hooks', m.toRegistry.Shows hooks' ∧ Reachable HookStep hooks hooks'

theorem Machine.ShowsFrom.trans {hooks hooks' : List Hook} {m : Machine}
    (shown : m.ShowsFrom hooks') (earlier : Reachable HookStep hooks hooks') :
    m.ShowsFrom hooks := by
  obtain ⟨hooks'', shows', later⟩ := shown
  exact ⟨hooks'', shows', earlier.trans later⟩

theorem Registry.Shows.from {hooks : List Hook} {m : Machine} (shown : m.toRegistry.Shows hooks) :
    m.ShowsFrom hooks :=
  ⟨hooks, shown, Reachable.start ..⟩

/-! ## Hooking is a step -/

section Supported

variable {platform : Platform} {this : DriverBinding} {controller : EfiHandle}
  {remainingDevicePath : Pointer} {before after m : Machine} {r : Returned} {hooks : List Hook}
  {entry parent : Addr}

/-- The blocks of the hooks that are shown are live. -/
theorem Registry.Shows.live (shown : m.toRegistry.Shows hooks) {block : Addr}
    (member : block ∈ blocksOf hooks) : block ∈ m.live := by
  obtain ⟨hook, inside, one⟩ := List.mem_flatMap.mp member
  have represents := shown.represents hook inside
  simp only [List.mem_cons, List.not_mem_nil, or_false] at one
  rcases one with rfl | rfl
  · exact represents.entry_live
  · exact represents.parent_live

theorem Hooked.shows (hooked : Hooked this controller before after entry parent)
    (shown : before.toRegistry.Shows hooks) : after.ShowsFrom hooks := by
  let hook : Hook := ⟨entry, parent, this, controller, .unknown⟩
  have fresh : Hook.Fresh hooks hook := by
    constructor
    · rfl
    · intro same
      have same : entry = parent := same
      exact hooked.parent_new (same ▸ List.mem_cons_self)
    · exact fun inside => hooked.entry_new (shown.live inside)
    · exact fun inside => hooked.parent_new (List.mem_cons_of_mem _ (shown.live inside))
  have represents : after.toRegistry.Represents hook := by
    constructor
    · simp [hooked.live, hook]
    · simp [hooked.live, hook]
    · exact hooked.mapping_parent
    · exact hooked.mapping.bindingProtocol
    · exact hooked.mapping.controller
    · exact hooked.mapping.isOpen
    · exact hooked.mapping.originalProtocol
    · rw [hooked.resourceAllocation]
      rfl
  refine ⟨hooks ++ [hook], ⟨?_, ?_, fresh.nodup shown.distinct⟩, Reachable.single (.join fresh)⟩
  · have unlisted : entry ∉ before.rootBridgeIoProtocolList := by
      intro listed
      rw [shown.list] at listed
      obtain ⟨older, member, rfl⟩ := List.mem_map.mp listed
      exact hooked.entry_new (shown.represents older member).entry_live
    rw [hooked.list_of_unlisted unlisted, shown.list]
    simp [hook]
  · intro other member
    rcases List.mem_append.mp member with older | new
    · have kept := hooked.extends
      have represents := shown.represents other older
      exact represents.congr kept.live (kept.mapping _ represents.entry_live)
        (kept.resourceAllocation _ represents.parent_live)
    · rw [List.mem_singleton.mp new]
      exact represents

theorem supported_shows (shown : m.toRegistry.Shows hooks)
    (run : pciBusDriverBindingSupported platform this controller remainingDevicePath m = .ok r) :
    r.machine.ShowsFrom hooks := by
  rcases supported_cases run with ⟨same, _⟩ | behind
  · exact Registry.Shows.from (same ▸ shown)
  · have before : (probed platform this controller m).toRegistry.Shows hooks := by
      rwa [toRegistry_probed]
    rcases behind.effect.registry with extension | ⟨entry, parent, hooked⟩
    · exact (before.extends extension).from
    · exact hooked.shows before

end Supported

/-! ## Opening is a step for every hook -/

section Start

variable {platform : Platform} {after m : Machine} {r : Returned} {hooks : List Hook} {hook : Hook}

/-- The root bridge of a hook has been recorded, and its parent as far as the originals say. -/
theorem Registry.Shows.opened (original : HostRootBridgeIo) (originals : Originals)
    (found : originals.rootBridge = some original) (shown : m.toRegistry.Shows hooks)
    (member : hook ∈ hooks) (unknown : hook.originals = .unknown)
    (list : after.rootBridgeIoProtocolList = m.rootBridgeIoProtocolList)
    (live : after.live = m.live)
    (mapping : after.mapping = (m.modifyMapping hook.entry (·.openWith original)).mapping)
    (parent : (after.resourceAllocation hook.parent).originalProtocol = originals.parent)
    (others : ∀ block, block ≠ hook.parent →
      after.resourceAllocation block = m.resourceAllocation block) :
    after.ShowsFrom hooks := by
  obtain ⟨front, back, rfl⟩ := List.append_of_mem member
  have known : originals ≠ .unknown := by
    rintro rfl
    cases found
  have opens : Hook.Opens hook { hook with originals := originals } := .opens unknown known
  have represents := shown.represents hook member
  have content : after.mapping hook.entry = (m.mapping hook.entry).openWith original := by
    rw [mapping]
    exact Machine.mapping_modifyMapping hook.entry (·.openWith original) m
  refine ⟨_, shown.advance opens list live ?_ ?_ others, Reachable.single (.advance opens)⟩
  · constructor
    · exact live ▸ represents.entry_live
    · exact live ▸ represents.parent_live
    · rw [content]
      exact represents.parent
    · rw [content]
      exact represents.bindingProtocol
    · rw [content]
      exact represents.controller
    · rw [content, found]
      rfl
    · rw [content, found]
      rfl
    · exact parent
  · intro block different
    rw [mapping, Machine.mapping_modifyMapping_of_ne different]

/-- The root bridge of a hook has been looked up, its parent has not. -/
theorem Registry.Shows.half (original : HostRootBridgeIo) (shown : m.toRegistry.Shows hooks)
    (member : hook ∈ hooks) (unknown : hook.originals = .unknown)
    (same : after.toRegistry = (m.modifyMapping hook.entry (·.openWith original)).toRegistry) :
    after.ShowsFrom hooks := by
  have parentOriginal := (shown.represents hook member).parentOriginal
  refine Registry.Shows.opened original (.rootBridgeIo original) rfl shown member unknown
    ?_ ?_ ?_ ?_ fun block _ => ?_
  · rw [same, Machine.rootBridgeIoProtocolList_modifyMapping]
  · rw [same, Machine.live_modifyMapping]
  · rw [same]
  · rw [same]
    exact parentOriginal.trans (by rw [unknown]; rfl)
  · rw [same]
    rfl

/-- Both originals of a hook have been looked up. -/
theorem Registry.Shows.whole (original : HostRootBridgeIo)
    (parentOriginal : HostResourceAllocation) (shown : m.toRegistry.Shows hooks)
    (member : hook ∈ hooks) (unknown : hook.originals = .unknown)
    (same : after.toRegistry = ((m.modifyMapping hook.entry (·.openWith
      original)).modifyResourceAllocation hook.parent fun allocation =>
        { allocation with originalProtocol := some parentOriginal }).toRegistry) :
    after.ShowsFrom hooks := by
  refine Registry.Shows.opened original (.both original parentOriginal) rfl shown member unknown
    ?_ ?_ ?_ ?_ fun block different => ?_
  · rw [same, Machine.rootBridgeIoProtocolList_modifyResourceAllocation,
      Machine.rootBridgeIoProtocolList_modifyMapping]
  · rw [same, Machine.live_modifyResourceAllocation, Machine.live_modifyMapping]
  · rw [same, Machine.mapping_modifyResourceAllocation]
  · rw [same, Machine.resourceAllocation_modifyResourceAllocation]
    rfl
  · rw [same, Machine.resourceAllocation_modifyResourceAllocation_of_ne different]
    rfl

theorem toRegistry_modifyResourceAllocation_congr {block : Addr}
    {change : ResourceAllocationProtocolMapping → ResourceAllocationProtocolMapping}
    (same : after.toRegistry = m.toRegistry) :
    (after.modifyResourceAllocation block change).toRegistry =
      (m.modifyResourceAllocation block change).toRegistry := by
  simp only [Machine.modifyResourceAllocation, same]

theorem openOriginals_shows {binding : DriverBinding} (shown : m.toRegistry.Shows hooks)
    (member : hook ∈ hooks) (unknown : hook.originals = .unknown) :
    (openOriginals platform hook.entry binding m).Ensures (fun r => r.machine.ShowsFrom hooks)
      (fun r => r.machine.ShowsFrom hooks) := by
  have represents := shown.represents hook member
  let original := platform.rootBridgeIo m (m.mapping hook.entry).controller
  unfold openOriginals
  dsimp only
  split
  · unfold openResourceAllocation
    dsimp only
    split
    · rw [represents.parent]
      refine Registry.Shows.whole original _ shown member unknown
        (toRegistry_modifyResourceAllocation_congr ?_)
      exact Machine.toRegistry_touch ..
    · exact Registry.Shows.half _ shown member unknown rfl
  · exact Registry.Shows.from shown

/-- One pass of the loop is a step for the hook of its entry, or nothing. -/
theorem openMapping_shows {entry : Addr} {state : Returned}
    (shown : state.machine.toRegistry.Shows hooks)
    (listed : entry ∈ state.machine.rootBridgeIoProtocolList) :
    (openMapping platform entry state).Ensures (fun r => r.machine.ShowsFrom hooks)
      (fun r => r.machine.ShowsFrom hooks) := by
  rw [shown.list] at listed
  obtain ⟨hook, member, rfl⟩ := List.mem_map.mp listed
  have represents := shown.represents hook member
  have shown' : (state.machine.touch hook.entry).toRegistry.Shows hooks := by
    rwa [Machine.toRegistry_touch]
  unfold openMapping
  dsimp only
  split
  · exact shown'.from
  · next closed =>
      rw [Machine.toRegistry_touch, represents.isOpen, Bool.not_eq_true,
        Originals.rootBridge_isSome] at closed
      simp only [Machine.toRegistry_touch, represents.bindingProtocol]
      exact openOriginals_shows shown' member closed

theorem openBaseProtocols_shows {indeterminate : EfiStatus} (shown : m.toRegistry.Shows hooks)
    (run : openBaseProtocols platform indeterminate m = .ok r) : r.machine.ShowsFrom hooks := by
  refine openBaseProtocols_rule (fun m => m.ShowsFrom hooks) ?_ shown.from run
  rintro entry state listed ⟨between, shown', earlier⟩
  exact (openMapping_shows shown' listed).imp (fun _ later => later.trans earlier)
    fun _ later => later.trans earlier

theorem start_shows {indeterminate : EfiStatus} {this : DriverBinding} {controller : EfiHandle}
    {remainingDevicePath : Pointer} (shown : m.toRegistry.Shows hooks)
    (run : pciBusDriverBindingStart platform indeterminate this controller remainingDevicePath m =
      .ok r) : r.machine.ShowsFrom hooks := by
  have found : (findDriverBindingProtocol platform m).2.toRegistry.Shows hooks := by
    rwa [toRegistry_findDriverBindingProtocol]
  obtain ⟨opened, opening, outcome⟩ := start_cases run
  have shown' := openBaseProtocols_shows found opening
  rcases outcome with ⟨_, rfl⟩ | ⟨_, original, status, dumped, _, _, dump, rfl⟩
  · exact shown'
  · obtain ⟨hooks', shown'', later⟩ := shown'
    have same := toRegistry_dumpInstalledDevices dump
    exact ⟨hooks', same ▸ shown'', later⟩

end Start

/-! ## Runs -/

/-- A connecting call takes the hooks that are shown to hooks that have come from them. -/
theorem call_shows {platform : Platform} {indeterminate : EfiStatus} {call : Call} {m : Machine}
    {r : Returned} {hooks : List Hook} (connects : Connects platform call m)
    (shown : m.toRegistry.Shows hooks)
    (run : call.run platform indeterminate m = .ok r) : r.machine.ShowsFrom hooks := by
  cases call with
  | supported this controller remainingDevicePath => exact supported_shows shown run
  | start this controller remainingDevicePath => exact start_shows shown run
  | stop this controller numberOfChildren childHandleBuffer => exact connects.elim

/-- What a run of connecting calls leaves shows hooks that have come from those shown before. -/
theorem run_shows {before after : Machine} {hooks : List Hook}
    (shown : before.toRegistry.Shows hooks) (run : Reachable (Step Connects) before after) :
    after.ShowsFrom hooks := by
  refine run.invariant (Machine.ShowsFrom hooks) shown.from ?_
  rintro m m' ⟨between, shown', earlier⟩ ⟨platform, indeterminate, call, status, connects, step⟩
  exact (call_shows connects shown' step).trans earlier

theorem shows_of_connects {m : Machine} (reached : ReachableBy Connects m) :
    m.ShowsFrom [] := by
  obtain ⟨imageHandle, gPciBusDriverBinding, run⟩ := reached
  have shown : (pciDxeShimMain imageHandle gPciBusDriverBinding).toRegistry.Shows [] :=
    ⟨rfl, by simp, List.nodup_nil⟩
  exact run_shows shown run

/--
The shim refines the abstract model along every run of connecting calls: what it shows
comes about from nothing by hooking controllers and looking up originals, and whatever
calls follow continue such a history.
-/
theorem connecting_calls_refine_hooks {m : Machine} (reached : ReachableBy Connects m) :
    ∃ hooks, m.toRegistry.Shows hooks ∧ Reachable HookStep [] hooks ∧
      ∀ after, Reachable (Step Connects) m after →
        ∃ hooks', after.toRegistry.Shows hooks' ∧ Reachable HookStep hooks hooks' := by
  obtain ⟨hooks, shown, history⟩ := shows_of_connects reached
  exact ⟨hooks, shown, history, fun after run => run_shows shown run⟩

theorem connecting_calls_refine_hooks_started :
    ∃ hooks, startedMachine.toRegistry.Shows hooks ∧ Reachable HookStep [] hooks ∧
      ∀ after, Reachable (Step Connects) startedMachine after →
        ∃ hooks', after.toRegistry.Shows hooks' ∧ Reachable HookStep hooks hooks' :=
  connecting_calls_refine_hooks (reachableBy_startedMachine trivial trivial trivial)

end Thundermod.Shim
