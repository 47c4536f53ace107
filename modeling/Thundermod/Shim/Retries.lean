import Thundermod.Shim.Opening

/-!
# Opening again after a failure

A mapping is opened in two steps, under one flag that is set after the first.
Where the second step fails, the flag makes every later call skip the mapping, and
the missing original is never fetched.
-/

namespace Thundermod.Shim

open Control

/-- The original of the mapping's parent is recorded. -/
def Registry.ParentRecorded (registry : Registry) (entry : Addr) : Prop :=
  ∃ parent, (registry.mapping entry).parent = some parent ∧
    (registry.resourceAllocation parent).originalProtocol ≠ none

/-- Both originals of the mapping are recorded. -/
def Registry.FullyOpen (registry : Registry) (entry : Addr) : Prop :=
  (registry.mapping entry).originalProtocol ≠ none ∧ registry.ParentRecorded entry

/-- The flag of a listed mapping promises both originals. -/
def Registry.FlagsKept (registry : Registry) : Prop :=
  ∀ entry ∈ registry.rootBridgeIoProtocolList, (registry.mapping entry).isOpen = true →
    registry.FullyOpen entry

/-- One call of `OpenBaseProtocols`, with a platform of its own. -/
structure OpenCall where
  platform : Platform
  indeterminate : EfiStatus

def OpenCall.answer (m : Machine) (call : OpenCall) : Except Fault (Machine × EfiStatus) :=
  match openBaseProtocols call.platform call.indeterminate m with
  | .error fault => .error fault
  | .ok r => .ok (r.machine, r.status)

/-- What a call promises: after a success every listed mapping is fully open. -/
structure OpensFully (after : Machine) (status : EfiStatus) : Prop where
  success : status = efiSuccess →
    ∀ entry ∈ after.rootBridgeIoProtocolList, after.toRegistry.FullyOpen entry
  flags : after.toRegistry.FlagsKept

/-! ## One pass -/

section Pass

/-- The request for the original of a mapping, and the machine in which it is recorded. -/
def rootBridgeIoRequest (binding : DriverBinding) (entry : Addr) (m : Machine) : OpenRecord :=
  rootBridgeIoOpen binding.driverBindingHandle (m.mapping entry).controller

def recordOriginal (platform : Platform) (binding : DriverBinding) (entry : Addr) (m : Machine) :
    Machine :=
  (m.openProtocol platform (rootBridgeIoRequest binding entry m)).machine.modifyMapping entry
    (·.openWith (platform.rootBridgeIo m (m.mapping entry).controller))

def resourceAllocationRequest (platform : Platform) (binding : DriverBinding) (entry : Addr)
    (m : Machine) : OpenRecord :=
  resourceAllocationOpen binding.driverBindingHandle (m.mapping entry).controller
    (platform.rootBridgeIo m (m.mapping entry).controller).parentHandle

/--
The pass over a mapping that is not open is granted its root-bridge protocol but
refused its resource-allocation protocol, which its parent does not have yet.
-/
structure HalfOpens (platform : Platform) (binding : DriverBinding) (entry : Addr) (m : Machine) :
    Prop where
  unopened : (m.mapping entry).isOpen = false
  bound : (m.mapping entry).bindingProtocol = some binding
  granted : platform.openStatus m (rootBridgeIoRequest binding entry m) = efiSuccess
  refused : platform.openStatus (recordOriginal platform binding entry m)
    (resourceAllocationRequest platform binding entry m) ≠ efiSuccess
  unrecorded : ¬ m.toRegistry.ParentRecorded entry

/-- The ways in which a pass of `openMapping` ends, once it has read the mapping. -/
inductive PassEnds (platform : Platform) (entry : Addr) (before : Machine) :
    Outcome Fault Returned Returned → Prop
  | fault (fault : Fault) : PassEnds platform entry before (.fault fault)
  | skipped {r : Returned} (isOpen : (before.mapping entry).isOpen = true)
      (toRegistry : r.machine.toRegistry = before.toRegistry) :
      PassEnds platform entry before (.next r)
  | refused {r : Returned} (failed : r.status ≠ efiSuccess)
      (toRegistry : r.machine.toRegistry = before.toRegistry) :
      PassEnds platform entry before (.leave r)
  | half {r : Returned} {binding : DriverBinding} {original : HostRootBridgeIo}
      (failed : r.status ≠ efiSuccess)
      (recorded : ¬ before.toRegistry.ParentRecorded entry →
        HalfOpens platform binding entry before)
      (toRegistry : r.machine.toRegistry =
        (before.modifyMapping entry (·.openWith original)).toRegistry) :
      PassEnds platform entry before (.leave r)
  | full {r : Returned} {parent : Addr} {original : HostRootBridgeIo}
      {parentOriginal : HostResourceAllocation}
      (has_parent : (before.mapping entry).parent = some parent)
      (toRegistry : r.machine.toRegistry =
        ((before.modifyMapping entry (·.openWith original)).modifyResourceAllocation parent
          fun allocation => { allocation with originalProtocol := some parentOriginal }).toRegistry) :
      PassEnds platform entry before (.next r)

variable {platform : Platform} {binding : DriverBinding} {entry : Addr} {m : Machine}

/-- A pass over a mapping that is not open comes to the two opens. -/
theorem openMapping_of_unopened {state : Returned}
    (unopened : ((state.machine.touch entry).mapping entry).isOpen = false)
    (bound : ((state.machine.touch entry).mapping entry).bindingProtocol = some binding) :
    openMapping platform entry state =
      openOriginals platform entry binding (state.machine.touch entry) := by
  simp only [openMapping, unopened, bound, Bool.false_eq_true, if_false]

theorem openOriginals_of_granted
    (granted : platform.openStatus m (rootBridgeIoRequest binding entry m) = efiSuccess) :
    openOriginals platform entry binding m =
      openResourceAllocation platform binding (m.mapping entry)
        (platform.rootBridgeIo m (m.mapping entry).controller)
        (recordOriginal platform binding entry m) :=
  if_pos granted

/-- A refused second open leaves the loop with the first one recorded. -/
theorem openOriginals_of_refused
    (granted : platform.openStatus m (rootBridgeIoRequest binding entry m) = efiSuccess)
    (refused : platform.openStatus (recordOriginal platform binding entry m)
      (resourceAllocationRequest platform binding entry m) ≠ efiSuccess) :
    openOriginals platform entry binding m =
      .leave ((recordOriginal platform binding entry m).openProtocol platform
        (resourceAllocationRequest platform binding entry m)) := by
  rw [openOriginals_of_granted granted]
  exact if_neg refused

/-- A granted second open records the parent's original, if there is a parent. -/
theorem openResourceAllocation_of_granted {mapping : RootBridgeIoProtocolMapping}
    {original : HostRootBridgeIo} {parent : Addr}
    (granted : platform.openStatus m (resourceAllocationOpen binding.driverBindingHandle
      mapping.controller original.parentHandle) = efiSuccess)
    (has_parent : mapping.parent = some parent) :
    ∃ r parentOriginal, openResourceAllocation platform binding mapping original m = .next r ∧
      r.machine.toRegistry = (m.modifyResourceAllocation parent fun allocation =>
        { allocation with originalProtocol := some parentOriginal }).toRegistry := by
  simp only [openResourceAllocation, Machine.status_openProtocol, granted, if_true, has_parent]
  refine ⟨_, platform.resourceAllocation m original.parentHandle, rfl, ?_⟩
  simp only [Machine.modifyResourceAllocation, Machine.toRegistry_touch,
    Machine.toRegistry_openProtocol]

theorem openOriginals_passEnds (unopened : (m.mapping entry).isOpen = false)
    (bound : (m.mapping entry).bindingProtocol = some binding) :
    PassEnds platform entry m (openOriginals platform entry binding m) := by
  by_cases granted : platform.openStatus m (rootBridgeIoRequest binding entry m) = efiSuccess
  · by_cases second : platform.openStatus (recordOriginal platform binding entry m)
        (resourceAllocationRequest platform binding entry m) = efiSuccess
    · rw [openOriginals_of_granted granted]
      cases has_parent : (m.mapping entry).parent with
      | none =>
          have faults : openResourceAllocation platform binding (m.mapping entry)
              (platform.rootBridgeIo m (m.mapping entry).controller)
              (recordOriginal platform binding entry m) = .fault .nullParent := by
            simp only [openResourceAllocation, has_parent]
            exact if_pos second
          rw [faults]
          exact .fault _
      | some parent =>
          obtain ⟨r, parentOriginal, granted, toRegistry⟩ :=
            openResourceAllocation_of_granted second has_parent
          rw [granted]
          exact .full has_parent toRegistry
    · rw [openOriginals_of_refused granted second]
      exact .half second (fun unrecorded => ⟨unopened, bound, granted, second, unrecorded⟩) rfl
  · have refused : openOriginals platform entry binding m =
        .leave (m.openProtocol platform (rootBridgeIoRequest binding entry m)) :=
      if_neg granted
    rw [refused]
    exact .refused granted rfl

theorem openMapping_passEnds (platform : Platform) (entry : Addr) (state : Returned) :
    PassEnds platform entry (state.machine.touch entry) (openMapping platform entry state) := by
  cases flag : ((state.machine.touch entry).mapping entry).isOpen with
  | true =>
      have skips : openMapping platform entry state =
          .next { state with machine := state.machine.touch entry } :=
        if_pos flag
      rw [skips]
      exact .skipped flag rfl
  | false =>
      cases bound : ((state.machine.touch entry).mapping entry).bindingProtocol with
      | none =>
          have faults : openMapping platform entry state = .fault .nullBindingProtocol := by
            simp only [openMapping, flag, bound, Bool.false_eq_true, if_false]
          rw [faults]
          exact .fault _
      | some binding =>
          rw [openMapping_of_unopened flag bound]
          exact openOriginals_passEnds flag bound

end Pass

/-! ## What a pass keeps -/

section Flags

variable {before after : Registry} {entry other : Addr} {original : HostRootBridgeIo}

/-- The originals that are recorded stay recorded. -/
theorem Registry.ParentRecorded.imp (recorded : before.ParentRecorded other)
    (same : (after.mapping other).parent = (before.mapping other).parent)
    (kept : ∀ block, (before.resourceAllocation block).originalProtocol ≠ none →
      (after.resourceAllocation block).originalProtocol ≠ none) : after.ParentRecorded other := by
  obtain ⟨parent, has_parent, original⟩ := recorded
  exact ⟨parent, same.trans has_parent, kept parent original⟩

theorem parent_openWith
    (mapping : after.mapping =
      Function.update before.mapping entry ((before.mapping entry).openWith original)) :
    (after.mapping other).parent = (before.mapping other).parent := by
  by_cases here : other = entry
  · rw [mapping, here, Function.update_self]
    rfl
  · rw [mapping, Function.update_of_ne here]

/-- A pass that records the original of a mapping, whose parent then has one, keeps the flags. -/
theorem Registry.FlagsKept.openWith (flags : before.FlagsKept)
    (list : after.rootBridgeIoProtocolList = before.rootBridgeIoProtocolList)
    (mapping : after.mapping =
      Function.update before.mapping entry ((before.mapping entry).openWith original))
    (kept : ∀ block, (before.resourceAllocation block).originalProtocol ≠ none →
      (after.resourceAllocation block).originalProtocol ≠ none)
    (recorded : after.ParentRecorded entry) : after.FlagsKept := by
  intro other listed flag
  rw [list] at listed
  by_cases here : other = entry
  · subst here
    refine ⟨?_, recorded⟩
    rw [mapping, Function.update_self]
    exact Option.some_ne_none original
  · have same : after.mapping other = before.mapping other := by
      rw [mapping, Function.update_of_ne here]
    rw [same] at flag
    obtain ⟨own, parent⟩ := flags other listed flag
    exact ⟨by rwa [same], parent.imp (parent_openWith mapping) kept⟩

/-- The flags that are set stay set, and that of the opened mapping is. -/
theorem isOpen_openWith
    (mapping : after.mapping =
      Function.update before.mapping entry ((before.mapping entry).openWith original))
    (flag : other = entry ∨ (before.mapping other).isOpen = true) :
    (after.mapping other).isOpen = true := by
  by_cases here : other = entry
  · rw [mapping, here, Function.update_self]
    rfl
  · rw [mapping, Function.update_of_ne here]
    exact flag.resolve_left here

end Flags

/-! ## One call -/

section Call

variable {platform : Platform} {m : Machine}

/-- The loop over the mappings, with some of them still to come. -/
structure Opening (m : Machine) (rest : List Addr) (state : Returned) : Prop where
  list : state.machine.rootBridgeIoProtocolList = m.rootBridgeIoProtocolList
  flags : state.machine.toRegistry.FlagsKept
  done : ∀ entry ∈ m.rootBridgeIoProtocolList, entry ∉ rest →
    (state.machine.mapping entry).isOpen = true

/-- The loop left after a service that failed. -/
structure Refused (m : Machine) (r : Returned) : Prop where
  list : r.machine.rootBridgeIoProtocolList = m.rootBridgeIoProtocolList
  flags : r.machine.toRegistry.FlagsKept
  failed : r.status ≠ efiSuccess

/-- The effect of a pass that does not open a mapping by half, on the machine that it has read. -/
theorem opening_of_passEnds {entry : Addr} {rest : List Addr} {before : Machine}
    {outcome : Outcome Fault Returned Returned} (ends : PassEnds platform entry before outcome)
    (whole : ∀ binding, ¬ HalfOpens platform binding entry before)
    (list : before.rootBridgeIoProtocolList = m.rootBridgeIoProtocolList)
    (flags : before.toRegistry.FlagsKept)
    (done : ∀ other ∈ m.rootBridgeIoProtocolList, other ∉ entry :: rest →
      (before.mapping other).isOpen = true) :
    outcome.Ensures (Opening m rest) (Refused m) := by
  have later {other : Addr} (listed : other ∈ m.rootBridgeIoProtocolList)
      (remains : other ∉ rest) : other = entry ∨ (before.mapping other).isOpen = true := by
    by_cases here : other = entry
    · exact Or.inl here
    · exact Or.inr (done other listed (by simp [here, remains]))
  cases ends with
  | fault => trivial
  | skipped isOpen toRegistry =>
      refine ⟨toRegistry ▸ list, toRegistry ▸ flags, ?_⟩
      intro other listed remains
      rw [toRegistry]
      rcases later listed remains with rfl | flag
      · exact isOpen
      · exact flag
  | refused failed toRegistry => exact ⟨toRegistry ▸ list, toRegistry ▸ flags, failed⟩
  | @half after _ original failed recorded toRegistry =>
      have parent : before.toRegistry.ParentRecorded entry := by
        by_contra unrecorded
        exact whole _ (recorded unrecorded)
      have mapping := congrArg Registry.mapping toRegistry
      refine ⟨by rw [toRegistry]; exact list, ?_, failed⟩
      have kept (block : Addr) (recorded : (before.resourceAllocation block).originalProtocol ≠ none) :
          (after.machine.resourceAllocation block).originalProtocol ≠ none := by
        rw [toRegistry]
        exact recorded
      exact flags.openWith (by rw [toRegistry]; rfl) mapping kept
        (parent.imp (parent_openWith mapping) kept)
  | @full after parent original parentOriginal has_parent toRegistry =>
      have mapping := congrArg Registry.mapping toRegistry
      refine ⟨by rw [toRegistry]; exact list, ?_, ?_⟩
      · refine flags.openWith (by rw [toRegistry]; rfl) mapping ?_ ⟨parent, ?_, ?_⟩
        · intro block recorded
          rw [toRegistry]
          by_cases here : block = parent
          · rw [here, Machine.resourceAllocation_modifyResourceAllocation]
            exact Option.some_ne_none parentOriginal
          · rw [Machine.resourceAllocation_modifyResourceAllocation_of_ne here]
            exact recorded
        · exact (parent_openWith mapping).trans has_parent
        · rw [toRegistry, Machine.resourceAllocation_modifyResourceAllocation]
          exact Option.some_ne_none parentOriginal
      · exact fun other listed remains => isOpen_openWith mapping (later listed remains)

theorem opening_pass {entry : Addr} {rest : List Addr} {state : Returned}
    (opening : Opening m (entry :: rest) state)
    (whole : ∀ binding, ¬ HalfOpens platform binding entry (state.machine.touch entry)) :
    (openMapping platform entry state).Ensures (Opening m rest) (Refused m) := by
  have same : (state.machine.touch entry).toRegistry = state.machine.toRegistry :=
    Machine.toRegistry_touch ..
  refine opening_of_passEnds (openMapping_passEnds platform entry state) whole ?_ ?_ ?_
  · rw [same, opening.list]
  · rw [same]
    exact opening.flags
  · rw [same]
    exact opening.done

/-- No pass of the call opens a mapping by half. -/
def NeverHalf (m : Machine) (call : OpenCall) : Prop :=
  ∀ entry state binding,
    Reaches (openMapping call.platform) m.rootBridgeIoProtocolList ⟨call.indeterminate, m⟩ entry
      state →
    ¬ HalfOpens call.platform binding entry (state.machine.touch entry)

theorem opensFully_of_neverHalf {call : OpenCall} {after : Machine} {status : EfiStatus}
    (flags : m.toRegistry.FlagsKept) (whole : NeverHalf m call)
    (run : call.answer m = .ok (after, status)) : OpensFully after status := by
  have loop := forEach_ensures_of_reaches (Opening m) (Refused m) m.rootBridgeIoProtocolList
    ⟨call.indeterminate, m⟩ ⟨rfl, flags, fun _ listed remains => absurd listed remains⟩
    fun entry rest state reaches opening =>
      opening_pass opening fun binding => whole entry state binding reaches
  unfold OpenCall.answer openBaseProtocols at run
  cases outcome : forEach (openMapping call.platform) m.rootBridgeIoProtocolList
      ⟨call.indeterminate, m⟩ with
  | fault fault =>
      rw [outcome] at run
      cases run
  | next state =>
      rw [outcome] at run loop
      cases run
      refine ⟨fun _ entry listed => ?_, loop.flags⟩
      have opened := loop.done entry (by rwa [← loop.list]) List.not_mem_nil
      exact loop.flags entry listed opened
  | leave r =>
      rw [outcome] at run loop
      cases run
      exact ⟨fun success => absurd success loop.failed, loop.flags⟩

/-- Where the loop has come to, the list is still the same. -/
theorem list_of_reaches {entry : Addr} (start : Returned) {state : Returned}
    (reaches : Reaches (openMapping platform) start.machine.rootBridgeIoProtocolList start entry
      state) :
    state.machine.rootBridgeIoProtocolList = start.machine.rootBridgeIoProtocolList := by
  refine reaches.invariant (fun state => state.machine.rootBridgeIoProtocolList =
    start.machine.rootBridgeIoProtocolList) rfl ?_
  intro item before after same pass
  have effect : (openMapping platform item before).Ensures
      (fun r => OpenPass item before.machine r.machine)
      (fun r => OpenPass item before.machine r.machine) := openMapping_cases item before
  rw [pass] at effect
  exact effect.same_list.trans same

/-- A mapping opened by half is flagged although its parent has no original. -/
theorem not_flagsKept_of_half {binding : DriverBinding} {entry : Addr}
    (half : HalfOpens platform binding entry m)
    (listed : entry ∈ m.rootBridgeIoProtocolList) :
    ¬ (recordOriginal platform binding entry m).toRegistry.FlagsKept := by
  intro flags
  have mapping : (recordOriginal platform binding entry m).mapping = Function.update m.mapping entry
      ((m.mapping entry).openWith (platform.rootBridgeIo m (m.mapping entry).controller)) := rfl
  have opened := flags entry listed (isOpen_openWith mapping (Or.inl rfl))
  exact half.unrecorded (opened.2.imp (parent_openWith mapping).symm fun _ recorded => recorded)

theorem not_opensFully_of_half {call : OpenCall} {after : Machine} {status : EfiStatus}
    (half : ¬ NeverHalf m call) (run : call.answer m = .ok (after, status)) :
    ¬ OpensFully after status := by
  simp only [NeverHalf, not_forall, not_not] at half
  obtain ⟨entry, state, binding, reaches, half⟩ := half
  have left := (openMapping_of_unopened half.unopened half.bound).trans
    (openOriginals_of_refused half.granted half.refused)
  unfold OpenCall.answer openBaseProtocols at run
  rw [forEach_of_reaches_leave reaches left] at run
  cases run
  intro opens
  refine not_flagsKept_of_half half ?_ opens.flags
  rw [Machine.toRegistry_touch, list_of_reaches ⟨call.indeterminate, m⟩ reaches]
  exact reaches.mem

end Call

/-! ## Any sequence of calls -/

/--
Over any sequence of calls, with any pattern of failures, a success means that every
listed mapping is fully open and the flags keep their promise, exactly if no call
opens a mapping by half.
-/
theorem opens_fully_iff (calls : List OpenCall) (m : Machine) (flags : m.toRegistry.FlagsKept) :
    ServesWell OpenCall.answer (fun _ _ after status => OpensFully after status) m calls ↔
      ServesWell OpenCall.answer (fun before call _ _ => NeverHalf before call) m calls := by
  refine servesWell_iff (fun m => m.toRegistry.FlagsKept) ?_ ?_ calls m flags
  · intro before call after status flags run
    constructor
    · intro opens
      by_contra half
      exact not_opensFully_of_half half run opens
    · exact fun whole => opensFully_of_neverHalf flags whole run
  · exact fun _ _ _ _ opens => opens.flags

theorem flagsKept_hookedMachine : hookedMachine.toRegistry.FlagsKept := by
  intro entry listed flag
  obtain rfl : entry = 1 := List.mem_singleton.mp listed
  cases flag

theorem opens_fully_hooked :
    ServesWell OpenCall.answer (fun _ _ after status => OpensFully after status) hookedMachine
        [⟨cooperative, 0⟩] ↔
      ServesWell OpenCall.answer (fun before call _ _ => NeverHalf before call) hookedMachine
        [⟨cooperative, 0⟩] :=
  opens_fully_iff [⟨cooperative, 0⟩] hookedMachine flagsKept_hookedMachine

/-- A platform on which no resource-allocation protocol can be opened. -/
def withoutResourceAllocation : Platform :=
  { cooperative with
    openStatus := fun _ request =>
      if request.key.protocol = .pciHostBridgeResourceAllocation then efiNotFound
      else efiSuccess }

/-- The machine that a call leaves. -/
def OpenCall.leaves (m : Machine) (call : OpenCall) : Machine :=
  match call.answer m with
  | .error _ => m
  | .ok (after, _) => after

/-- The call repeated after the failure succeeds without fetching what is missing. -/
theorem retry_succeeds_without_original :
    ¬ ∀ calls (m : Machine), m.toRegistry.FlagsKept →
      ServesWell OpenCall.answer (fun _ _ after status => OpensFully after status) m calls := by
  intro holds
  let first : OpenCall := ⟨withoutResourceAllocation, 0⟩
  let second : OpenCall := ⟨cooperative, 0⟩
  have run : first.answer hookedMachine = .ok (first.leaves hookedMachine, efiNotFound) := rfl
  have again : second.answer (first.leaves hookedMachine) =
    .ok (second.leaves (first.leaves hookedMachine), efiSuccess) := rfl
  have serves := (holds [first, second] hookedMachine flagsKept_hookedMachine _ _ run).2
  obtain ⟨_, parent, has_parent, original⟩ := (serves _ _ again).1.success rfl 1 (by decide)
  obtain rfl : 2 = parent := Option.some.inj has_parent
  exact original rfl

end Thundermod.Shim
