import Thundermod.Shim.Sessions

/-!
# The heap during sessions

As long as nothing is torn down, every block that the shim reads is live and every block
that it frees is freed for the first time, whatever the firmware and the clients do.
-/

namespace Thundermod.Shim

open Control

/-- The block of an access that should not have been made. -/
def Event.heapError : Event → Option Addr
  | .useAfterFree block => some block
  | .doubleFree block => some block
  | _ => none

/-- The reads and frees of freed blocks so far. -/
def Machine.heapErrors (m : Machine) : List Addr :=
  m.log.filterMap Event.heapError

/-- If the function returns, the heap has been used as it should. -/
def CallSafe (m : Machine) (result : Except Fault Returned) : Prop :=
  ∀ r, result = .ok r → r.machine.heapErrors = m.heapErrors

section Memory

variable {block : Addr} {m : Machine}

theorem touch_of_live (live : block ∈ m.live) : m.touch block = m :=
  if_pos live

theorem search_of_live {found : Addr → Bool} {blocks : List Addr}
    (live : ∀ block ∈ blocks, block ∈ m.live) : (search found Machine.touch blocks m).1 = m := by
  induction blocks with
  | nil => rfl
  | cons first rest ih =>
      have here := touch_of_live (live first List.mem_cons_self)
      have others := ih fun block member => live block (List.mem_cons_of_mem _ member)
      by_cases hit : found first = true
      · rw [search, if_pos hit, here]
      · rw [search, if_neg hit, here, others]

theorem heapErrors_freePool (live : block ∈ m.live) :
    (m.freePool (some block)).heapErrors = m.heapErrors := by
  simp only [Machine.freePool, if_pos live]
  exact List.filterMap_cons_none rfl

end Memory

/-! ## Connecting calls -/

section Calls

variable {platform : Platform} {this binding : DriverBinding} {controller : EfiHandle}
  {remainingDevicePath : Pointer} {indeterminate : EfiStatus} {entry : Addr} {m : Machine}
  {r : Returned}

theorem safe_hookController (cached : m.gDriverBindingSubstituteProtocol = some binding) :
    CallSafe m (hookController platform this controller remainingDevicePath m) := by
  refine hookController_rule (CallSafe m) cached ?_ ?_ ?_ ?_
  · rintro _ ⟨⟩
  · rintro entry _ _ ⟨⟩
    exact List.filterMap_cons_none rfl
  · rintro entry _ status _ ⟨⟩
    unfold uninstallRootBridgeIoProtocolProtocol uninstallAndFree
    dsimp only
    split
    · refine (heapErrors_freePool ?_).trans ?_
      · exact List.mem_cons_self
      · rfl
    · rfl
  · intro entry _ _
    refine listMapping_rule (CallSafe m) ?_ ?_ ?_
    · rintro _ ⟨⟩
    · rintro parent _ _ ⟨⟩
      rfl
    · rintro parent _ _ _ ⟨⟩
      rfl

theorem heapErrors_probed (wellFormed : m.toRegistry.WellFormed) :
    (probed platform this controller m).heapErrors = m.heapErrors := by
  have searched : probed platform this controller m = ((m.openProtocol platform
      (rootBridgeIoProbe this.driverBindingHandle controller)).machine.closeProtocol platform
        (rootBridgeIoProbe this.driverBindingHandle controller).key).machine :=
    search_of_live fun _ listed => wellFormed.live listed
  rw [searched]
  rfl

theorem heapErrors_findDriverBindingProtocol :
    (findDriverBindingProtocol platform m).2.heapErrors = m.heapErrors := by
  unfold findDriverBindingProtocol
  split <;> rfl

theorem safe_supported (wellFormed : m.toRegistry.WellFormed) :
    CallSafe m
      (pciBusDriverBindingSupported platform this controller remainingDevicePath m) := by
  cases cached : m.gDriverBindingSubstituteProtocol with
  | none =>
      rw [supported_of_unlocated cached]
      rintro _ ⟨⟩
      exact heapErrors_findDriverBindingProtocol
  | some binding =>
      have probed_safe : (probed platform this controller m).heapErrors = m.heapErrors :=
        heapErrors_probed wellFormed
      refine supported_rule (CallSafe m) cached ?_ ?_ ?_
      · rintro status _ ⟨⟩
        rfl
      · rintro _ ⟨⟩
        exact probed_safe
      · intro r run
        exact (safe_hookController (cached_probed cached) r run).trans probed_safe

/-- However a pass goes on, the heap has been used as it should. -/
def PassSafe (m : Machine) : Outcome Fault Returned Returned → Prop :=
  Outcome.Ensures (fun r => r.machine.heapErrors = m.heapErrors)
    (fun r => r.machine.heapErrors = m.heapErrors)

theorem safe_openResourceAllocation {mapping : RootBridgeIoProtocolMapping}
    {original : HostRootBridgeIo}
    (live : ∀ parent, mapping.parent = some parent → parent ∈ m.live) :
    PassSafe m (openResourceAllocation platform binding mapping original m) := by
  let opened := (m.openProtocol platform (resourceAllocationOpen binding.driverBindingHandle
    mapping.controller original.parentHandle)).machine
  have harmless : opened.heapErrors = m.heapErrors := rfl
  unfold openResourceAllocation
  dsimp only
  split
  · cases has_parent : mapping.parent with
    | none => trivial
    | some parent =>
        have touched : opened.touch parent = opened := touch_of_live (live parent has_parent)
        exact (congrArg Machine.heapErrors touched).trans harmless
  · exact harmless

theorem safe_openMapping {state : Returned} (wellFormed : state.machine.toRegistry.WellFormed)
    (listed : entry ∈ state.machine.rootBridgeIoProtocolList) :
    PassSafe state.machine (openMapping platform entry state) := by
  obtain ⟨parent, complete⟩ := wellFormed.complete entry listed
  have live (other : Addr) (has_parent : (state.machine.mapping entry).parent = some other) :
      other ∈ state.machine.live := by
    obtain rfl := Option.some.inj (complete.has_parent.symm.trans has_parent)
    exact complete.parent_live
  unfold openMapping
  dsimp only
  rw [touch_of_live complete.live]
  split
  · rfl
  · split
    · trivial
    · unfold openOriginals
      dsimp only
      split
      · exact safe_openResourceAllocation (m := Machine.modifyMapping ..) live
      · rfl

theorem safe_openBaseProtocols (wellFormed : m.toRegistry.WellFormed) :
    CallSafe m (openBaseProtocols platform indeterminate m) := by
  intro r run
  refine (openBaseProtocols_rule (fun after => after.toRegistry.WellFormed ∧
    after.heapErrors = m.heapErrors) ?_ ⟨wellFormed, rfl⟩ run).2
  rintro entry state listed ⟨wellFormed', same⟩
  refine ((safe_openMapping wellFormed' listed).and (openMapping_cases entry state)).imp ?_ ?_
  all_goals
    rintro after ⟨safe, pass⟩
    exact ⟨wellFormed'.openPass pass, safe.trans same⟩

theorem safe_dumpInstalledDevices :
    CallSafe m (dumpInstalledDevices platform this controller m) := by
  intro r run
  refine dumpInstalledDevices_invariant (fun after => after.heapErrors = m.heapErrors) ?_
    (fun _ => rfl) run
  intro device state same
  unfold dumpDevice
  dsimp only
  split
  · exact same
  · split
    · exact same
    · split <;> exact same

theorem safe_start (wellFormed : m.toRegistry.WellFormed) : CallSafe m
    (pciBusDriverBindingStart platform indeterminate this controller remainingDevicePath m) := by
  intro r run
  have found : (findDriverBindingProtocol platform m).2.toRegistry.WellFormed := by
    rwa [toRegistry_findDriverBindingProtocol]
  obtain ⟨opened, opening, outcome⟩ := start_cases run
  have safe := (safe_openBaseProtocols found opened opening).trans
    heapErrors_findDriverBindingProtocol
  rcases outcome with ⟨_, rfl⟩ | ⟨_, original, status, dumped, _, _, dump, rfl⟩
  · exact safe
  · exact (safe_dumpInstalledDevices dumped dump).trans safe

/-- No connecting call uses the heap as it should not. -/
theorem safe_call {call : Call} (connects : Connects platform call m)
    (wellFormed : m.toRegistry.WellFormed) : CallSafe m (call.run platform indeterminate m) := by
  cases call with
  | supported this controller remainingDevicePath => exact safe_supported wellFormed
  | start this controller remainingDevicePath => exact safe_start wellFormed
  | stop this controller numberOfChildren childHandleBuffer => exact connects.elim

end Calls

/-! ## Clients -/

section Clients

variable {σ : Type} {host : HostBridge σ} {world after : World σ} {status : EfiStatus}
  {m : Machine}

theorem heapErrors_traceDescriptors (configuration : Buffer) (bytes : List UInt8) (m : Machine) :
    (traceDescriptors configuration bytes m).heapErrors = m.heapErrors := by
  fun_induction traceDescriptors configuration bytes m with
  | case1 m => rfl
  | case2 m rest ih =>
      rw [ih]
      unfold traceDescriptor
      split <;> rfl
  | case3 => rfl

theorem heapErrors_trace {signature : ResourceAllocationSignature}
    (entry : ResourceAllocationEntry signature) (arguments : signature.Arguments) (m : Machine) :
    (entry.trace arguments m).heapErrors = m.heapErrors := by
  cases entry with
  | submitResources => exact heapErrors_traceDescriptors _ _ m
  | _ => rfl

/-- In a well-formed registry, the lookup of a parent changes nothing. -/
theorem same_findResourceAllocation {substitute : ResourceAllocationPtr} {m' : Machine}
    {found : Option HostResourceAllocation} (wellFormed : m.toRegistry.WellFormed)
    (run : findResourceAllocationProtocolMappingBySubstitute substitute m = .ok (found, m')) :
    m' = m := by
  have searched (accepts : Addr → Bool) :
      (search accepts Machine.touch m.rootBridgeIoProtocolList m).1 = m :=
    search_of_live fun _ listed => wellFormed.live listed
  unfold findResourceAllocationProtocolMappingBySubstitute at run
  simp only [searched, search_result] at run
  split at run
  · exact (Prod.mk.inj (Except.ok.inj run)).2.symm
  · next entry first =>
      obtain ⟨parent, complete⟩ := wellFormed.complete entry (List.mem_of_find?_eq_some first)
      rw [complete.has_parent] at run
      exact (Prod.mk.inj (Except.ok.inj run)).2.symm.trans (touch_of_live complete.parent_live)

/-- A call through a substitute only reads live blocks. -/
theorem heapErrors_callSubstitute {call : ClientCall}
    (wellFormed : world.machine.toRegistry.WellFormed)
    (answered : callSubstitute host world call = .ok (after, status)) :
    after.machine.heapErrors = world.machine.heapErrors := by
  have searched (found : Addr → Bool) : (search found Machine.touch
      world.machine.rootBridgeIoProtocolList world.machine).1 = world.machine :=
    search_of_live fun _ listed => wellFormed.live listed
  obtain ⟨received, recorded⟩ := recorded_of_answered answered
  cases recorded with
  | @rootBridgeIo entry original call listed recorded =>
      obtain ⟨parent, complete⟩ := wellFormed.complete entry listed
      have function := entry_substituteRootBridgeIo
        (world.machine.mapping entry).substitutedProtocol call.entry
      rw [complete.functions] at function
      simp only [callSubstitute, function, callRootBridgeIo_shimFunction, forwardRootBridgeIo]
        at answered
      split at answered
      · cases answered
      · cases answered
        exact congrArg Machine.heapErrors (searched _)
  | @resourceAllocation entry parent original call listed has_parent recorded =>
      obtain ⟨parent', complete⟩ := wellFormed.complete entry listed
      obtain rfl : parent' = parent :=
        Option.some.inj (complete.has_parent.symm.trans has_parent)
      have function := entry_substituteResourceAllocation
        (world.machine.resourceAllocation parent').substitutedProtocol call.entry
      rw [complete.parent_functions] at function
      simp only [callSubstitute, function, callResourceAllocation_shimFunction,
        forwardResourceAllocation] at answered
      split at answered
      · cases answered
      · cases answered
      · next original' m found =>
          cases answered
          rw [heapErrors_trace, same_findResourceAllocation wellFormed found]

end Clients

/--
However clients and connecting calls are interleaved, the shim neither reads a block that
has been freed nor frees a block twice.
-/
theorem sessions_respect_heap {σ : Type} {host : HostBridge σ} {state : σ}
    {imageHandle : EfiHandle} {gPciBusDriverBinding : Pointer} {session : Session σ}
    (reached : Reachable (SessionStep host)
      (Session.start imageHandle gPciBusDriverBinding state) session) (block : Addr) :
    .useAfterFree block ∉ session.machine.log ∧ .doubleFree block ∉ session.machine.log := by
  have safe : session.Transparent host state ∧ session.machine.heapErrors = [] := by
    refine reached.invariant (fun session => session.Transparent host state ∧
      session.machine.heapErrors = []) ⟨transparent_of_reachable (Reachable.start ..), rfl⟩ ?_
    rintro before after ⟨transparent, harmless⟩ step
    cases step with
    | connect step =>
        obtain ⟨platform, indeterminate, call, status, connects, run⟩ := step
        refine ⟨transparent.connect ⟨platform, indeterminate, call, status, connects, run⟩, ?_⟩
        exact (safe_call connects transparent.wellFormed _ run).trans harmless
    | client answered =>
        refine ⟨transparent.client answered, ?_⟩
        exact (heapErrors_callSubstitute transparent.wellFormed answered).trans harmless
  have none_of_error (event : Event) (error : event.heapError = some block) :
      event ∉ session.machine.log := by
    intro member
    have found : block ∈ session.machine.heapErrors := List.mem_filterMap.mpr ⟨event, member, error⟩
    rw [safe.2] at found
    cases found
  exact ⟨none_of_error _ rfl, none_of_error _ rfl⟩

theorem sessions_respect_heap_flushed :
    .useAfterFree 1 ∉ flushedSession.machine.log ∧ .doubleFree 1 ∉ flushedSession.machine.log := by
  obtain ⟨imageHandle, gPciBusDriverBinding, reached⟩ := reachable_flushedSession
  exact sessions_respect_heap reached 1

end Thundermod.Shim
