import Thundermod.Shim.Opening
import Thundermod.Shim.Teardown

/-!
# The steps that calls are made of

Every call that returns is a sequence of primitive steps on the machine: a boot
service, an access to a block, a change of the list.  What survives each of them
survives every call, whichever way it ends.
-/

namespace Thundermod.Shim

open Control

/-- What the base driver or the handle database answers, which changes nothing. -/
def Event.isAnswer : Event → Bool
  | .supported _ _ => true
  | .started _ _ => true
  | .stopped _ _ => true
  | .enumerated _ => true
  | _ => false

/-- The block that an interface lies in. -/
def Interface.block : Interface → Option Addr
  | .rootBridgeIo mapping => some mapping
  | .resourceAllocation mapping => mapping

/-- The steps of looking, opening and closing, which change neither the pool nor the list. -/
inductive OpeningStep (platform : Platform) : Machine → Machine → Prop
  | located {m : Machine} : OpeningStep platform m (findDriverBindingProtocol platform m).2
  | answered {m : Machine} {event : Event} (answer : event.isAnswer = true) :
      OpeningStep platform m (m.record event)
  | touched {m : Machine} {block : Addr} : OpeningStep platform m (m.touch block)
  | opened {m : Machine} {request : OpenRecord} :
      OpeningStep platform m (m.openProtocol platform request).machine
  | closed {m : Machine} {key : OpenKey} :
      OpeningStep platform m (m.closeProtocol platform key).machine
  | recorded {m : Machine} {entry : Addr} {original : HostRootBridgeIo}
      (unopened : (m.mapping entry).isOpen = false) :
      OpeningStep platform m (m.modifyMapping entry (·.openWith original))
  | parentRecorded {m : Machine} {parent : Addr} {original : HostResourceAllocation} :
      OpeningStep platform m (m.modifyResourceAllocation parent fun allocation =>
        { allocation with originalProtocol := some original })

/-- One primitive step of a call. -/
inductive Primitive (platform : Platform) : Machine → Machine → Prop
  | opening {before after : Machine} (step : OpeningStep platform before after) :
      Primitive platform before after
  | mapped {m : Machine} {this : DriverBinding} {controller : EfiHandle} {entry : Addr}
      (free : entry ∉ m.live) :
      Primitive platform m (installNewMapping platform this controller entry m).machine
  | allocated {m : Machine} {entry parent : Addr} (free : parent ∉ m.live) :
      Primitive platform m (installNewResourceAllocation platform entry parent m).machine
  | inserted {m : Machine} {entry parent : Addr} : Primitive platform m (m.insertTail entry parent)
  | uninstalled {m : Machine} {handle : Option EfiHandle} {interface : Interface} :
      Primitive platform m (uninstallAndFree platform handle interface interface.block m).machine
  | emptied {m : Machine} : Primitive platform m { m with rootBridgeIoProtocolList := [] }

/-- However a pass of a loop goes on, it has taken such steps. -/
def PassTakes (Step : Machine → Machine → Prop) (m : Machine) :
    Outcome Fault Returned Returned → Prop :=
  Outcome.Ensures (fun r => Reachable Step m r.machine) (fun r => Reachable Step m r.machine)

/-- If the function returns, it has taken such steps. -/
def CallTakes (Step : Machine → Machine → Prop) (m : Machine) (result : Except Fault Returned) :
    Prop :=
  ∀ r, result = .ok r → Reachable Step m r.machine

section Steps

variable {Step : Machine → Machine → Prop} {before m : Machine}

theorem PassTakes.after {pass : Outcome Fault Returned Returned} (takes : PassTakes Step m pass)
    (earlier : Reachable Step before m) : PassTakes Step before pass :=
  takes.imp (fun _ later => earlier.trans later) fun _ later => earlier.trans later

theorem CallTakes.after {result : Except Fault Returned} (takes : CallTakes Step m result)
    (earlier : Reachable Step before m) : CallTakes Step before result :=
  fun r run => earlier.trans (takes r run)

/-- A loop takes the steps that its passes take. -/
theorem forEach_takes {Item : Type} {body : Item → Returned → Outcome Fault Returned Returned}
    (pass : ∀ item state, PassTakes Step state.machine (body item state))
    (items : List Item) (state : Returned) :
    PassTakes Step state.machine (forEach body items state) :=
  forEach_ensures (fun _ (r : Returned) => Reachable Step state.machine r.machine)
    (fun r : Returned => Reachable Step state.machine r.machine)
    (fun item _ between earlier => (pass item between).after earlier) items state
    (Reachable.start ..)

end Steps

section Calls

variable {platform : Platform} {indeterminate : EfiStatus} {this binding : DriverBinding}
  {controller : EfiHandle} {remainingDevicePath : Pointer} {entry : Addr} {m : Machine}
  {r : Returned}

theorem primitives_of_openings {after : Machine}
    (opens : Reachable (OpeningStep platform) m after) :
    Reachable (Primitive platform) m after :=
  opens.mono fun _ _ => .opening

/-- Opening and closing protocols installs and uninstalls nothing. -/
theorem installed_opening {after : Machine} (step : OpeningStep platform m after) :
    after.installed = m.installed := by
  cases step with
  | located => rw [toHandleDatabase_findDriverBindingProtocol]
  | answered _ => rfl
  | touched => rw [Machine.toHandleDatabase_touch]
  | opened => rfl
  | closed => rfl
  | recorded _ => rfl
  | parentRecorded => rfl

/-- A search reads one mapping after the other. -/
theorem search_steps (platform : Platform) (found : Addr → Bool) (items : List Addr)
    (m : Machine) : Reachable (OpeningStep platform) m (search found Machine.touch items m).1 := by
  induction items generalizing m with
  | nil => exact Reachable.start ..
  | cons item rest ih =>
      have first : Reachable (OpeningStep platform) m (m.touch item) := Reachable.single .touched
      by_cases hit : found item = true
      · rwa [search, if_pos hit]
      · rw [search, if_neg hit]
        exact first.trans (ih (m.touch item))

/-! ## Opening and dumping -/

theorem openResourceAllocation_steps (mapping : RootBridgeIoProtocolMapping)
    (original : HostRootBridgeIo) :
    PassTakes (OpeningStep platform) m
      (openResourceAllocation platform binding mapping original m) := by
  unfold openResourceAllocation
  dsimp only
  split
  · cases mapping.parent with
    | none => trivial
    | some parent => exact ((Reachable.single .opened).step .touched).step .parentRecorded
  · exact Reachable.single .opened

theorem openOriginals_steps (unopened : (m.mapping entry).isOpen = false) :
    PassTakes (OpeningStep platform) m (openOriginals platform entry binding m) := by
  let opened := m.openProtocol platform
    (rootBridgeIoOpen binding.driverBindingHandle (m.mapping entry).controller)
  have recorded (original : HostRootBridgeIo) :
      Reachable (OpeningStep platform) m
        (opened.machine.modifyMapping entry (·.openWith original)) :=
    (Reachable.single .opened).step (.recorded unopened)
  unfold openOriginals
  dsimp only
  split
  · exact (openResourceAllocation_steps ..).after (recorded _)
  · exact Reachable.single .opened

theorem openMapping_steps (entry : Addr) (state : Returned) :
    PassTakes (OpeningStep platform) state.machine (openMapping platform entry state) := by
  have touched : Reachable (OpeningStep platform) state.machine (state.machine.touch entry) :=
    Reachable.single .touched
  unfold openMapping
  dsimp only
  split
  · exact touched
  · next opened =>
      split
      · trivial
      · exact (openOriginals_steps (Bool.eq_false_iff.mpr opened)).after touched

theorem openBaseProtocols_steps :
    CallTakes (OpeningStep platform) m (openBaseProtocols platform indeterminate m) := by
  have loop : PassTakes (OpeningStep platform) m (forEach (openMapping platform)
      m.rootBridgeIoProtocolList ⟨indeterminate, m⟩) := forEach_takes openMapping_steps _ _
  intro r run
  unfold openBaseProtocols at run
  split at run
  · cases run
  all_goals
    next outcome =>
      rw [outcome] at loop
      cases run
      exact loop

/-- The rule for the loop, whose passes come to listed entries and keep the list. -/
theorem openBaseProtocols_rule (invariant : Machine → Prop)
    (pass : ∀ entry state, entry ∈ state.machine.rootBridgeIoProtocolList →
      invariant state.machine → (openMapping platform entry state).Ensures
        (fun r => invariant r.machine) (fun r => invariant r.machine))
    (start : invariant m) (run : openBaseProtocols platform indeterminate m = .ok r) :
    invariant r.machine := by
  let Inside (rest : List Addr) (state : Returned) : Prop :=
    (∀ entry ∈ rest, entry ∈ state.machine.rootBridgeIoProtocolList) ∧ invariant state.machine
  have one (entry : Addr) (rest : List Addr) (state : Returned)
      (inside : Inside (entry :: rest) state) : (openMapping platform entry state).Ensures
        (Inside rest) (fun r => invariant r.machine) := by
    obtain ⟨listed, holds⟩ := inside
    have kept := pass entry state (listed entry List.mem_cons_self) holds
    refine (kept.and (openMapping_cases entry state)).imp ?_ fun _ ended => ended.1
    rintro after ⟨later, passed⟩
    refine ⟨?_, later⟩
    intro other member
    rw [passed.same_list]
    exact listed other (List.mem_cons_of_mem _ member)
  have loop := forEach_ensures Inside (fun r : Returned => invariant r.machine) one
    m.rootBridgeIoProtocolList ⟨indeterminate, m⟩ ⟨fun _ listed => listed, start⟩
  unfold openBaseProtocols at run
  split at run
  · cases run
  · next outcome =>
      rw [outcome] at loop
      cases run
      exact loop.2
  · next outcome =>
      rw [outcome] at loop
      cases run
      exact loop

theorem dumpDevice_steps (device : EfiHandle) (state : Returned) :
    PassTakes (OpeningStep platform) state.machine
      (dumpDevice platform this controller device state) := by
  unfold dumpDevice
  dsimp only
  split
  · exact Reachable.single .opened
  · split
    · exact Reachable.single .opened
    · split <;> exact (Reachable.single .opened).step .closed

theorem dumpInstalledDevices_steps :
    CallTakes (OpeningStep platform) m (dumpInstalledDevices platform this controller m) := by
  intro r run
  refine dumpInstalledDevices_invariant (Reachable (OpeningStep platform) m) ?_ ?_ run
  · exact fun device state earlier => (dumpDevice_steps device state).after earlier
  · exact fun status => Reachable.single (.answered rfl)

/-! ## Hooking -/

theorem hookController_steps (cached : m.gDriverBindingSubstituteProtocol = some binding) :
    CallTakes (Primitive platform) m
      (hookController platform this controller remainingDevicePath m) := by
  have asked (entry : Addr) (free : entry ∉ m.live) : Reachable (Primitive platform) m
      (baseSupported platform binding controller remainingDevicePath
        (installNewMapping platform this controller entry m).machine).machine :=
    (Reachable.single (.mapped free)).step (.opening (.answered rfl))
  refine hookController_rule (CallTakes (Primitive platform) m) cached ?_ ?_ ?_ ?_
  · rintro _ ⟨⟩
  · rintro entry free _ ⟨⟩
    exact Reachable.single (.mapped free)
  · rintro entry free status _ ⟨⟩
    exact (asked entry free).step .uninstalled
  · intro entry free _
    refine listMapping_rule (CallTakes (Primitive platform) m) ?_ ?_ ?_
    · rintro _ ⟨⟩
    · rintro parent parent_free _ ⟨⟩
      exact (asked entry free).step (.allocated parent_free)
    · rintro parent parent_free _ _ ⟨⟩
      exact ((asked entry free).step (.allocated parent_free)).step .inserted

theorem probed_steps : Reachable (OpeningStep platform) m (probed platform this controller m) :=
  ((Reachable.single .opened).step .closed).trans (search_steps ..)

theorem supported_steps :
    CallTakes (Primitive platform) m
      (pciBusDriverBindingSupported platform this controller remainingDevicePath m) := by
  cases cached : m.gDriverBindingSubstituteProtocol with
  | none =>
      rw [supported_of_unlocated cached]
      rintro _ ⟨⟩
      exact Reachable.single (.opening .located)
  | some binding =>
      refine supported_rule (CallTakes (Primitive platform) m) cached ?_ ?_
        ((hookController_steps (cached_probed cached)).after (primitives_of_openings probed_steps))
      · rintro status _ ⟨⟩
        exact Reachable.single (.opening .opened)
      · rintro _ ⟨⟩
        exact primitives_of_openings (probed_steps.step (.answered rfl))

/-! ## Cleaning up -/

theorem uninstallResourceAllocation_primitive (handle : Option EfiHandle) (parent : Option Addr) :
    Primitive platform m
      (uninstallResourceAllocationProtocol platform handle parent m).machine :=
  Primitive.uninstalled

theorem uninstallRootBridgeIo_primitive (controller : EfiHandle) (entry : Addr) :
    Primitive platform m
      (uninstallRootBridgeIoProtocolProtocol platform controller entry m).machine :=
  Primitive.uninstalled

theorem uninstallSubstitutes_steps :
    PassTakes (Primitive platform) m (uninstallSubstitutes platform controller entry m) := by
  have touched : Reachable (Primitive platform) m (m.touch entry) :=
    Reachable.single (.opening .touched)
  have first := touched.step (uninstallResourceAllocation_primitive
    (m.mapping entry).substitutedProtocol.parentHandle (m.mapping entry).parent)
  unfold uninstallSubstitutes
  dsimp only
  split
  · have second := first.step (uninstallRootBridgeIo_primitive controller entry)
    split
    · exact second.step (.opening .touched)
    · exact second
  · exact first

theorem cleanupMapping_steps (entry : Addr) (state : Returned) :
    PassTakes (Primitive platform) state.machine
      (cleanupMapping platform this controller entry state) := by
  let first := state.machine.closeProtocol platform
    (rootBridgeIoOpen this.driverBindingHandle (some controller)).key
  have closed (original : HostRootBridgeIo) : Reachable (OpeningStep platform) state.machine
      ((first.machine.touch entry).closeProtocol platform (resourceAllocationOpen
        this.driverBindingHandle (some controller) original.parentHandle).key).machine :=
    ((Reachable.single .closed).step .touched).step .closed
  unfold cleanupMapping
  dsimp only
  split
  · split
    · trivial
    · split
      · exact uninstallSubstitutes_steps.after (primitives_of_openings (closed _))
      · exact primitives_of_openings (closed _)
  · exact Reachable.single (.opening .closed)

theorem cleanupDriver_steps :
    CallTakes (Primitive platform) m (cleanupDriver platform indeterminate this controller m) := by
  have loop : PassTakes (Primitive platform) m (forEach (cleanupMapping platform this controller)
      m.rootBridgeIoProtocolList ⟨indeterminate, m⟩) :=
    forEach_takes cleanupMapping_steps _ _
  intro r run
  unfold cleanupDriver at run
  split at run
  · cases run
  · next outcome =>
      rw [outcome] at loop
      cases run
      exact Reachable.step loop .emptied
  · next outcome =>
      rw [outcome] at loop
      cases run
      exact loop

/-! ## Calls and runs -/

/-- `Start` opens, and changes neither the pool nor the list. -/
theorem start_steps : CallTakes (OpeningStep platform) m
    (pciBusDriverBindingStart platform indeterminate this controller remainingDevicePath m) := by
  intro r run
  have located : Reachable (OpeningStep platform) m (findDriverBindingProtocol platform m).2 :=
    Reachable.single .located
  obtain ⟨opened, opening, outcome⟩ := start_cases run
  have opens := located.trans (openBaseProtocols_steps opened opening)
  rcases outcome with ⟨_, rfl⟩ | ⟨_, original, status, dumped, _, _, dump, rfl⟩
  · exact opens
  · exact (opens.step (.answered rfl)).trans (dumpInstalledDevices_steps dumped dump)

/-- A call that returns has taken primitive steps. -/
theorem steps_of_run {call : Call} (run : call.run platform indeterminate m = .ok r) :
    Reachable (Primitive platform) m r.machine := by
  cases call with
  | supported this controller remainingDevicePath => exact supported_steps r run
  | start this controller remainingDevicePath => exact primitives_of_openings (start_steps r run)
  | stop this controller numberOfChildren childHandleBuffer =>
      have stopped (status : EfiStatus) :
          Reachable (Primitive platform) m (m.record (.stopped controller status)) :=
        Reachable.single (.opening (.answered rfl))
      obtain ⟨_, status, _, _, ⟨_, rfl⟩ | ⟨_, cleanup⟩⟩ := stop_cases run
      · exact stopped status
      · exact (stopped efiSuccess).trans (cleanupDriver_steps r cleanup)

end Calls

/-- What every primitive step of an admitted call preserves holds in every reachable state. -/
theorem ReachableBy.primitive_invariant {Admitted : Platform → Call → Machine → Prop}
    {m : Machine} (reached : ReachableBy Admitted m) (invariant : Machine → Prop)
    (start : ∀ imageHandle gPciBusDriverBinding,
      invariant (pciDxeShimMain imageHandle gPciBusDriverBinding))
    (preserved : ∀ platform, (∃ call m, Admitted platform call m) → ∀ before after,
      invariant before → Primitive platform before after → invariant after) : invariant m := by
  refine reached.invariant invariant start ?_
  intro platform indeterminate call before r holds admitted run
  exact (steps_of_run run).invariant invariant holds (preserved platform ⟨call, before, admitted⟩)

end Thundermod.Shim
