import Thundermod.Shim.DriverBinding

/-!
# What `Stop` tears down

The number of children and the controllers of the mappings play no part: a `Stop`
that gets through removes the whole list, whatever it was called for.
-/

namespace Thundermod.Shim

open Control

/-- A teardown that removes no more than what belongs to the controller. -/
structure TornDown (controller : EfiHandle) (before after : Machine) : Prop where
  mappings : ∀ entry ∈ before.rootBridgeIoProtocolList,
    (before.mapping entry).controller ≠ some controller →
      entry ∈ after.rootBridgeIoProtocolList ∧ after.mapping entry = before.mapping entry ∧
      (entry ∈ before.live → entry ∈ after.live) ∧
      ∀ parent, (before.mapping entry).parent = some parent →
        after.resourceAllocation parent = before.resourceAllocation parent ∧
        (parent ∈ before.live → parent ∈ after.live)
  opens : ∀ request ∈ before.opens, request.key.controller ≠ some controller →
    request ∈ after.opens
  rootBridgeIo : ∀ other ≠ controller, ∀ mapping,
    (other, .rootBridgeIo mapping) ∈ before.installed →
      (other, .rootBridgeIo mapping) ∈ after.installed
  resourceAllocation : ∀ entry ∈ before.rootBridgeIoProtocolList,
    (before.mapping entry).controller ≠ some controller → ∀ handle,
      (handle, .resourceAllocation (before.mapping entry).parent) ∈ before.installed →
        (handle, .resourceAllocation (before.mapping entry).parent) ∈ after.installed

/--
`Stop` returns; if only children are stopped, the registry and the installed
substitutes are the same, and else only what belongs to the controller is gone.
-/
def StopScoped (platform : Platform) (indeterminate : EfiStatus) (this : DriverBinding)
    (controller : EfiHandle) (numberOfChildren : Nat) (childHandleBuffer : List EfiHandle)
    (m : Machine) : Prop :=
  ∃ r, pciBusDriverBindingStop platform indeterminate this controller numberOfChildren
      childHandleBuffer m = .ok r ∧
    (0 < numberOfChildren →
      r.machine.toRegistry = m.toRegistry ∧ r.machine.installed = m.installed) ∧
    (numberOfChildren = 0 → TornDown controller m r.machine)

/-! ## The services that a run asks -/

/-- The event is no call of `CloseProtocol`, of an uninstall or of the base driver that failed. -/
def Event.Succeeds : Event → Prop
  | .closed _ status => status = efiSuccess
  | .uninstalled _ _ status => status = efiSuccess
  | .stopped _ status => status = efiSuccess
  | _ => True

/-- None of the calls that a run has logged when it returns has failed. -/
def ServicesSucceed (m : Machine) (result : Except Fault Returned) : Prop :=
  ∀ r events, result = .ok r → events ++ m.log = r.machine.log → ∀ event ∈ events, event.Succeeds

/-- A run that returns behind a failed call is not one in which the services succeed. -/
theorem ServicesSucceed.absurd {m : Machine} {result : Except Fault Returned} {r : Returned}
    {event : Event} {earlier : List Event} (succeed : ServicesSucceed m result)
    (run : result = .ok r) (log : r.machine.log = event :: earlier) (grown : m.log <:+ earlier)
    (failed : ¬ event.Succeeds) : False := by
  obtain ⟨events, rfl⟩ := grown
  exact failed (succeed r (event :: events) run log.symm event List.mem_cons_self)

/-- The result of a close or an uninstall that has failed, with what was logged before. -/
inductive ServiceFails (platform : Platform) (log : List Event) : Returned → Prop
  | closed {m : Machine} {key : OpenKey} (grown : log <:+ m.log)
      (failed : platform.closeStatus m key ≠ efiSuccess) :
      ServiceFails platform log (m.closeProtocol platform key)
  | uninstalled {m : Machine} {handle : Option EfiHandle} {interface : Interface}
      (grown : log <:+ m.log) (failed : platform.uninstallStatus m handle interface ≠ efiSuccess) :
      ServiceFails platform log (m.uninstallMultipleProtocolInterfaces platform handle interface)

namespace ServiceFails

variable {platform : Platform} {log before : List Event} {r : Returned}

theorem status (fails : ServiceFails platform log r) : r.status ≠ efiSuccess := by
  cases fails with
  | closed _ failed => exact failed
  | uninstalled _ failed => exact failed

theorem log_suffix (fails : ServiceFails platform log r) : log <:+ r.machine.log := by
  cases fails with
  | closed grown _ => exact grown.trans (List.suffix_cons _ _)
  | uninstalled grown _ => exact grown.trans (List.suffix_cons _ _)

theorem earlier (fails : ServiceFails platform log r) (grown : before <:+ log) :
    ServiceFails platform before r := by
  cases fails with
  | closed later failed => exact .closed (grown.trans later) failed
  | uninstalled later failed => exact .uninstalled (grown.trans later) failed

theorem absurd {m : Machine} {result : Except Fault Returned}
    (fails : ServiceFails platform m.log r) (run : result = .ok r)
    (succeed : ServicesSucceed m result) : False := by
  cases fails with
  | closed grown failed => exact succeed.absurd run rfl grown failed
  | uninstalled grown failed => exact succeed.absurd run rfl grown failed

end ServiceFails

/-! ## The log only grows -/

namespace Machine

variable (platform : Platform) (key : OpenKey) (handle : Option EfiHandle)
  (interface : Interface) (block : Addr) (freed : Option Addr) (m : Machine)

theorem log_suffix_touch : m.log <:+ (m.touch block).log := by
  unfold touch
  split
  · exact List.suffix_refl _
  · exact List.suffix_cons _ _

theorem log_suffix_freePool : m.log <:+ (m.freePool freed).log := by
  cases freed with
  | none => exact List.suffix_refl _
  | some block =>
      unfold freePool
      dsimp only
      split <;> exact List.suffix_cons _ _

theorem log_suffix_closeProtocol : m.log <:+ (m.closeProtocol platform key).machine.log :=
  List.suffix_cons _ _

theorem log_suffix_uninstallAndFree :
    m.log <:+ (uninstallAndFree platform handle interface freed m).machine.log := by
  have uninstalled : m.log <:+
      (m.uninstallMultipleProtocolInterfaces platform handle interface).machine.log :=
    List.suffix_cons _ _
  unfold uninstallAndFree
  split
  · exact uninstalled.trans (log_suffix_freePool _ _)
  · exact uninstalled

end Machine

/-! ## Passes of the cleanup loop -/

/-- What a pass for the controller keeps. -/
structure PassKeeps (controller : EfiHandle) (before after : Machine) : Prop where
  mapping : after.mapping = before.mapping
  opens : ∀ request ∈ before.opens, request.key.controller ≠ some controller →
    request ∈ after.opens
  rootBridgeIo : ∀ other ≠ controller, ∀ mapping,
    (other, .rootBridgeIo mapping) ∈ before.installed →
      (other, .rootBridgeIo mapping) ∈ after.installed

theorem PassKeeps.refl (controller : EfiHandle) (m : Machine) : PassKeeps controller m m :=
  ⟨rfl, fun _ member _ => member, fun _ _ _ member => member⟩

theorem PassKeeps.trans {controller : EfiHandle} {before middle after : Machine}
    (first : PassKeeps controller before middle) (second : PassKeeps controller middle after) :
    PassKeeps controller before after where
  mapping := second.mapping.trans first.mapping
  opens := fun request member other =>
    second.opens request (first.opens request member other) other
  rootBridgeIo := fun other different mapping member =>
    second.rootBridgeIo other different mapping (first.rootBridgeIo other different mapping member)

section Cleanup

variable {platform : Platform} {indeterminate : EfiStatus} {this : DriverBinding}
  {controller : EfiHandle} {m : Machine}

theorem passKeeps_touch (block : Addr) : PassKeeps controller m (m.touch block) where
  mapping := by simp
  opens := fun _ member _ => by simpa using member
  rootBridgeIo := fun _ _ _ member => by simpa using member

theorem passKeeps_closeProtocol (key : OpenKey) (own : key.controller = some controller) :
    PassKeeps controller m (m.closeProtocol platform key).machine where
  mapping := rfl
  opens := fun _ member other =>
    Machine.mem_opens_closeProtocol member fun same => other (same ▸ own)
  rootBridgeIo := fun _ _ _ member => member

theorem passKeeps_uninstallAndFree {handle : Option EfiHandle} {interface : Interface}
    {freed : Option Addr}
    (own : ∀ other ≠ controller, ∀ mapping,
      (some other, Interface.rootBridgeIo mapping) ≠ (handle, interface)) :
    PassKeeps controller m (uninstallAndFree platform handle interface freed m).machine where
  mapping := mapping_uninstallAndFree ..
  opens := fun _ member _ => by rwa [opens_uninstallAndFree]
  rootBridgeIo := fun other different mapping member =>
    mem_installed_uninstallAndFree member (own other different mapping)

/-- Both substitutes of a mapping of the controller have been uninstalled. -/
structure SubstitutesGone (controller : EfiHandle) (before after : Machine) : Prop where
  opens : after.opens = before.opens
  closes : after.closes = before.closes
  log : before.log <:+ after.log
  keeps : PassKeeps controller before after

theorem serviceFails_uninstallAndFree {handle : Option EfiHandle} {interface : Interface}
    {freed : Option Addr} {log : List Event} (grown : log <:+ m.log)
    (failed : (uninstallAndFree platform handle interface freed m).status ≠ efiSuccess) :
    ServiceFails platform log (uninstallAndFree platform handle interface freed m) := by
  have same : uninstallAndFree platform handle interface freed m =
      m.uninstallMultipleProtocolInterfaces platform handle interface :=
    congrArg (Returned.mk (platform.uninstallStatus m handle interface)) (if_neg failed)
  rw [same]
  exact .uninstalled grown failed

/-- The uninstalls of a pass concern no root-bridge substitute of another controller. -/
theorem uninstallSubstitutes_ends (controller : EfiHandle) (entry : Addr) (m : Machine) :
    (uninstallSubstitutes platform controller entry m).Ends (fun _ => False)
      (fun state => SubstitutesGone controller m state.machine)
      (ServiceFails platform m.log) := by
  have touched := Machine.log_suffix_touch entry m
  have first := touched.trans (Machine.log_suffix_uninstallAndFree platform
    (m.mapping entry).substitutedProtocol.parentHandle
    (.resourceAllocation (m.mapping entry).parent) (m.mapping entry).parent (m.touch entry))
  unfold uninstallSubstitutes
  dsimp only
  split
  · split
    · refine ⟨?_, ?_, ?_, (passKeeps_touch entry).trans (PassKeeps.trans
        (passKeeps_uninstallAndFree ?_) (PassKeeps.trans (passKeeps_uninstallAndFree ?_)
          (passKeeps_touch entry)))⟩
      · simp [uninstallResourceAllocationProtocol, uninstallRootBridgeIoProtocolProtocol]
      · simp [uninstallResourceAllocationProtocol, uninstallRootBridgeIoProtocolProtocol]
      · exact (first.trans (Machine.log_suffix_uninstallAndFree ..)).trans
          (Machine.log_suffix_touch entry _)
      · intro other _ mapping same
        cases (Prod.ext_iff.mp same).2
      · intro other different mapping same
        exact different (Option.some.inj (Prod.ext_iff.mp same).1)
    · next failed => exact serviceFails_uninstallAndFree first failed
  · next failed => exact serviceFails_uninstallAndFree touched failed

/-- The machine once both originals of a mapping have been closed. -/
def closedOriginals (platform : Platform) (this : DriverBinding) (controller : EfiHandle)
    (entry : Addr) (original : HostRootBridgeIo) (m : Machine) : Machine :=
  let closed := (m.closeProtocol platform
    (rootBridgeIoOpen this.driverBindingHandle (some controller)).key).machine
  ((closed.touch entry).closeProtocol platform (resourceAllocationOpen this.driverBindingHandle
    (some controller) original.parentHandle).key).machine

theorem passKeeps_closedOriginals (entry : Addr) (original : HostRootBridgeIo) :
    PassKeeps controller m (closedOriginals platform this controller entry original m) := by
  refine PassKeeps.trans ?_ (passKeeps_closeProtocol _ rfl)
  refine PassKeeps.trans ?_ (passKeeps_touch entry)
  exact passKeeps_closeProtocol _ rfl

theorem log_suffix_closedOriginals (entry : Addr) (original : HostRootBridgeIo) :
    m.log <:+ (closedOriginals platform this controller entry original m).log :=
  ((Machine.log_suffix_closeProtocol ..).trans (Machine.log_suffix_touch entry _)).trans
    (Machine.log_suffix_closeProtocol ..)

/-- A pass faults at a mapping that was never opened, goes on, or ends at a failing service. -/
theorem cleanupMapping_ends (entry : Addr) (state : Returned) :
    (cleanupMapping platform this controller entry state).Ends
      (fun _ => (state.machine.mapping entry).originalProtocol = none)
      (fun after => ∃ original, (state.machine.mapping entry).originalProtocol = some original ∧
        SubstitutesGone controller
          (closedOriginals platform this controller entry original state.machine) after.machine)
      (ServiceFails platform state.machine.log) := by
  unfold cleanupMapping
  dsimp only
  split
  · split
    · next unopened => exact unopened
    · next original opened =>
        split
        · exact (uninstallSubstitutes_ends controller entry _).imp (fun _ => False.elim)
            (fun _ gone => ⟨original, opened, gone⟩)
            (fun _ fails => fails.earlier (log_suffix_closedOriginals entry original))
        · next failed =>
            refine .closed ?_ failed
            exact (Machine.log_suffix_closeProtocol ..).trans (Machine.log_suffix_touch entry _)
  · next failed => exact .closed (List.suffix_refl _) failed

/-! ## The whole cleanup -/

/-- The whole list has been cleaned up: all of its mappings were open. -/
structure CleanedOut (controller : EfiHandle) (before after : Machine) : Prop where
  emptied : after.rootBridgeIoProtocolList = []
  opened : ∀ entry ∈ before.rootBridgeIoProtocolList,
    (before.mapping entry).originalProtocol ≠ none
  keeps : PassKeeps controller before after

theorem cleanupLoop_ends (indeterminate : EfiStatus) (this : DriverBinding)
    (controller : EfiHandle) (m : Machine) :
    (forEach (cleanupMapping platform this controller) m.rootBridgeIoProtocolList
      ⟨indeterminate, m⟩).Ends
      (fun _ => ∃ entry ∈ m.rootBridgeIoProtocolList, (m.mapping entry).originalProtocol = none)
      (fun state => (∀ entry ∈ m.rootBridgeIoProtocolList,
        (m.mapping entry).originalProtocol ≠ none) ∧ PassKeeps controller m state.machine)
      (ServiceFails platform m.log) := by
  -- The mappings in front of the rest are open, and the rest is still to be seen.
  let Inside (rest : List Addr) (state : Returned) : Prop :=
    (∃ done, m.rootBridgeIoProtocolList = done ++ rest ∧
      ∀ entry ∈ done, (m.mapping entry).originalProtocol ≠ none) ∧
      PassKeeps controller m state.machine ∧ m.log <:+ state.machine.log
  have one (entry : Addr) (rest : List Addr) (state : Returned)
      (inside : Inside (entry :: rest) state) :
      (cleanupMapping platform this controller entry state).Ends
        (fun _ => ∃ entry ∈ m.rootBridgeIoProtocolList, (m.mapping entry).originalProtocol = none)
        (Inside rest) (ServiceFails platform m.log) := by
    obtain ⟨⟨done, parts, opened⟩, kept, grown⟩ := inside
    refine (cleanupMapping_ends entry state).imp ?_ ?_ ?_
    · intro _ unopened
      refine ⟨entry, by simp [parts], ?_⟩
      rwa [kept.mapping] at unopened
    · rintro after ⟨original, found, gone⟩
      refine ⟨⟨done ++ [entry], by simp [parts], ?_⟩, ?_, ?_⟩
      · intro other member
        rcases List.mem_append.mp member with earlier | here
        · exact opened other earlier
        · rw [List.mem_singleton.mp here, ← kept.mapping, found]
          exact Option.some_ne_none original
      · exact kept.trans ((passKeeps_closedOriginals entry original).trans gone.keeps)
      · exact grown.trans ((log_suffix_closedOriginals entry original).trans gone.log)
    · exact fun _ fails => fails.earlier grown
  refine (forEach_ends Inside one m.rootBridgeIoProtocolList ⟨indeterminate, m⟩
    ⟨⟨[], rfl, fun _ member => nomatch member⟩, PassKeeps.refl controller m,
      List.suffix_refl _⟩).imp (fun _ => id) ?_ (fun _ => id)
  rintro state ⟨⟨done, parts, opened⟩, kept, _⟩
  rw [List.append_nil] at parts
  exact ⟨parts ▸ opened, kept⟩

/-- A cleanup that returns ends at a failing service or has cleaned up the whole list. -/
theorem cleanupDriver_cases {r : Returned}
    (run : cleanupDriver platform indeterminate this controller m = .ok r) :
    ServiceFails platform m.log r ∨ CleanedOut controller m r.machine := by
  have loop := @cleanupLoop_ends platform indeterminate this controller m
  unfold cleanupDriver at run
  split at run
  · cases run
  · next outcome =>
      rw [outcome] at loop
      obtain ⟨opened, kept⟩ := loop
      obtain rfl := Except.ok.inj run
      exact Or.inr ⟨rfl, opened, kept.mapping, kept.opens, kept.rootBridgeIo⟩
  · next outcome =>
      rw [outcome] at loop
      obtain rfl := Except.ok.inj run
      exact Or.inl loop

/-- A cleanup of mappings that were all opened returns. -/
theorem cleanupDriver_of_open (indeterminate : EfiStatus) (this : DriverBinding)
    (controller : EfiHandle) (m : Machine)
    (opened : ∀ entry ∈ m.rootBridgeIoProtocolList, (m.mapping entry).originalProtocol ≠ none) :
    ∃ r, cleanupDriver platform indeterminate this controller m = .ok r := by
  have loop := @cleanupLoop_ends platform indeterminate this controller m
  unfold cleanupDriver
  split
  · next outcome =>
      rw [outcome] at loop
      obtain ⟨entry, listed, unopened⟩ := loop
      exact absurd unopened (opened entry listed)
  · exact ⟨_, rfl⟩
  · exact ⟨_, rfl⟩

/-- With nothing on the list there is nothing to clean up. -/
theorem cleanupDriver_of_empty {r : Returned} (empty : m.rootBridgeIoProtocolList = [])
    (run : cleanupDriver platform indeterminate this controller m = .ok r) :
    r.machine.toRegistry = m.toRegistry ∧ r.machine.toHandleDatabase = m.toHandleDatabase ∧
      r.machine.closes = m.closes := by
  simp only [cleanupDriver, empty, forEach] at run
  cases run
  exact ⟨by rw [← empty], rfl, rfl⟩

/-- When every service succeeds, a cleanup that returns has cleaned up the whole list. -/
theorem cleanedOut_of_cleanupDriver {r : Returned}
    (closed : ∀ m key, platform.closeStatus m key = efiSuccess)
    (uninstalled : ∀ m handle interface, platform.uninstallStatus m handle interface = efiSuccess)
    (run : cleanupDriver platform indeterminate this controller m = .ok r) :
    CleanedOut controller m r.machine := by
  refine (cleanupDriver_cases run).resolve_left fun fails => ?_
  cases fails with
  | closed _ failed => exact failed (closed _ _)
  | uninstalled _ failed => exact failed (uninstalled _ _ _)

end Cleanup

/-! ## Stop -/

section Stop

variable {platform : Platform} {indeterminate : EfiStatus} {this binding : DriverBinding}
  {controller : EfiHandle} {numberOfChildren : Nat} {childHandleBuffer : List EfiHandle}
  {m : Machine}

/-- A base driver that refuses to stop leaves everything as it is. -/
theorem stop_of_refused (cached : m.gDriverBindingSubstituteProtocol = some binding)
    (refused : platform.stopStatus m binding binding controller numberOfChildren
      childHandleBuffer ≠ efiSuccess) :
    pciBusDriverBindingStop platform indeterminate this controller numberOfChildren
        childHandleBuffer m =
      .ok ⟨platform.stopStatus m binding binding controller numberOfChildren childHandleBuffer,
        m.record (.stopped controller (platform.stopStatus m binding binding controller
          numberOfChildren childHandleBuffer))⟩ := by
  simp only [pciBusDriverBindingStop, findDriverBindingProtocol_of_cached cached, if_neg refused]

/-- Once the base driver has stopped, everything is cleaned up. -/
theorem stop_of_stopped (cached : m.gDriverBindingSubstituteProtocol = some binding)
    (stopped : platform.stopStatus m binding binding controller numberOfChildren
      childHandleBuffer = efiSuccess) :
    pciBusDriverBindingStop platform indeterminate this controller numberOfChildren
        childHandleBuffer m =
      cleanupDriver platform indeterminate this controller
        (m.record (.stopped controller efiSuccess)) := by
  simp only [pciBusDriverBindingStop, findDriverBindingProtocol_of_cached cached, stopped, if_true]

/-- A `Stop` that returns has asked the base driver, and has cleaned up if that stopped. -/
theorem stop_cases {r : Returned}
    (run : pciBusDriverBindingStop platform indeterminate this controller numberOfChildren
      childHandleBuffer m = .ok r) :
    ∃ binding status, m.gDriverBindingSubstituteProtocol = some binding ∧
      platform.stopStatus m binding binding controller numberOfChildren childHandleBuffer =
        status ∧
      ((status ≠ efiSuccess ∧ r = ⟨status, m.record (.stopped controller status)⟩) ∨
        (status = efiSuccess ∧ cleanupDriver platform indeterminate this controller
          (m.record (.stopped controller efiSuccess)) = .ok r)) := by
  cases cached : m.gDriverBindingSubstituteProtocol with
  | none =>
      simp only [pciBusDriverBindingStop, findDriverBindingProtocol, cached] at run
      cases run
  | some binding =>
      refine ⟨binding, _, rfl, rfl, ?_⟩
      by_cases stopped : platform.stopStatus m binding binding controller numberOfChildren
          childHandleBuffer = efiSuccess
      · rw [stop_of_stopped cached stopped] at run
        exact Or.inr ⟨stopped, run⟩
      · rw [stop_of_refused cached stopped] at run
        cases run
        exact Or.inl ⟨stopped, rfl⟩

/-- A platform whose services succeed even where there is nothing to close. -/
def compliant : Platform :=
  { cooperative with closeStatus := fun _ _ => efiSuccess }

/-- The states in which a call of `Stop` removes nothing that it should leave. -/
structure StopHarmless (controller : EfiHandle) (numberOfChildren : Nat) (m : Machine) : Prop where
  located : m.gDriverBindingSubstituteProtocol ≠ none
  children : 0 < numberOfChildren → m.rootBridgeIoProtocolList = []
  own : numberOfChildren = 0 → ∀ entry ∈ m.rootBridgeIoProtocolList,
    (m.mapping entry).controller = some controller ∧ (m.mapping entry).originalProtocol ≠ none

/-- Where every service has succeeded, the whole list has been cleaned up. -/
theorem cleanedOut_of_stop {r : Returned}
    (succeed : ServicesSucceed m (pciBusDriverBindingStop platform indeterminate this controller
      numberOfChildren childHandleBuffer m))
    (run : pciBusDriverBindingStop platform indeterminate this controller numberOfChildren
      childHandleBuffer m = .ok r) :
    m.gDriverBindingSubstituteProtocol ≠ none ∧
      cleanupDriver platform indeterminate this controller
        (m.record (.stopped controller efiSuccess)) = .ok r ∧
      CleanedOut controller (m.record (.stopped controller efiSuccess)) r.machine := by
  obtain ⟨binding, status, located, _, ⟨refused, same⟩ | ⟨_, cleanup⟩⟩ := stop_cases run
  · rw [same] at run
    exact (succeed.absurd run rfl (List.suffix_refl _) refused).elim
  · refine ⟨by simp [located], cleanup, (cleanupDriver_cases cleanup).resolve_left fun fails => ?_⟩
    exact (fails.earlier (List.suffix_cons _ _)).absurd run succeed

theorem harmless_of_stopScoped
    (succeed : ServicesSucceed m (pciBusDriverBindingStop platform indeterminate this controller
      numberOfChildren childHandleBuffer m))
    (outcome :
      StopScoped platform indeterminate this controller numberOfChildren childHandleBuffer m) :
    StopHarmless controller numberOfChildren m := by
  obtain ⟨r, run, children, own⟩ := outcome
  obtain ⟨located, _, cleaned⟩ := cleanedOut_of_stop succeed run
  refine ⟨located, ?_, ?_⟩
  · intro positive
    obtain ⟨same, _⟩ := children positive
    rw [← same, cleaned.emptied]
  · intro all entry listed
    refine ⟨?_, cleaned.opened entry listed⟩
    by_contra other
    obtain ⟨kept, _⟩ := (own all).mappings entry listed other
    rw [cleaned.emptied] at kept
    cases kept

/-- Where nothing stands in its way, `Stop` returns. -/
theorem stop_of_harmless (harmless : StopHarmless controller numberOfChildren m) :
    ∃ r, pciBusDriverBindingStop platform indeterminate this controller numberOfChildren
      childHandleBuffer m = .ok r := by
  obtain ⟨binding, located⟩ := Option.ne_none_iff_exists'.mp harmless.located
  have opened : ∀ entry ∈ m.rootBridgeIoProtocolList,
      (m.mapping entry).originalProtocol ≠ none := by
    rcases Nat.eq_zero_or_pos numberOfChildren with all | positive
    · exact fun entry listed => (harmless.own all entry listed).2
    · simp [harmless.children positive]
  by_cases stopped : platform.stopStatus m binding binding controller numberOfChildren
      childHandleBuffer = efiSuccess
  · rw [stop_of_stopped located stopped]
    exact cleanupDriver_of_open indeterminate this controller _ opened
  · exact ⟨_, stop_of_refused located stopped⟩

theorem stopScoped_of_harmless
    (succeed : ServicesSucceed m (pciBusDriverBindingStop platform indeterminate this controller
      numberOfChildren childHandleBuffer m))
    (harmless : StopHarmless controller numberOfChildren m) :
    StopScoped platform indeterminate this controller numberOfChildren childHandleBuffer m := by
  obtain ⟨r, run⟩ := stop_of_harmless harmless
  obtain ⟨_, cleanup, cleaned⟩ := cleanedOut_of_stop succeed run
  refine ⟨r, run, ?_, ?_⟩
  · intro positive
    obtain ⟨toRegistry, toHandleDatabase, _⟩ := cleanupDriver_of_empty
      (m := m.record (.stopped controller efiSuccess)) (harmless.children positive) cleanup
    exact ⟨toRegistry, by rw [toHandleDatabase]; rfl⟩
  · intro all
    -- Every listed mapping is the controller's own, so no other is left to be kept.
    constructor
    · exact fun entry listed other => absurd (harmless.own all entry listed).1 other
    · exact cleaned.keeps.opens
    · exact cleaned.keeps.rootBridgeIo
    · exact fun entry listed other => absurd (harmless.own all entry listed).1 other

/--
In every state, reachable or not, and as long as none of the services that it calls fails,
`Stop` takes away no more than it should exactly when the list is empty, or all children
are stopped and every listed mapping is an open one of the controller.
-/
theorem stop_scoped_iff (platform : Platform) (indeterminate : EfiStatus) (this : DriverBinding)
    (controller : EfiHandle) (numberOfChildren : Nat) (childHandleBuffer : List EfiHandle)
    (m : Machine)
    (succeed : ServicesSucceed m (pciBusDriverBindingStop platform indeterminate this controller
      numberOfChildren childHandleBuffer m)) :
    StopScoped platform indeterminate this controller numberOfChildren childHandleBuffer m ↔
      StopHarmless controller numberOfChildren m :=
  ⟨harmless_of_stopScoped succeed, stopScoped_of_harmless succeed⟩

/-- What `Stop` leaves of the started controller when every service is at its best. -/
def compliantStop : Returned :=
  match pciBusDriverBindingStop compliant 0 shimBinding 5 0 [] startedMachine with
  | .ok r => r
  | .error _ => ⟨efiSuccess, startedMachine⟩

theorem log_compliantStop : compliantStop.machine.log =
    [.useAfterFree 1, .freed 1, .uninstalled (some 5) (.rootBridgeIo 1) efiSuccess, .freed 2,
      .uninstalled (some 9) (.resourceAllocation (some 2)) efiSuccess,
      .closed (resourceAllocationOpen 1 (some 5) 7).key efiSuccess,
      .closed (rootBridgeIoOpen 1 (some 5)).key efiSuccess, .stopped 5 efiSuccess] ++
        startedMachine.log :=
  rfl

/-- The started controller 5 is stopped alone. -/
theorem stop_scoped_started :
    StopScoped compliant 0 shimBinding 5 0 [] startedMachine ↔
      StopHarmless 5 0 startedMachine := by
  refine stop_scoped_iff compliant 0 shimBinding 5 0 [] startedMachine ?_
  intro r events run log
  obtain rfl : compliantStop = r := Except.ok.inj run
  obtain rfl := List.append_cancel_right (log.trans log_compliantStop)
  simp [Event.Succeeds]

/-- Stopping one child of a started controller empties the list. -/
theorem stop_forgets_started_controller :
    ¬ ∀ (platform : Platform) (indeterminate : EfiStatus) (this : DriverBinding)
      (controller : EfiHandle) (numberOfChildren : Nat) (childHandleBuffer : List EfiHandle)
      (m : Machine), ReachableBy (fun _ _ _ => True) m →
      m.gDriverBindingSubstituteProtocol ≠ none →
      (∀ binding, platform.stopStatus m binding binding controller numberOfChildren
        childHandleBuffer = efiSuccess) →
      (∀ m key, platform.closeStatus m key = efiSuccess) →
      (∀ m handle interface, platform.uninstallStatus m handle interface = efiSuccess) →
        StopScoped platform indeterminate this controller numberOfChildren childHandleBuffer m := by
  intro holds
  have located : startedMachine.gDriverBindingSubstituteProtocol = some ⟨0x300, 2⟩ := rfl
  obtain ⟨r, run, children, _⟩ := holds compliant 0 shimBinding 5 1 [6] startedMachine
    (reachableBy_startedMachine trivial trivial trivial) (by simp [located])
    (fun _ => rfl) (fun _ _ => rfl) fun _ _ _ => rfl
  rw [stop_of_stopped located rfl] at run
  have cleaned := cleanedOut_of_cleanupDriver (fun _ _ => rfl) (fun _ _ _ => rfl) run
  obtain ⟨same, _⟩ := children (by decide)
  have listed : startedMachine.rootBridgeIoProtocolList = [1] := rfl
  rw [← same, cleaned.emptied] at listed
  cases listed

end Stop

end Thundermod.Shim
