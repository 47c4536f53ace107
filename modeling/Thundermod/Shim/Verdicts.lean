import Thundermod.Shim.Primitives

/-!
# The verdicts of the base driver

The shim stands in front of the base driver and relays the firmware's questions.  Along
every run each call asks the base driver at most once, about its own controller, and hands
the answer back unless it is a `Stop` that goes on to clean up.
-/

namespace Thundermod.Shim

open Control

/-! ## Questions and answers -/

inductive Question
  | supported
  | start
  | stop
  deriving DecidableEq

/-- An answer of the base driver. -/
structure Verdict where
  question : Question
  controller : EfiHandle
  status : EfiStatus

def Event.verdict : Event → Option Verdict
  | .supported controller status => some ⟨.supported, controller, status⟩
  | .started controller status => some ⟨.start, controller, status⟩
  | .stopped controller status => some ⟨.stop, controller, status⟩
  | _ => none

/-- The answers of the base driver so far, the latest first. -/
def Machine.verdicts (m : Machine) : List Verdict :=
  m.log.filterMap Event.verdict

def Call.question : Call → Question
  | .supported _ _ _ => .supported
  | .start _ _ _ => .start
  | .stop _ _ _ _ => .stop

def Call.controller : Call → EfiHandle
  | .supported _ controller _ => controller
  | .start _ controller _ => controller
  | .stop _ controller _ _ => controller

/-- What the base driver is asked during a call that returns the given status. -/
inductive Round : Call × EfiStatus → List Verdict → Prop
  | unasked {call : Call} {status : EfiStatus} (started : call.question = .start →
      status ≠ efiSuccess) (stopped : call.question ≠ .stop) : Round (call, status) []
  | relayed {call : Call} {status : EfiStatus} :
      Round (call, status) [⟨call.question, call.controller, status⟩]
  | cleaned {call : Call} {status : EfiStatus} (stopped : call.question = .stop) :
      Round (call, status) [⟨.stop, call.controller, efiSuccess⟩]

/-! ## Steps that ask nothing -/

section Frames

variable {platform : Platform} {this : DriverBinding} {controller : EfiHandle} {entry : Addr}
  {m : Machine}

theorem verdicts_touch (block : Addr) (m : Machine) : (m.touch block).verdicts = m.verdicts := by
  unfold Machine.touch
  split <;> rfl

theorem verdicts_freePool (block : Option Addr) (m : Machine) :
    (m.freePool block).verdicts = m.verdicts := by
  unfold Machine.freePool
  split
  · rfl
  · split <;> rfl

theorem verdicts_uninstallAndFree (handle : Option EfiHandle) (interface : Interface)
    (freed : Option Addr) (m : Machine) :
    (uninstallAndFree platform handle interface freed m).machine.verdicts = m.verdicts := by
  unfold uninstallAndFree
  split
  · exact (verdicts_freePool ..).trans rfl
  · rfl

theorem verdicts_findDriverBindingProtocol (platform : Platform) (m : Machine) :
    (findDriverBindingProtocol platform m).2.verdicts = m.verdicts := by
  unfold findDriverBindingProtocol
  split <;> rfl

theorem verdicts_probed : (probed platform this controller m).verdicts = m.verdicts :=
  search_frame Machine.verdicts verdicts_touch _ _ _

/-- However a pass goes on, it has asked nothing. -/
def PassAsksNothing (m : Machine) : Outcome Fault Returned Returned → Prop :=
  Outcome.Ensures (fun r => r.machine.verdicts = m.verdicts)
    (fun r => r.machine.verdicts = m.verdicts)

theorem asksNothing_openMapping (entry : Addr) (state : Returned) :
    PassAsksNothing state.machine (openMapping platform entry state) := by
  have touched := verdicts_touch entry state.machine
  unfold openMapping
  dsimp only
  split
  · exact touched
  · split
    · trivial
    · unfold openOriginals openResourceAllocation
      dsimp only
      split
      · split
        · split
          · trivial
          · exact (verdicts_touch ..).trans touched
        · exact touched
      · exact touched

theorem verdicts_openBaseProtocols {indeterminate : EfiStatus} {r : Returned}
    (run : openBaseProtocols platform indeterminate m = .ok r) :
    r.machine.verdicts = m.verdicts := by
  refine openBaseProtocols_rule (fun after => after.verdicts = m.verdicts) ?_ rfl run
  exact fun entry state _ same => (asksNothing_openMapping entry state).imp
    (fun _ kept => kept.trans same) fun _ kept => kept.trans same

theorem verdicts_dumpInstalledDevices {r : Returned}
    (run : dumpInstalledDevices platform this controller m = .ok r) :
    r.machine.verdicts = m.verdicts := by
  refine dumpInstalledDevices_invariant (fun after => after.verdicts = m.verdicts) ?_
    (fun _ => rfl) run
  intro device state same
  unfold dumpDevice
  dsimp only
  split
  · exact same
  · split
    · exact same
    · split <;> exact same

theorem asksNothing_uninstallSubstitutes (controller : EfiHandle) (entry : Addr) (m : Machine) :
    PassAsksNothing m (uninstallSubstitutes platform controller entry m) := by
  unfold uninstallSubstitutes uninstallResourceAllocationProtocol
    uninstallRootBridgeIoProtocolProtocol
  dsimp only
  have first (handle : Option EfiHandle) (interface : Interface) (block : Option Addr) :
      (uninstallAndFree platform handle interface block (m.touch entry)).machine.verdicts =
        m.verdicts :=
    (verdicts_uninstallAndFree ..).trans (verdicts_touch ..)
  split
  · split
    · exact (verdicts_touch ..).trans ((verdicts_uninstallAndFree ..).trans (first ..))
    · exact (verdicts_uninstallAndFree ..).trans (first ..)
  · exact first ..

theorem asksNothing_cleanupMapping (entry : Addr) (state : Returned) :
    PassAsksNothing state.machine (cleanupMapping platform this controller entry state) := by
  unfold cleanupMapping
  dsimp only
  split
  · split
    · trivial
    · split
      · refine (asksNothing_uninstallSubstitutes ..).imp ?_ ?_
        all_goals exact fun _ kept => kept.trans (verdicts_touch ..)
      · exact verdicts_touch ..
  · rfl

theorem verdicts_cleanupDriver {indeterminate : EfiStatus} {r : Returned}
    (run : cleanupDriver platform indeterminate this controller m = .ok r) :
    r.machine.verdicts = m.verdicts := by
  have pass (entry : Addr) (_ : List Addr) (state : Returned)
      (same : state.machine.verdicts = m.verdicts) :
      (cleanupMapping platform this controller entry state).Ensures
        (fun r => r.machine.verdicts = m.verdicts) (fun r => r.machine.verdicts = m.verdicts) :=
    (asksNothing_cleanupMapping entry state).imp (fun _ kept => kept.trans same)
      fun _ kept => kept.trans same
  have loop := forEach_ensures (fun _ (r : Returned) => r.machine.verdicts = m.verdicts) _ pass
    m.rootBridgeIoProtocolList ⟨indeterminate, m⟩ rfl
  unfold cleanupDriver at run
  split at run
  · cases run
  all_goals
    next outcome =>
      rw [outcome] at loop
      cases run
      exact loop

end Frames

/-! ## Calls -/

/-- A call that returns has held one round with the base driver. -/
def HoldsRound (call : Call) (m : Machine) (result : Except Fault Returned) : Prop :=
  ∀ r, result = .ok r → ∃ verdicts,
    r.machine.verdicts = verdicts ++ m.verdicts ∧ Round (call, r.status) verdicts

section Calls

variable {platform : Platform} {indeterminate : EfiStatus} {this binding : DriverBinding}
  {controller : EfiHandle} {remainingDevicePath : Pointer} {m : Machine} {r : Returned}

theorem round_unasked {call : Call} {status : EfiStatus} {after : Machine}
    (supports : call.question = .supported) (same : after.verdicts = m.verdicts) :
    HoldsRound call m (.ok ⟨status, after⟩) := by
  rintro _ ⟨⟩
  refine ⟨[], same, .unasked ?_ ?_⟩
  · exact fun starts => nomatch supports.symm.trans starts
  · exact fun stops => nomatch supports.symm.trans stops

theorem round_hookController (cached : m.gDriverBindingSubstituteProtocol = some binding) :
    HoldsRound (.supported this controller remainingDevicePath) m
      (hookController platform this controller remainingDevicePath m) := by
  cases allocated : platform.allocation m with
  | none =>
      rw [hookController_of_exhausted allocated]
      rintro _ ⟨⟩
  | some entry =>
      by_cases installed : (installNewMapping platform this controller entry.1 m).status =
          efiSuccess
      · rw [hookController_of_allocated cached allocated installed]
        dsimp only
        split
        · refine listMapping_rule (HoldsRound (.supported this controller remainingDevicePath) m)
            ?_ ?_ ?_
          · rintro _ ⟨⟩
          · rintro parent _ _ ⟨⟩
            exact ⟨[_], rfl, .relayed⟩
          · rintro parent _ _ _ ⟨⟩
            exact ⟨[_], rfl, .relayed⟩
        · rintro _ ⟨⟩
          exact ⟨[_], (verdicts_uninstallAndFree ..).trans rfl, .relayed⟩
      · rw [hookController_of_refused allocated installed]
        exact round_unasked rfl rfl

theorem round_supported : HoldsRound (.supported this controller remainingDevicePath) m
    (pciBusDriverBindingSupported platform this controller remainingDevicePath m) := by
  cases cached : m.gDriverBindingSubstituteProtocol with
  | none =>
      rw [supported_of_unlocated cached]
      exact round_unasked rfl (verdicts_findDriverBindingProtocol ..)
  | some binding =>
      refine supported_rule _ cached ?_ ?_ ?_
      · exact fun status => round_unasked rfl rfl
      · rintro _ ⟨⟩
        refine ⟨[_], ?_, .relayed⟩
        exact congrArg (List.cons _) verdicts_probed
      · intro r run
        obtain ⟨verdicts, asked, round⟩ := round_hookController (cached_probed cached) r run
        exact ⟨verdicts, asked.trans (congrArg (verdicts ++ ·) verdicts_probed), round⟩

theorem round_start : HoldsRound (.start this controller remainingDevicePath) m
    (pciBusDriverBindingStart platform indeterminate this controller remainingDevicePath m) := by
  intro r run
  obtain ⟨opened, opening, outcome⟩ := start_cases run
  have before : opened.machine.verdicts = m.verdicts :=
    (verdicts_openBaseProtocols opening).trans (verdicts_findDriverBindingProtocol ..)
  rcases outcome with ⟨failed, rfl⟩ | ⟨_, original, status, dumped, _, _, dump, rfl⟩
  · exact ⟨[], before, .unasked (fun _ => failed) nofun⟩
  · refine ⟨[⟨.start, controller, status⟩], ?_, .relayed⟩
    exact (verdicts_dumpInstalledDevices dump).trans (congrArg (List.cons _) before)

theorem round_stop {numberOfChildren : Nat} {childHandleBuffer : List EfiHandle} :
    HoldsRound (.stop this controller numberOfChildren childHandleBuffer) m
      (pciBusDriverBindingStop platform indeterminate this controller numberOfChildren
        childHandleBuffer m) := by
  intro r run
  obtain ⟨_, status, _, _, ⟨_, rfl⟩ | ⟨_, cleanup⟩⟩ := stop_cases run
  · exact ⟨[_], rfl, .relayed⟩
  · exact ⟨[_], verdicts_cleanupDriver cleanup, .cleaned rfl⟩

theorem round_call (call : Call) : HoldsRound call m (call.run platform indeterminate m) := by
  cases call with
  | supported this controller remainingDevicePath => exact round_supported
  | start this controller remainingDevicePath => exact round_start
  | stop this controller numberOfChildren childHandleBuffer => exact round_stop

end Calls

/-! ## Runs -/

/-- The machine that a sequence of calls has led to, the latest call first. -/
inductive Answered : Machine → List (Call × EfiStatus) → Prop
  | main {imageHandle : EfiHandle} {gPciBusDriverBinding : Pointer} :
      Answered (pciDxeShimMain imageHandle gPciBusDriverBinding) []
  | call {platform : Platform} {indeterminate : EfiStatus} {call : Call} {m : Machine}
      {r : Returned} {history : List (Call × EfiStatus)} (earlier : Answered m history)
      (run : call.run platform indeterminate m = .ok r) :
      Answered r.machine ((call, r.status) :: history)

/--
Whatever calls are made, what the base driver has answered falls into one round for each
call: nothing is asked, and then a `Start` has failed, or one question about the call's
controller is asked whose answer the call returns, or a `Stop` goes on behind a success.
-/
theorem verdicts_relayed {m : Machine} {history : List (Call × EfiStatus)}
    (answered : Answered m history) :
    ∃ rounds, m.verdicts = rounds.flatten ∧ List.Forall₂ Round history rounds := by
  induction answered with
  | main => exact ⟨[], rfl, .nil⟩
  | call earlier run ih =>
      obtain ⟨rounds, asked, all⟩ := ih
      obtain ⟨verdicts, more, round⟩ := round_call _ _ run
      refine ⟨verdicts :: rounds, ?_, .cons round all⟩
      rw [more, asked, List.flatten_cons]

theorem verdicts_relayed_started :
    ∃ rounds, startedMachine.verdicts = rounds.flatten ∧ List.Forall₂ Round
      [(.start shimBinding 5 0, efiSuccess), (.supported shimBinding 5 0, efiSuccess),
        (.supported shimBinding 5 0, efiNotFound)] rounds := by
  have first : (Call.supported shimBinding 5 0).run cooperative 0 (pciDxeShimMain 1 0x400) =
      .ok ⟨efiNotFound, locatedMachine⟩ := rfl
  have second : (Call.supported shimBinding 5 0).run cooperative 0 locatedMachine =
      .ok ⟨efiSuccess, hookedMachine⟩ := rfl
  have third : (Call.start shimBinding 5 0).run cooperative 0 hookedMachine =
      .ok ⟨efiSuccess, startedMachine⟩ := rfl
  exact verdicts_relayed (((Answered.main.call first).call second).call third)

end Thundermod.Shim
