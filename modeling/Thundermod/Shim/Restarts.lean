import Thundermod.Shim.Sessions

/-!
# Restarts

A `Stop` that succeeds has emptied the list of mappings.  Whatever state it was called in,
reachable or not, with freed blocks in the list or blocks in the pool that nothing refers
to, the shim begins a new life there: what it shows comes about from nothing again, and the
sessions of this life are transparent.
-/

namespace Thundermod.Shim

open Control

section Stop

variable {platform : Platform} {indeterminate : EfiStatus} {this : DriverBinding}
  {controller : EfiHandle} {numberOfChildren : Nat} {childHandleBuffer : List EfiHandle}
  {m after : Machine}

/-- A `Stop` that succeeds leaves no mapping in the list. -/
theorem emptied_of_stop
    (run : pciBusDriverBindingStop platform indeterminate this controller numberOfChildren
      childHandleBuffer m = .ok ⟨efiSuccess, after⟩) :
    after.rootBridgeIoProtocolList = [] := by
  obtain ⟨_, status, _, _, ⟨refused, same⟩ | ⟨_, cleanup⟩⟩ := stop_cases run
  · exact absurd (congrArg Returned.status same).symm refused
  · rcases cleanupDriver_cases cleanup with fails | cleaned
    · exact absurd rfl fails.status
    · exact cleaned.emptied

end Stop

section Lives

variable {σ : Type} {host : HostBridge σ} {state : σ} {session : Session σ}
  {platform : Platform} {indeterminate : EfiStatus} {this : DriverBinding}
  {controller : EfiHandle} {numberOfChildren : Nat} {childHandleBuffer : List EfiHandle}
  {before m : Machine}

/--
Behind a `Stop` that succeeds, in whatever state it was called, the hooks come about from
nothing again; from there on the base side receives exactly the calls of the clients, each
on the original that is recorded for its substitute; and a call gets through exactly if
the original of its substitute has been recorded since.
-/
theorem restarts_are_transparent
    (stopped : pciBusDriverBindingStop platform indeterminate this controller numberOfChildren
      childHandleBuffer before = .ok ⟨efiSuccess, m⟩)
    (life : Reachable (SessionStep host) ⟨⟨m, ⟨state, []⟩⟩, [], []⟩ session) :
    session.machine.ShowsFrom [] ∧
      (∃ received, List.Forall₂ (Recorded session.machine.toRegistry) session.calls received ∧
        session.base.received = received ∧
        respond (Base.call host) ⟨state, []⟩ received = (session.base, session.statuses)) ∧
      ∀ call, (∃ world status, callSubstitute host session.toWorld call = .ok (world, status)) ↔
        ∃ received, Recorded session.machine.toRegistry call received := by
  have transparent := (transparent_of_emptied (emptied_of_stop stopped)).run life
  exact ⟨transparent.hooks, transparent.received, transparent.answered_iff⟩

end Lives

/-- The shim after the controller 5 has been hooked, started and stopped. -/
def stoppedMachine : Machine :=
  afterCall (.stop shimBinding 5 0 []) startedMachine

/-- The shim after the controller 5 has been hooked once more. -/
def hookedAgainMachine : Machine :=
  afterCall (.supported shimBinding 5 0) stoppedMachine

/-- The shim after the controller 5 has been started once more. -/
def restartedMachine : Machine :=
  afterCall (.start shimBinding 5 0) hookedAgainMachine

/-- A client's call in the second life. -/
theorem restarts_are_transparent_flushed :
    (∃ world status, callSubstitute countingHost ⟨restartedMachine, ⟨0, []⟩⟩ flushCall =
      .ok (world, status)) ↔
      ∃ received, Recorded restartedMachine.toRegistry flushCall received := by
  have hooked : Step Connects stoppedMachine hookedAgainMachine :=
    ⟨cooperative, 0, .supported shimBinding 5 0, efiSuccess, trivial, rfl⟩
  have started : Step Connects hookedAgainMachine restartedMachine :=
    ⟨cooperative, 0, .start shimBinding 5 0, efiSuccess, trivial, rfl⟩
  have life : Reachable (SessionStep countingHost) ⟨⟨stoppedMachine, ⟨0, []⟩⟩, [], []⟩
      ⟨⟨restartedMachine, ⟨0, []⟩⟩, [], []⟩ :=
    (Reachable.single (.connect hooked)).step (.connect started)
  have stopped : pciBusDriverBindingStop cooperative 0 shimBinding 5 0 [] startedMachine =
      .ok ⟨efiSuccess, stoppedMachine⟩ := rfl
  exact (restarts_are_transparent stopped life).2.2 flushCall

/-- A platform that hands out the first block whenever it is free. -/
def frugal : Platform :=
  { cooperative with
    allocation := fun m =>
      if free : 1 ∉ m.live then some ⟨1, free⟩ else cooperative.allocation m }

/-- The first block was freed by a cleanup that failed, and is in use again. -/
def relinkedMachine : Machine :=
  afterCalls frugal [.supported shimBinding 5 0, .supported shimBinding 5 0,
    .supported ⟨0x500, 11⟩ 6 0, .start shimBinding 5 0, .stop shimBinding 5 0 [],
    .supported ⟨0x600, 12⟩ 7 0, .start ⟨0x600, 12⟩ 7 0] (pciDxeShimMain 1 0x400)

/-- What stood behind it is cut off, so that the next `Stop` succeeds. -/
example : relinkedMachine.rootBridgeIoProtocolList = [1] ∧
    (pciBusDriverBindingStop frugal 0 ⟨0x600, 12⟩ 7 0 [] relinkedMachine).toOption.map
      Returned.status = some efiSuccess := by
  decide

end Thundermod.Shim
