import Thundermod.Shim.Forwarders
import Thundermod.Shim.Opening

/-!
# The shim is transparent

After any sequence of `Supported` and `Start` calls, a sequence of calls through
the substitutes is the same sequence of calls on the originals: the shim's world
simulates the bare base side.
-/

namespace Thundermod.Shim

open Control

variable {σ : Type} {m : Machine}

/-- The calls that connect drivers, which tear nothing down. -/
def Connects (_ : Platform) (call : Call) (_ : Machine) : Prop :=
  match call with
  | .supported _ _ _ => True
  | .start _ _ _ => True
  | .stop _ _ _ _ => False

theorem wellFormed_of_connects (reached : ReachableBy Connects m) : m.toRegistry.WellFormed := by
  refine reached.invariant (fun m => m.toRegistry.WellFormed) ?_ ?_
  · exact fun _ _ => Registry.wellFormed_of_empty rfl
  · intro platform indeterminate call m r wellFormed connects run
    cases call with
    | supported this controller remainingDevicePath => exact wellFormed_supported wellFormed run
    | start this controller remainingDevicePath => exact wellFormed_start wellFormed run
    | stop this controller numberOfChildren childHandleBuffer => exact connects.elim

/--
The call on the base side that a client's call stands for: the same call, on the
original recorded in the mapping that owns the substitute.
-/
inductive Recorded (registry : Registry) : ClientCall → Received → Prop
  | rootBridgeIo {entry : Addr} {original : HostRootBridgeIo} {call : RootBridgeIoCall}
      (listed : entry ∈ registry.rootBridgeIoProtocolList)
      (recorded : (registry.mapping entry).originalProtocol = some original) :
      Recorded registry (.rootBridgeIo entry call) (.rootBridgeIo original call)
  | resourceAllocation {entry parent : Addr} {original : HostResourceAllocation}
      {call : ResourceAllocationCall}
      (listed : entry ∈ registry.rootBridgeIoProtocolList)
      (has_parent : (registry.mapping entry).parent = some parent)
      (recorded : (registry.resourceAllocation parent).originalProtocol = some original) :
      Recorded registry (.resourceAllocation parent call) (.resourceAllocation original call)

/-- The shim has the base side below it and the given registry and handle database. -/
def Shims (m : Machine) (world : World σ) (base : Base σ) : Prop :=
  world.base = base ∧ world.machine.toRegistry = m.toRegistry ∧
    world.machine.toHandleDatabase = m.toHandleDatabase

/-- One call through a substitute is one call on the recorded original. -/
theorem callSubstitute_transparent (wellFormed : m.toRegistry.WellFormed) (host : HostBridge σ)
    {world : World σ} {base : Base σ} {call : ClientCall} {received : Received}
    (shims : Shims m world base) (recorded : Recorded m.toRegistry call received) :
    ∃ after, callSubstitute host world call = .ok (after, (base.call host received).2) ∧
      Shims m after (base.call host received).1 := by
  obtain ⟨rfl, sameRegistry, sameHandles⟩ := shims
  rw [← sameRegistry] at recorded wellFormed
  cases recorded with
  | @rootBridgeIo entry original call listed recorded =>
      obtain ⟨parent, complete⟩ := wellFormed.complete entry listed
      have found := findRootBridgeIo_of_listed listed
      rw [recorded] at found
      have function := entry_substituteRootBridgeIo
        (world.machine.mapping entry).substitutedProtocol call.entry
      rw [complete.functions] at function
      simp only [callSubstitute, function, callRootBridgeIo_shimFunction, forwardRootBridgeIo,
        found]
      refine ⟨_, rfl, rfl, ?_, ?_⟩
      · exact (toRegistry_findRootBridgeIo _ _).trans sameRegistry
      · exact (toHandleDatabase_findRootBridgeIo _ _).trans sameHandles
  | @resourceAllocation entry parent original call listed has_parent recorded =>
      obtain ⟨parent', complete⟩ := wellFormed.complete entry listed
      obtain rfl : parent' = parent :=
        Option.some.inj (complete.has_parent.symm.trans has_parent)
      obtain ⟨after, found, afterRegistry, afterHandles⟩ :=
        findResourceAllocation_of_listed listed has_parent fun other listed' same =>
          wellFormed.parents other listed' entry listed (same.trans has_parent.symm)
      rw [recorded] at found
      have function := entry_substituteResourceAllocation
        (world.machine.resourceAllocation parent').substitutedProtocol call.entry
      rw [complete.parent_functions] at function
      simp only [callSubstitute, function, callResourceAllocation_shimFunction,
        forwardResourceAllocation, found]
      refine ⟨_, rfl, rfl, ?_, ?_⟩
      · exact (frame_trace Machine.toRegistry Machine.toRegistry_record _ _ _).trans
          (afterRegistry.trans sameRegistry)
      · exact (frame_trace Machine.toHandleDatabase Machine.toHandleDatabase_record _ _ _).trans
          (afterHandles.trans sameHandles)

/-- The base side receives what it is called with. -/
theorem received_respond (host : HostBridge σ) (base : Base σ) (calls : List Received) :
    (respond (Base.call host) base calls).1.received = base.received ++ calls := by
  induction calls generalizing base with
  | nil => exact (List.append_nil _).symm
  | cons call calls ih =>
      refine (ih (base.call host call).1).trans ?_
      simp [Base.call]

/--
Any sequence of calls through the substitutes of a reachable registry returns what
the same calls on the recorded originals return, reaches the base side as exactly
these calls, and leaves the registry alone.
-/
theorem shim_transparent (reached : ReachableBy Connects m) (host : HostBridge σ) (state : σ)
    {calls : List ClientCall} {received : List Received}
    (recorded : List.Forall₂ (Recorded m.toRegistry) calls received) :
    ∃ after base statuses,
      serve (callSubstitute host) ⟨m, ⟨state, []⟩⟩ calls = .ok (⟨after, base⟩, statuses) ∧
      respond (Base.call host) ⟨state, []⟩ received = (base, statuses) ∧
      base.received = received ∧ after.toRegistry = m.toRegistry ∧
      after.toHandleDatabase = m.toHandleDatabase := by
  have wellFormed := wellFormed_of_connects reached
  obtain ⟨⟨after, base⟩, run, sameBase, sameRegistry, sameHandles⟩ :=
    serve_simulates (Shims m) (Recorded m.toRegistry)
      (fun _ _ _ _ shims matched => callSubstitute_transparent wellFormed host shims matched)
      recorded ⟨m, ⟨state, []⟩⟩ ⟨state, []⟩ ⟨rfl, rfl, rfl⟩
  refine ⟨after, base, _, run, ?_, ?_, sameRegistry, sameHandles⟩
  · exact Prod.ext sameBase.symm rfl
  · exact (congrArg Base.received sameBase).trans (received_respond host ⟨state, []⟩ received)

/-- A base side that counts the calls it receives. -/
def countingHost : HostBridge Nat := fun count _ => (count + 1, efiSuccess)

theorem shim_transparent_started :
    ∃ after base statuses,
      serve (callSubstitute countingHost) ⟨startedMachine, ⟨0, []⟩⟩
        [.rootBridgeIo 1 ⟨.flush, .flush, ⟨⟩⟩, .resourceAllocation 2 ⟨.notifyPhase, .notifyPhase, ⟨3⟩⟩,
          .rootBridgeIo 1 ⟨.unmap, .unmap, ⟨0x500⟩⟩] = .ok (⟨after, base⟩, statuses) ∧
      respond (Base.call countingHost) ⟨0, []⟩
        [.rootBridgeIo ⟨0x100, 7, 0⟩ ⟨.flush, .flush, ⟨⟩⟩,
          .resourceAllocation ⟨0x200⟩ ⟨.notifyPhase, .notifyPhase, ⟨3⟩⟩,
          .rootBridgeIo ⟨0x100, 7, 0⟩ ⟨.unmap, .unmap, ⟨0x500⟩⟩] = (base, statuses) ∧
      base.received = [.rootBridgeIo ⟨0x100, 7, 0⟩ ⟨.flush, .flush, ⟨⟩⟩,
          .resourceAllocation ⟨0x200⟩ ⟨.notifyPhase, .notifyPhase, ⟨3⟩⟩,
          .rootBridgeIo ⟨0x100, 7, 0⟩ ⟨.unmap, .unmap, ⟨0x500⟩⟩] ∧
      after.toRegistry = startedMachine.toRegistry ∧
      after.toHandleDatabase = startedMachine.toHandleDatabase :=
  shim_transparent (reachableBy_startedMachine trivial trivial trivial) countingHost 0
    (.cons (.rootBridgeIo (by decide) rfl)
      (.cons (.resourceAllocation
        (show 1 ∈ startedMachine.rootBridgeIoProtocolList by decide) rfl rfl)
        (.cons (.rootBridgeIo (by decide) rfl) .nil)))

end Thundermod.Shim
