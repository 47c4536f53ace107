import Thundermod.Shim.Hooks

/-!
# Sessions

Clients use the substitutes while further controllers are still being hooked and
started.  In every interleaving of the two, the base side sees the calls of the clients,
each on the original that the registry records at the end, and nothing else.
-/

namespace Thundermod.Shim

open Control

variable {σ : Type}

/-! ## What is recorded stays recorded -/

/-- The call on the base side that a call through the substitutes of a hook stands for. -/
inductive Hook.Forwards (hook : Hook) : ClientCall → Received → Prop
  | rootBridgeIo {original : HostRootBridgeIo} {call : RootBridgeIoCall}
      (known : hook.originals.rootBridge = some original) :
      Hook.Forwards hook (.rootBridgeIo hook.entry call) (.rootBridgeIo original call)
  | resourceAllocation {original : HostResourceAllocation} {call : ResourceAllocationCall}
      (known : hook.originals.parent = some original) :
      Hook.Forwards hook (.resourceAllocation hook.parent call) (.resourceAllocation original call)

/-- The registry records what the hooks that it shows forward. -/
theorem Registry.Shows.recorded_iff {registry : Registry} {hooks : List Hook} {call : ClientCall}
    {received : Received} (shown : registry.Shows hooks) :
    Recorded registry call received ↔ ∃ hook ∈ hooks, hook.Forwards call received := by
  constructor
  · intro recorded
    cases recorded with
    | rootBridgeIo listed recorded =>
        rw [shown.list] at listed
        obtain ⟨hook, member, rfl⟩ := List.mem_map.mp listed
        rw [(shown.represents hook member).original] at recorded
        exact ⟨hook, member, .rootBridgeIo recorded⟩
    | resourceAllocation listed has_parent recorded =>
        rw [shown.list] at listed
        obtain ⟨hook, member, rfl⟩ := List.mem_map.mp listed
        have represents := shown.represents hook member
        obtain rfl := Option.some.inj (represents.parent.symm.trans has_parent)
        rw [represents.parentOriginal] at recorded
        exact ⟨hook, member, .resourceAllocation recorded⟩
  · rintro ⟨hook, member, forwards⟩
    have represents := shown.represents hook member
    have listed : hook.entry ∈ registry.rootBridgeIoProtocolList := by
      rw [shown.list]
      exact List.mem_map_of_mem member
    cases forwards with
    | rootBridgeIo known => exact .rootBridgeIo listed (represents.original.trans known)
    | resourceAllocation known =>
        exact .resourceAllocation listed represents.parent (represents.parentOriginal.trans known)

/-- A hook that knows the original goes on knowing it. -/
theorem Hook.Later.forwards {hook next : Hook} {call : ClientCall} {received : Received}
    (later : Hook.Later hook next) (forwards : hook.Forwards call received) :
    next.Forwards call received := by
  rcases later with rfl | ⟨unknown, _⟩
  · exact forwards
  · cases forwards with
    | rootBridgeIo known =>
        rw [unknown] at known
        cases known
    | resourceAllocation known =>
        rw [unknown] at known
        cases known

/-- Connecting calls never change or forget an original. -/
theorem Registry.Shows.recorded_later {hooks : List Hook} {before after : Machine}
    {call : ClientCall} {received : Received} (shown : before.toRegistry.Shows hooks)
    (later : after.ShowsFrom hooks) (recorded : Recorded before.toRegistry call received) :
    Recorded after.toRegistry call received := by
  obtain ⟨hooks', shown', reached⟩ := later
  obtain ⟨hook, member, forwards⟩ := shown.recorded_iff.mp recorded
  obtain ⟨next, member', advanced⟩ := (hooks_grown reached).mem member
  exact shown'.recorded_iff.mpr ⟨next, member', advanced.forwards forwards⟩

/-! ## What is answered is recorded -/

section Answered

variable {host : HostBridge σ} {world after : World σ} {m m' : Machine} {mapping : Addr}
  {status : EfiStatus} {call : ClientCall}

theorem recorded_of_findRootBridgeIo {original : HostRootBridgeIo}
    (found : (findRootBridgeIoProtocolMappingBySubstitute (.substituted mapping) m).1 =
      some original) :
    mapping ∈ m.rootBridgeIoProtocolList ∧
      (m.mapping mapping).originalProtocol = some original := by
  rw [findRootBridgeIoProtocolMappingBySubstitute, search_result] at found
  obtain ⟨entry, first, recorded⟩ := Option.bind_eq_some_iff.mp found
  have hit := List.find?_some first
  rw [decide_eq_true_eq] at hit
  obtain rfl := RootBridgeIoPtr.substituted.inj hit
  exact ⟨List.mem_of_find?_eq_some first, recorded⟩

theorem recorded_of_findResourceAllocation {original : HostResourceAllocation}
    (found : findResourceAllocationProtocolMappingBySubstitute (.substituted (some mapping)) m =
      .ok (some original, m')) :
    ∃ entry ∈ m.rootBridgeIoProtocolList, (m.mapping entry).parent = some mapping ∧
      (m.resourceAllocation mapping).originalProtocol = some original := by
  unfold findResourceAllocationProtocolMappingBySubstitute at found
  simp only [search_result] at found
  split at found
  · cases found
  · next entry first =>
      have hit := List.find?_some first
      rw [decide_eq_true_eq] at hit
      have has_parent : (m.mapping entry).parent = some mapping :=
        ResourceAllocationPtr.substituted.inj hit
      rw [has_parent] at found
      have recorded := (Prod.mk.inj (Except.ok.inj found)).1
      exact ⟨entry, List.mem_of_find?_eq_some first, has_parent, recorded⟩

/-- Every function of the shim forwards to some entry. -/
theorem callRootBridgeIo_forwards (host : HostBridge σ) {signature : RootBridgeIoSignature}
    (function : RootBridgeIoFunction signature) :
    ∃ entry, callRootBridgeIo host function = forwardRootBridgeIo entry host := by
  cases function <;> exact ⟨_, rfl⟩

theorem callResourceAllocation_forwards (host : HostBridge σ)
    {signature : ResourceAllocationSignature} (function : ResourceAllocationFunction signature) :
    ∃ entry trace, callResourceAllocation host function =
      forwardResourceAllocation entry trace host := by
  cases function <;> exact ⟨_, _, rfl⟩

/-- A call that returns stands for a call on a recorded original. -/
theorem recorded_of_answered (answered : callSubstitute host world call = .ok (after, status)) :
    ∃ received, Recorded world.machine.toRegistry call received := by
  cases call with
  | rootBridgeIo mapping call =>
      simp only [callSubstitute] at answered
      split at answered
      · cases answered
      · next function _ =>
          obtain ⟨entry, forwards⟩ := callRootBridgeIo_forwards host function
          simp only [forwards, forwardRootBridgeIo] at answered
          split at answered
          · cases answered
          · next original found =>
              obtain ⟨listed, recorded⟩ := recorded_of_findRootBridgeIo found
              exact ⟨_, .rootBridgeIo listed recorded⟩
  | resourceAllocation mapping call =>
      simp only [callSubstitute] at answered
      split at answered
      · cases answered
      · next function _ =>
          obtain ⟨entry, trace, forwards⟩ := callResourceAllocation_forwards host function
          simp only [forwards, forwardResourceAllocation] at answered
          split at answered
          · cases answered
          · cases answered
          · next original m found =>
              obtain ⟨entry, listed, has_parent, recorded⟩ :=
                recorded_of_findResourceAllocation found
              exact ⟨_, .resourceAllocation listed has_parent recorded⟩

end Answered

/-! ## Sessions -/

/-- The shim in use, with the calls that clients have made and the answers they have got. -/
structure Session (σ : Type) extends World σ where
  calls : List ClientCall
  statuses : List EfiStatus

/-- A session begins with the driver's entry point, above a base side in some state. -/
def Session.start (imageHandle : EfiHandle) (gPciBusDriverBinding : Pointer) (state : σ) :
    Session σ where
  machine := pciDxeShimMain imageHandle gPciBusDriverBinding
  base := ⟨state, []⟩
  calls := []
  statuses := []

/-- Either the firmware makes a connecting call, or a client calls through a substitute. -/
inductive SessionStep (host : HostBridge σ) : Session σ → Session σ → Prop
  | connect {session : Session σ} {m : Machine} (step : Step Connects session.machine m) :
      SessionStep host session { session with machine := m }
  | client {session : Session σ} {world : World σ} {call : ClientCall} {status : EfiStatus}
      (answered : callSubstitute host session.toWorld call = .ok (world, status)) :
      SessionStep host session
        ⟨world, session.calls ++ [call], session.statuses ++ [status]⟩

/-- The state of a session: the registry is in order, and the base side has seen its calls. -/
structure Session.Transparent (host : HostBridge σ) (state : σ) (session : Session σ) : Prop where
  wellFormed : session.machine.toRegistry.WellFormed
  hooks : session.machine.ShowsFrom []
  seen : ∃ received, List.Forall₂ (Recorded session.machine.toRegistry) session.calls received ∧
    respond (Base.call host) ⟨state, []⟩ received = (session.base, session.statuses)

section Sessions

variable {host : HostBridge σ} {state : σ} {session session' : Session σ} {m : Machine}

theorem Session.Transparent.connect (transparent : session.Transparent host state)
    (step : Step Connects session.machine m) :
    Session.Transparent host state { session with machine := m } := by
  obtain ⟨wellFormed, ⟨hooks, shown, history⟩, received, recorded, seen⟩ := transparent
  obtain ⟨platform, indeterminate, call, status, connects, run⟩ := step
  have later := call_shows connects shown run
  constructor
  · cases call with
    | supported this controller remainingDevicePath => exact wellFormed_supported wellFormed run
    | start this controller remainingDevicePath => exact wellFormed_start wellFormed run
    | stop this controller numberOfChildren childHandleBuffer => exact connects.elim
  · exact later.trans history
  · exact ⟨received, recorded.imp fun _ _ => shown.recorded_later later, seen⟩

theorem Session.Transparent.client {world : World σ} {call : ClientCall} {status : EfiStatus}
    (transparent : session.Transparent host state)
    (answered : callSubstitute host session.toWorld call = .ok (world, status)) :
    Session.Transparent host state
      ⟨world, session.calls ++ [call], session.statuses ++ [status]⟩ := by
  obtain ⟨wellFormed, ⟨hooks, shown, history⟩, received, recorded, seen⟩ := transparent
  obtain ⟨one, last⟩ := recorded_of_answered answered
  obtain ⟨after, forwarded, sameBase, sameRegistry, _⟩ :=
    callSubstitute_transparent wellFormed host ⟨rfl, rfl, rfl⟩ last
  obtain ⟨rfl, rfl⟩ := Prod.mk.inj (Except.ok.inj (forwarded.symm.trans answered))
  constructor
  · rw [sameRegistry]
    exact wellFormed
  · exact ⟨hooks, by rwa [sameRegistry], history⟩
  · refine ⟨received ++ [one], ?_, ?_⟩
    · rw [sameRegistry]
      exact List.rel_append recorded (.cons last .nil)
    · rw [respond_concat, seen, sameBase]

/-- A session that is transparent stays so. -/
theorem Session.Transparent.run (transparent : session.Transparent host state)
    (reached : Reachable (SessionStep host) session session') :
    session'.Transparent host state := by
  refine reached.invariant (Session.Transparent host state) transparent ?_
  intro before after transparent step
  cases step with
  | connect step => exact transparent.connect step
  | client answered => exact transparent.client answered

/-- What the base side has received is what the clients have sent. -/
theorem Session.Transparent.received (transparent : session.Transparent host state) :
    ∃ received, List.Forall₂ (Recorded session.machine.toRegistry) session.calls received ∧
      session.base.received = received ∧
      respond (Base.call host) ⟨state, []⟩ received = (session.base, session.statuses) := by
  obtain ⟨received, recorded, seen⟩ := transparent.seen
  refine ⟨received, recorded, ?_, seen⟩
  have log := received_respond host ⟨state, []⟩ received
  rw [seen] at log
  exact log

theorem Session.Transparent.answered_iff (transparent : session.Transparent host state)
    (call : ClientCall) :
    (∃ world status, callSubstitute host session.toWorld call = .ok (world, status)) ↔
      ∃ received, Recorded session.machine.toRegistry call received := by
  constructor
  · rintro ⟨world, status, answered⟩
    exact recorded_of_answered answered
  · rintro ⟨received, recorded⟩
    obtain ⟨after, forwarded, _⟩ :=
      callSubstitute_transparent transparent.wellFormed host ⟨rfl, rfl, rfl⟩ recorded
    exact ⟨after, _, forwarded⟩

/-- In front of an empty list nothing has been shown, and nobody has called. -/
theorem transparent_of_emptied (emptied : m.rootBridgeIoProtocolList = []) :
    Session.Transparent host state ⟨⟨m, ⟨state, []⟩⟩, [], []⟩ := by
  have shown : m.toRegistry.Shows [] := ⟨emptied, by simp, List.nodup_nil⟩
  exact ⟨Registry.wellFormed_of_empty emptied, shown.from, [], .nil, rfl⟩

/-- Every reachable session is transparent. -/
theorem transparent_of_reachable {imageHandle : EfiHandle} {gPciBusDriverBinding : Pointer}
    (reached : Reachable (SessionStep host)
      (Session.start imageHandle gPciBusDriverBinding state) session) :
    session.Transparent host state :=
  (transparent_of_emptied rfl).run reached

/-- A run of connecting calls is a session without clients. -/
theorem reachable_connected (host : HostBridge σ) (state : σ) (reached : ReachableBy Connects m) :
    ∃ imageHandle gPciBusDriverBinding, Reachable (SessionStep host)
      (Session.start imageHandle gPciBusDriverBinding state) ⟨⟨m, ⟨state, []⟩⟩, [], []⟩ := by
  obtain ⟨imageHandle, gPciBusDriverBinding, run⟩ := reached
  refine ⟨imageHandle, gPciBusDriverBinding, ?_⟩
  refine run.invariant (fun m => Reachable (SessionStep host)
    (Session.start imageHandle gPciBusDriverBinding state) ⟨⟨m, ⟨state, []⟩⟩, [], []⟩)
    (Reachable.start ..) ?_
  intro before after earlier step
  have connected : SessionStep host ⟨⟨before, ⟨state, []⟩⟩, [], []⟩
      ⟨⟨after, ⟨state, []⟩⟩, [], []⟩ := .connect step
  exact earlier.step connected

/-- A client's call of `Flush` through the substitute of the first mapping. -/
def flushCall : ClientCall :=
  .rootBridgeIo 1 ⟨.flush, .flush, ⟨⟩⟩

/-- The session in which the controller 5 has been started and a client has called `Flush`. -/
def flushedSession : Session Nat where
  machine :=
    match callSubstitute countingHost ⟨startedMachine, ⟨0, []⟩⟩ flushCall with
    | .error _ => startedMachine
    | .ok (world, _) => world.machine
  base := ⟨1, [.rootBridgeIo ⟨0x100, 7, 0⟩ ⟨.flush, .flush, ⟨⟩⟩]⟩
  calls := [flushCall]
  statuses := [efiSuccess]

theorem reachable_flushedSession : ∃ imageHandle gPciBusDriverBinding,
    Reachable (SessionStep countingHost) (Session.start imageHandle gPciBusDriverBinding 0)
      flushedSession := by
  obtain ⟨imageHandle, gPciBusDriverBinding, connected⟩ := reachable_connected countingHost 0
    (reachableBy_startedMachine trivial trivial trivial)
  have flushed : SessionStep countingHost ⟨⟨startedMachine, ⟨0, []⟩⟩, [], []⟩ flushedSession :=
    .client rfl
  exact ⟨imageHandle, gPciBusDriverBinding, connected.step flushed⟩

/--
However the calls of clients are interleaved with the hooking and starting of drivers,
the base side receives exactly the calls of the clients, in their order, each on the
original that is recorded for its substitute at the end, and every client has got the
base side's answer.
-/
theorem sessions_are_transparent {imageHandle : EfiHandle} {gPciBusDriverBinding : Pointer}
    (reached : Reachable (SessionStep host)
      (Session.start imageHandle gPciBusDriverBinding state) session) :
    ∃ received, List.Forall₂ (Recorded session.machine.toRegistry) session.calls received ∧
      session.base.received = received ∧
      respond (Base.call host) ⟨state, []⟩ received = (session.base, session.statuses) :=
  (transparent_of_reachable reached).received

theorem sessions_are_transparent_flushed :
    ∃ received,
      List.Forall₂ (Recorded flushedSession.machine.toRegistry) flushedSession.calls received ∧
      flushedSession.base.received = received ∧
      respond (Base.call countingHost) ⟨0, []⟩ received =
        (flushedSession.base, flushedSession.statuses) := by
  obtain ⟨imageHandle, gPciBusDriverBinding, reached⟩ := reachable_flushedSession
  exact sessions_are_transparent reached

/--
In every reachable session, a client's call gets through to the base side exactly if the
original of its substitute has been recorded.
-/
theorem client_answered_iff {imageHandle : EfiHandle} {gPciBusDriverBinding : Pointer}
    (reached : Reachable (SessionStep host)
      (Session.start imageHandle gPciBusDriverBinding state) session) (call : ClientCall) :
    (∃ world status, callSubstitute host session.toWorld call = .ok (world, status)) ↔
      ∃ received, Recorded session.machine.toRegistry call received :=
  (transparent_of_reachable reached).answered_iff call

theorem client_answered_iff_flushed :
    (∃ world status, callSubstitute countingHost flushedSession.toWorld flushCall =
      .ok (world, status)) ↔
      ∃ received, Recorded flushedSession.machine.toRegistry flushCall received := by
  obtain ⟨imageHandle, gPciBusDriverBinding, reached⟩ := reachable_flushedSession
  exact client_answered_iff reached flushCall

end Sessions

end Thundermod.Shim
