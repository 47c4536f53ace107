import Thundermod.Shim.Teardown
import Thundermod.Shim.WellFormed

/-!
# The heap under the cleanup loop

A pass of `CleanupDriver` frees the parent of its mapping before it uninstalls
the substitute of the mapping itself, and frees the mapping before the loop
follows its link.  Whichever of the two uninstalls ends the pass, a pass that
frees anything breaks the heap.
-/

namespace Thundermod.Shim

open Control

/-- The blocks of the pool are distinct, and every listed mapping and its parent are live. -/
structure Registry.Owned (registry : Registry) : Prop where
  nodup : registry.live.Nodup
  live : ∀ entry ∈ registry.rootBridgeIoProtocolList, entry ∈ registry.live
  parent : ∀ entry ∈ registry.rootBridgeIoProtocolList, ∃ parent ∈ registry.live,
    (registry.mapping entry).parent = some parent

theorem Registry.WellFormed.owned {registry : Registry} (wellFormed : registry.WellFormed)
    (nodup : registry.live.Nodup) : registry.Owned where
  nodup := nodup
  live := fun _ listed => wellFormed.live listed
  parent := fun entry listed => by
    obtain ⟨parent, complete⟩ := wellFormed.complete entry listed
    exact ⟨parent, complete.parent_live, complete.has_parent⟩

/-- The event is a release of the block. -/
def Event.frees (block : Addr) : Event → Bool
  | .freed other => other = block
  | _ => false

/-- The event is a read or a release of a block that is not live. -/
def Event.Dangling : Event → Prop
  | .useAfterFree _ => True
  | .doubleFree _ => True
  | _ => False

/-- What a cleanup that returns has done to the heap. -/
structure CleanedUp (before after : Machine) (status : EfiStatus) (events : List Event) :
    Prop where
  log : after.log = events ++ before.log
  defined : ∀ event ∈ events, ¬ event.Dangling
  listed : ∀ entry ∈ after.rootBridgeIoProtocolList, entry ∈ after.live ∧
    ∃ parent ∈ after.live, (after.mapping entry).parent = some parent
  emptied : status = efiSuccess → after.rootBridgeIoProtocolList = []
  freed : status = efiSuccess → ∀ entry ∈ before.rootBridgeIoProtocolList,
    events.countP (Event.frees entry) = 1 ∧
    ∀ parent, (before.mapping entry).parent = some parent →
      events.countP (Event.frees parent) = 1

/-- The cleanup returns, and the heap is as it should be. -/
def CleanupLive (platform : Platform) (indeterminate : EfiStatus) (this : DriverBinding)
    (controller : EfiHandle) (m : Machine) : Prop :=
  ∃ r events, cleanupDriver platform indeterminate this controller m = .ok r ∧
    CleanedUp m r.machine r.status events

namespace Machine

theorem touch_of_live {block : Addr} {m : Machine} (member : block ∈ m.live) :
    m.touch block = m :=
  if_pos member

theorem touch_of_not_live {block : Addr} {m : Machine} (absent : block ∉ m.live) :
    m.touch block = m.record (.useAfterFree block) :=
  if_neg absent

end Machine

/-- A pass only adds to the log. -/
theorem log_suffix_cleanupMapping {platform : Platform} {this : DriverBinding}
    {controller : EfiHandle} {entry : Addr} (state : Returned) :
    (cleanupMapping platform this controller entry state).Ensures
      (fun r => state.machine.log <:+ r.machine.log)
      (fun r => state.machine.log <:+ r.machine.log) := by
  refine (cleanupMapping_ends entry state).ensures.imp ?_ fun _ fails => fails.log_suffix
  rintro after ⟨original, _, gone⟩
  exact (log_suffix_closedOriginals entry original).trans gone.log

/-! ## The first pass -/

section FirstPass

variable {platform : Platform} {this : DriverBinding} {controller : EfiHandle} {entry : Addr}
  {m : Machine}

/-- The key under which the root-bridge protocol of the controller is closed. -/
def rootBridgeIoKey (this : DriverBinding) (controller : EfiHandle) : OpenKey :=
  (rootBridgeIoOpen this.driverBindingHandle (some controller)).key

def resourceAllocationKey (this : DriverBinding) (controller : EfiHandle)
    (original : HostRootBridgeIo) : OpenKey :=
  (resourceAllocationOpen this.driverBindingHandle (some controller) original.parentHandle).key

/--
One of the three services that a first pass asks before it frees anything fails:
the two closes, or the uninstall of the resource-allocation substitute.
-/
def HaltsUnharmed (platform : Platform) (this : DriverBinding) (controller : EfiHandle)
    (entry : Addr) (original : HostRootBridgeIo) (m : Machine) : Prop :=
  let closed := (m.closeProtocol platform (rootBridgeIoKey this controller)).machine
  let closedBoth :=
    (closed.closeProtocol platform (resourceAllocationKey this controller original)).machine
  platform.closeStatus m (rootBridgeIoKey this controller) ≠ efiSuccess ∨
  platform.closeStatus closed (resourceAllocationKey this controller original) ≠ efiSuccess ∨
  platform.uninstallStatus closedBoth (m.mapping entry).substitutedProtocol.parentHandle
    (.resourceAllocation (m.mapping entry).parent) ≠ efiSuccess

/-- The loop is left with the heap as it was. -/
structure LeftUnharmed (before : Machine) (r : Returned) : Prop where
  failed : r.status ≠ efiSuccess
  toRegistry : r.machine.toRegistry = before.toRegistry
  log : ∃ events, r.machine.log = events ++ before.log ∧ ∀ event ∈ events, ¬ event.Dangling

theorem LeftUnharmed.cleanupLive {indeterminate : EfiStatus} {r : Returned}
    (unharmed : LeftUnharmed m r) (owned : m.toRegistry.Owned)
    (run : cleanupDriver platform indeterminate this controller m = .ok r) :
    CleanupLive platform indeterminate this controller m := by
  obtain ⟨events, log, defined⟩ := unharmed.log
  refine ⟨r, events, run, log, defined, ?_, fun success => absurd success unharmed.failed,
    fun success => absurd success unharmed.failed⟩
  intro entry listed
  rw [unharmed.toRegistry] at listed ⊢
  exact ⟨owned.live entry listed, owned.parent entry listed⟩

/-- A pass over a live and open mapping, up to its first release. -/
theorem cleanupMapping_of_live {original : HostRootBridgeIo} {status : EfiStatus}
    (live : entry ∈ m.live) (opened : (m.mapping entry).originalProtocol = some original) :
    cleanupMapping platform this controller entry ⟨status, m⟩ =
      let closed := m.closeProtocol platform (rootBridgeIoKey this controller)
      let closedBoth :=
        closed.machine.closeProtocol platform (resourceAllocationKey this controller original)
      if closed.status = efiSuccess then
        if closedBoth.status = efiSuccess then
          uninstallSubstitutes platform controller entry closedBoth.machine
        else .leave closedBoth
      else .leave closed := by
  have same (key : OpenKey) : (m.closeProtocol platform key).machine.touch entry =
      (m.closeProtocol platform key).machine :=
    Machine.touch_of_live live
  simp only [cleanupMapping, rootBridgeIoKey, resourceAllocationKey,
    Machine.toRegistry_closeProtocol, opened, same]
  rfl

/-- An uninstall that fails frees nothing. -/
theorem leftUnharmed_uninstallAndFree {handle : Option EfiHandle} {interface : Interface}
    {freed : Option Addr} (failed : platform.uninstallStatus m handle interface ≠ efiSuccess) :
    LeftUnharmed m (uninstallAndFree platform handle interface freed m) := by
  have machine : (uninstallAndFree platform handle interface freed m).machine =
      (m.uninstallMultipleProtocolInterfaces platform handle interface).machine :=
    if_neg failed
  refine ⟨failed, by rw [machine, Machine.toRegistry_uninstall], [.uninstalled handle interface _],
    by rw [machine]; rfl, ?_⟩
  simp [Event.Dangling]

theorem uninstallSubstitutes_of_failed (live : entry ∈ m.live)
    (failed : platform.uninstallStatus m (m.mapping entry).substitutedProtocol.parentHandle
      (.resourceAllocation (m.mapping entry).parent) ≠ efiSuccess) :
    uninstallSubstitutes platform controller entry m =
      .leave (uninstallResourceAllocationProtocol platform
        (m.mapping entry).substitutedProtocol.parentHandle (m.mapping entry).parent m) := by
  simp only [uninstallSubstitutes, Machine.touch_of_live live,
    uninstallResourceAllocationProtocol, status_uninstallAndFree, if_neg failed]

theorem LeftUnharmed.after {before : Machine} {r : Returned} (unharmed : LeftUnharmed m r)
    (toRegistry : m.toRegistry = before.toRegistry)
    (log : ∃ events, m.log = events ++ before.log ∧ ∀ event ∈ events, ¬ event.Dangling) :
    LeftUnharmed before r := by
  obtain ⟨later, logged, defined⟩ := unharmed.log
  obtain ⟨earlier, logged', defined'⟩ := log
  refine ⟨unharmed.failed, unharmed.toRegistry.trans toRegistry, later ++ earlier, ?_, ?_⟩
  · rw [logged, logged', List.append_assoc]
  · intro event member
    rcases List.mem_append.mp member with member | member
    · exact defined event member
    · exact defined' event member

/-- A first pass that halts before its first release leaves the loop. -/
theorem cleanupMapping_of_haltsUnharmed {original : HostRootBridgeIo} (status : EfiStatus)
    (live : entry ∈ m.live) (opened : (m.mapping entry).originalProtocol = some original)
    (halts : HaltsUnharmed platform this controller entry original m) :
    ∃ r, cleanupMapping platform this controller entry ⟨status, m⟩ = .leave r ∧
      LeftUnharmed m r := by
  rw [cleanupMapping_of_live live opened]
  dsimp only
  by_cases first : platform.closeStatus m (rootBridgeIoKey this controller) = efiSuccess
  · rw [Machine.status_closeProtocol, if_pos first, Machine.status_closeProtocol]
    by_cases second : platform.closeStatus
        (m.closeProtocol platform (rootBridgeIoKey this controller)).machine
        (resourceAllocationKey this controller original) = efiSuccess
    · have third := (halts.resolve_left (not_not.mpr first)).resolve_left (not_not.mpr second)
      rw [if_pos second]
      refine ⟨_, uninstallSubstitutes_of_failed live third, ?_⟩
      refine (leftUnharmed_uninstallAndFree third).after rfl ⟨[.closed _ _, .closed _ _], rfl, ?_⟩
      simp [Event.Dangling]
    · rw [if_neg second]
      refine ⟨_, rfl, second, rfl, [.closed _ _, .closed _ _], rfl, ?_⟩
      simp [Event.Dangling]
  · rw [Machine.status_closeProtocol, if_neg first]
    refine ⟨_, rfl, first, rfl, [.closed _ _], rfl, ?_⟩
    simp [Event.Dangling]

/-- The second half of a pass that has uninstalled the resource-allocation substitute. -/
theorem uninstallSubstitutes_of_uninstalled (live : entry ∈ m.live)
    (uninstalled : platform.uninstallStatus m (m.mapping entry).substitutedProtocol.parentHandle
      (.resourceAllocation (m.mapping entry).parent) = efiSuccess) :
    uninstallSubstitutes platform controller entry m =
      let first := uninstallResourceAllocationProtocol platform
        (m.mapping entry).substitutedProtocol.parentHandle (m.mapping entry).parent m
      let second := uninstallRootBridgeIoProtocolProtocol platform controller entry first.machine
      if second.status = efiSuccess then
        .next { second with machine := second.machine.touch entry }
      else .leave second := by
  simp only [uninstallSubstitutes, Machine.touch_of_live live, uninstallResourceAllocationProtocol,
    status_uninstallAndFree, if_pos uninstalled]
  rfl

/-- Once the mapping is freed as well, the loop reads the link of a freed block. -/
theorem useAfterFree_of_uninstalled (nodup : m.live.Nodup)
    (uninstalled : platform.uninstallStatus m (some controller) (.rootBridgeIo entry) =
      efiSuccess) :
    ∃ events, ((uninstallRootBridgeIoProtocolProtocol platform controller entry m).machine.touch
      entry).log = .useAfterFree entry :: (events ++ m.log) := by
  have dead : entry ∉
      (uninstallRootBridgeIoProtocolProtocol platform controller entry m).machine.live := by
    rw [uninstallRootBridgeIoProtocolProtocol, live_uninstallAndFree uninstalled]
    exact nodup.not_mem_erase
  obtain ⟨events, log⟩ := Machine.log_suffix_uninstallAndFree platform (some controller)
    (.rootBridgeIo entry) (some entry) m
  refine ⟨events, ?_⟩
  rw [Machine.touch_of_not_live dead, log]
  rfl

/--
A pass that has uninstalled the resource-allocation substitute either reads the link
of its freed mapping, or leaves the mapping on the list with a freed parent.
-/
theorem uninstallSubstitutes_harms {parent : Addr} (nodup : m.live.Nodup)
    (live : entry ∈ m.live) (has_parent : (m.mapping entry).parent = some parent)
    (uninstalled : platform.uninstallStatus m (m.mapping entry).substitutedProtocol.parentHandle
      (.resourceAllocation (m.mapping entry).parent) = efiSuccess) :
    (∃ state events, uninstallSubstitutes platform controller entry m = .next state ∧
      state.machine.log = .useAfterFree entry :: (events ++ m.log)) ∨
    ∃ r, uninstallSubstitutes platform controller entry m = .leave r ∧
      r.machine.rootBridgeIoProtocolList = m.rootBridgeIoProtocolList ∧
      r.machine.mapping = m.mapping ∧ parent ∉ r.machine.live := by
  rw [uninstallSubstitutes_of_uninstalled live uninstalled]
  dsimp only
  obtain ⟨first, named⟩ : ∃ first, first = uninstallResourceAllocationProtocol platform
    (m.mapping entry).substitutedProtocol.parentHandle (m.mapping entry).parent m := ⟨_, rfl⟩
  have firstLive : first.machine.live = m.live.erase parent := by
    rw [has_parent] at named uninstalled
    rw [named]
    exact live_uninstallAndFree uninstalled
  have firstLog : m.log <:+ first.machine.log := by
    rw [named]
    exact Machine.log_suffix_uninstallAndFree ..
  have firstList : first.machine.rootBridgeIoProtocolList = m.rootBridgeIoProtocolList := by
    rw [named]
    exact rootBridgeIoProtocolList_uninstallAndFree ..
  have firstMapping : first.machine.mapping = m.mapping := by
    rw [named]
    exact mapping_uninstallAndFree ..
  rw [← named]
  by_cases second : platform.uninstallStatus first.machine (some controller)
      (.rootBridgeIo entry) = efiSuccess
  · left
    obtain ⟨later, log⟩ := useAfterFree_of_uninstalled (firstLive ▸ nodup.erase parent) second
    obtain ⟨earlier, log'⟩ := firstLog
    refine ⟨_, later ++ earlier, if_pos second, ?_⟩
    rw [log, ← log', List.append_assoc]
  · right
    have machine : (uninstallRootBridgeIoProtocolProtocol platform controller entry
        first.machine).machine.toRegistry = first.machine.toRegistry :=
      (leftUnharmed_uninstallAndFree second).toRegistry
    refine ⟨_, if_neg second, ?_, ?_, ?_⟩
    · rw [machine, firstList]
    · rw [machine, firstMapping]
    · rw [machine, firstLive]
      exact nodup.not_mem_erase

end FirstPass

/-! ## The whole cleanup -/

section Cleanup

variable {platform : Platform} {indeterminate : EfiStatus} {this : DriverBinding}
  {controller : EfiHandle} {m : Machine} {entry : Addr} {rest : List Addr}

theorem cleanupDriver_of_leave {r : Returned}
    (list : m.rootBridgeIoProtocolList = entry :: rest)
    (pass : cleanupMapping platform this controller entry ⟨indeterminate, m⟩ = .leave r) :
    cleanupDriver platform indeterminate this controller m = .ok r := by
  simp only [cleanupDriver, list, forEach, pass]

/-- What the first pass logs is still there when the cleanup returns. -/
theorem log_suffix_cleanupDriver {state r : Returned}
    (list : m.rootBridgeIoProtocolList = entry :: rest)
    (pass : cleanupMapping platform this controller entry ⟨indeterminate, m⟩ = .next state)
    (run : cleanupDriver platform indeterminate this controller m = .ok r) :
    state.machine.log <:+ r.machine.log := by
  let Grown (r : Returned) : Prop := state.machine.log <:+ r.machine.log
  have one (item : Addr) (_ : List Addr) (before : Returned) (grown : Grown before) :
      (cleanupMapping platform this controller item before).Ensures Grown Grown :=
    (log_suffix_cleanupMapping before).imp (fun _ later => List.IsSuffix.trans grown later)
      (fun _ later => List.IsSuffix.trans grown later)
  have loop := forEach_ensures (fun _ => Grown) Grown one rest state (List.suffix_refl _)
  simp only [cleanupDriver, list, forEach_cons_next pass] at run
  cases outcome : forEach (cleanupMapping platform this controller) rest state with
  | fault fault =>
      rw [outcome] at run
      cases run
  | next after =>
      rw [outcome] at run loop
      cases run
      exact loop
  | leave result =>
      rw [outcome] at run loop
      cases run
      exact loop

theorem CleanedUp.not_useAfterFree {after : Machine} {status : EfiStatus} {events log : List Event}
    {block : Addr} (cleaned : CleanedUp m after status events) (older : m.log <:+ log)
    (logged : .useAfterFree block :: log <:+ after.log) : False := by
  obtain ⟨earlier, log_eq⟩ := older
  obtain ⟨latest, logged⟩ := logged
  rw [cleaned.log, ← log_eq, ← List.cons_append, ← List.append_assoc] at logged
  have same := List.append_cancel_right logged
  refine cleaned.defined (.useAfterFree block) ?_ trivial
  rw [← same]
  simp

/-- The cleanup of a list whose first pass frees something breaks the heap. -/
theorem not_cleanupLive {original : HostRootBridgeIo} (owned : m.toRegistry.Owned)
    (list : m.rootBridgeIoProtocolList = entry :: rest)
    (opened : (m.mapping entry).originalProtocol = some original)
    (goes : ¬ HaltsUnharmed platform this controller entry original m) :
    ¬ CleanupLive platform indeterminate this controller m := by
  rintro ⟨r, events, run, cleaned⟩
  have listed : entry ∈ m.rootBridgeIoProtocolList := by
    rw [list]
    exact List.mem_cons_self
  have live := owned.live entry listed
  obtain ⟨parent, _, has_parent⟩ := owned.parent entry listed
  simp only [HaltsUnharmed, not_or, not_not] at goes
  obtain ⟨first, second, third⟩ := goes
  have closes : cleanupMapping platform this controller entry ⟨indeterminate, m⟩ =
      uninstallSubstitutes platform controller entry
        ((m.closeProtocol platform (rootBridgeIoKey this controller)).machine.closeProtocol platform
          (resourceAllocationKey this controller original)).machine := by
    rw [cleanupMapping_of_live live opened]
    dsimp only
    rw [Machine.status_closeProtocol, if_pos first, Machine.status_closeProtocol, if_pos second]
  rcases uninstallSubstitutes_harms (m := ((m.closeProtocol platform
      (rootBridgeIoKey this controller)).machine.closeProtocol platform
        (resourceAllocationKey this controller original)).machine)
    owned.nodup live has_parent third with
    ⟨state, later, next, log⟩ | ⟨left, leave, sameList, sameMapping, dead⟩
  · have grown := log_suffix_cleanupDriver list (closes.trans next) run
    rw [log] at grown
    refine cleaned.not_useAfterFree ?_ grown
    exact ((Machine.log_suffix_closeProtocol _ _ _).trans
      (Machine.log_suffix_closeProtocol _ _ _)).trans (List.suffix_append _ _)
  · have same : r = left :=
      Except.ok.inj (run.symm.trans (cleanupDriver_of_leave list (closes.trans leave)))
    subst same
    have still : entry ∈ r.machine.rootBridgeIoProtocolList := by
      rw [sameList]
      exact listed
    obtain ⟨parent', member, has_parent'⟩ := (cleaned.listed entry still).2
    rw [sameMapping] at has_parent'
    obtain rfl : parent' = parent := Option.some.inj (has_parent'.symm.trans has_parent)
    exact dead member

/--
A cleanup of open mappings keeps to live blocks, and has freed each block once
when it succeeds, exactly if the list is empty or its first pass halts before it
frees anything.
-/
theorem cleanup_live_iff (platform : Platform) (indeterminate : EfiStatus) (this : DriverBinding)
    (controller : EfiHandle) (m : Machine) (owned : m.toRegistry.Owned)
    (opened : ∀ entry ∈ m.rootBridgeIoProtocolList, (m.mapping entry).originalProtocol ≠ none) :
    CleanupLive platform indeterminate this controller m ↔
      ∀ entry rest original, m.rootBridgeIoProtocolList = entry :: rest →
        (m.mapping entry).originalProtocol = some original →
          HaltsUnharmed platform this controller entry original m := by
  constructor
  · intro cleanup entry rest original list found
    by_contra goes
    exact not_cleanupLive owned list found goes cleanup
  · intro halts
    cases list : m.rootBridgeIoProtocolList with
    | nil =>
        refine ⟨⟨indeterminate, { m with rootBridgeIoProtocolList := [] }⟩, [], ?_, rfl, ?_, ?_,
          fun _ => rfl, ?_⟩
        · simp only [cleanupDriver, list, forEach]
        · simp
        · simp
        · simp [list]
    | cons entry rest =>
        have listed : entry ∈ m.rootBridgeIoProtocolList := by
          rw [list]
          exact List.mem_cons_self
        obtain ⟨original, found⟩ := Option.ne_none_iff_exists'.mp (opened entry listed)
        obtain ⟨r, pass, unharmed⟩ := cleanupMapping_of_haltsUnharmed indeterminate
          (owned.live entry listed) found
          (halts entry rest original list found)
        exact unharmed.cleanupLive owned (cleanupDriver_of_leave list pass)

theorem owned_startedMachine : startedMachine.toRegistry.Owned where
  nodup := by decide
  live := by decide
  parent := by
    intro entry listed
    obtain rfl : entry = 1 := List.mem_singleton.mp listed
    exact ⟨2, by decide, rfl⟩

theorem opened_startedMachine : ∀ entry ∈ startedMachine.rootBridgeIoProtocolList,
    (startedMachine.mapping entry).originalProtocol ≠ none := by
  intro entry listed
  obtain rfl : entry = 1 := List.mem_singleton.mp listed
  exact Option.some_ne_none _

theorem cleanup_live_started :
    CleanupLive compliant 0 shimBinding 5 startedMachine ↔
      ∀ entry rest original, startedMachine.rootBridgeIoProtocolList = entry :: rest →
        (startedMachine.mapping entry).originalProtocol = some original →
          HaltsUnharmed compliant shimBinding 5 entry original startedMachine :=
  cleanup_live_iff compliant 0 shimBinding 5 startedMachine owned_startedMachine
    opened_startedMachine

/-- When everything succeeds, the mapping of the started controller is read after it was freed. -/
theorem cleanup_reads_freed_mapping :
    ¬ ∀ platform indeterminate this controller (m : Machine), m.toRegistry.Owned →
      (∀ entry ∈ m.rootBridgeIoProtocolList, (m.mapping entry).originalProtocol ≠ none) →
        CleanupLive platform indeterminate this controller m := by
  intro holds
  have list : startedMachine.rootBridgeIoProtocolList = 1 :: [] := rfl
  have cleanup := holds compliant 0 shimBinding 5 startedMachine owned_startedMachine
    opened_startedMachine
  refine not_cleanupLive owned_startedMachine list rfl ?_ cleanup
  rintro (failed | failed | failed) <;> exact failed rfl

end Cleanup

end Thundermod.Shim
