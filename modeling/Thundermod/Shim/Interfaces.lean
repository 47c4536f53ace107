import Thundermod.Control.Ledger
import Thundermod.Shim.Primitives

/-!
# Installed interfaces and their memory

The substitutes that are installed lie in pool blocks of the shim.  Whatever calls are
made, an interface stays installed only as long as its block is live, no block is given
back twice, and a block that is lost is one whose installation failed.
-/

namespace Thundermod.Shim

open Control

/-! ## The ledger of a machine -/

/-- The block of an interface that could not be installed. -/
def Event.lostBlock : Event → Option Addr
  | .installed _ interface status => if status = efiSuccess then none else interface.block
  | _ => none

def Event.doubleFreed : Event → Option Addr
  | .doubleFree block => some block
  | _ => none

/-- The block that the interface of an entry of the handle database lies in. -/
def installedBlock (entry : EfiHandle × Interface) : Option Addr :=
  entry.2.block

namespace Machine

/-- The blocks of the installed interfaces. -/
def blocks (m : Machine) : List Addr :=
  m.installed.filterMap installedBlock

/-- The blocks whose installation failed. -/
def lostBlocks (m : Machine) : List Addr :=
  m.log.filterMap Event.lostBlock

/-- What has become of the blocks that the shim has allocated. -/
def ledger (m : Machine) : Ledger Addr where
  held := m.live
  published := m.blocks
  abandoned := m.lostBlocks
  givenBackTwice := m.log.filterMap Event.doubleFreed

variable {platform : Platform} {block : Addr} {m : Machine}

theorem ledger_record {event : Event} (lost : event.lostBlock = none)
    (freed : event.doubleFreed = none) : (m.record event).ledger = m.ledger := by
  simp only [ledger, blocks, lostBlocks, record, List.filterMap_cons_none lost,
    List.filterMap_cons_none freed]

theorem ledger_touch : (m.touch block).ledger = m.ledger := by
  unfold touch
  split
  · rfl
  · exact ledger_record rfl rfl

theorem ledger_freePool (held : block ∈ m.live) :
    (m.freePool (some block)).ledger = { m.ledger with held := m.live.erase block } := by
  simp only [freePool, if_pos held]
  rfl

/-- Installing an interface in a new block publishes the block, or abandons it. -/
theorem ledger_install {handle : Option EfiHandle} {interface : Interface}
    (before : Machine) (lies : interface.block = some block) (free : block ∉ m.live)
    (held : before.live = block :: m.live) (others : before.installed = m.installed)
    (log : before.log = m.log) :
    Ledger.Step m.ledger
      (before.installMultipleProtocolInterfaces platform handle interface).1.machine.ledger := by
  by_cases installed : platform.installStatus before handle interface = efiSuccess
  · have published : (before.installMultipleProtocolInterfaces platform handle
        interface).1.machine.ledger = m.ledger.publish block := by
      simp only [ledger, lostBlocks, blocks, installMultipleProtocolInterfaces, installed, if_true,
        held, others, log, Ledger.publish, List.filterMap_cons, Event.lostBlock,
        Event.doubleFreed, installedBlock, lies]
    rw [published]
    exact .publish free
  · have abandoned : (before.installMultipleProtocolInterfaces platform handle
        interface).1.machine.ledger = m.ledger.abandon block := by
      simp only [ledger, lostBlocks, blocks, installMultipleProtocolInterfaces, installed, if_false,
        held, others, log, Ledger.abandon, List.filterMap_cons, Event.lostBlock,
        Event.doubleFreed, installedBlock, lies]
    rw [abandoned]
    exact .abandon free

end Machine

/-! ## Primitive steps -/

/-- `UninstallMultipleProtocolInterfaces` only succeeds for an interface on the given handle. -/
def UninstallsInstalled (platform : Platform) : Prop :=
  ∀ m handle interface, platform.uninstallStatus m handle interface = efiSuccess →
    ∃ target, handle = some target ∧ (target, interface) ∈ m.installed

section Steps

variable {platform : Platform} {before after m : Machine}

/-- An uninstall gives back the block of an installed interface, or nothing. -/
theorem ledger_uninstallAndFree (uninstalls : UninstallsInstalled platform)
    (sound : m.ledger.Sound) (handle : Option EfiHandle) (interface : Interface) :
    Ledger.Step m.ledger
      (uninstallAndFree platform handle interface interface.block m).machine.ledger := by
  let uninstalled := (m.uninstallMultipleProtocolInterfaces platform handle interface).machine
  by_cases success : platform.uninstallStatus m handle interface = efiSuccess
  · obtain ⟨target, rfl, member⟩ := uninstalls m handle interface success
    have remaining : uninstalled.installed = m.installed.erase (target, interface) := if_pos success
    rw [machine_uninstallAndFree success]
    cases lies : interface.block with
    | none =>
        have lies' : installedBlock (target, interface) = none := lies
        have same : uninstalled.ledger = m.ledger := by
          simp only [Machine.ledger, Machine.blocks, remaining]
          rw [filterMap_erase_of_none lies']
          rfl
        exact same ▸ .idle
    | some block =>
        have lies' : installedBlock (target, interface) = some block := lies
        have published : block ∈ m.ledger.published :=
          List.mem_filterMap.mpr ⟨_, member, lies'⟩
        have held : block ∈ uninstalled.live := sound.held_of_published published
        have back : (uninstalled.freePool (some block)).ledger = m.ledger.giveBack block := by
          rw [Machine.ledger_freePool held]
          simp only [Machine.ledger, Machine.blocks, remaining, Ledger.giveBack]
          rw [filterMap_erase_of_some sound.published_nodup lies' member]
          rfl
        rw [back]
        exact .giveBack published
  · have same : (uninstallAndFree platform handle interface interface.block m).machine.ledger =
        m.ledger := by
      have failed : (uninstallAndFree platform handle interface interface.block m).machine =
          uninstalled := if_neg success
      have installed : uninstalled.installed = m.installed := if_neg success
      rw [failed]
      simp only [Machine.ledger, Machine.blocks, installed]
      rfl
    exact same ▸ .idle

/-- Opening and closing protocols is not entered in the books. -/
theorem ledger_opening (step : OpeningStep platform before after) :
    after.ledger = before.ledger := by
  cases step with
  | located =>
      unfold findDriverBindingProtocol
      split <;> rfl
  | @answered event answer =>
      cases event <;> first | exact Machine.ledger_record rfl rfl | cases answer
  | touched => exact Machine.ledger_touch
  | opened => rfl
  | closed => rfl
  | recorded _ => rfl
  | parentRecorded => rfl

/-- Every primitive step keeps the books. -/
theorem ledger_primitive (uninstalls : UninstallsInstalled platform)
    (sound : before.ledger.Sound) (step : Primitive platform before after) :
    Ledger.Step before.ledger after.ledger := by
  cases step with
  | opening step => exact ledger_opening step ▸ .idle
  | @mapped this controller entry free =>
      exact Machine.ledger_install (before.withNewMapping this controller entry) rfl free rfl rfl
        rfl
  | @allocated entry parent free =>
      exact Machine.ledger_install (before.withNewResourceAllocation parent) rfl free rfl rfl rfl
  | inserted => exact .idle
  | @uninstalled handle interface =>
      exact ledger_uninstallAndFree uninstalls sound handle interface
  | emptied => exact .idle

/-- Uninstalling an interface installs nothing. -/
theorem installed_of_uninstallAndFree {handle : Option EfiHandle} {interface : Interface}
    {freed : Option Addr} {entry : EfiHandle × Interface}
    (member : entry ∈ (uninstallAndFree platform handle interface freed m).machine.installed) :
    entry ∈ m.installed := by
  have kept : entry ∈
      (m.uninstallMultipleProtocolInterfaces platform handle interface).machine.installed := by
    unfold uninstallAndFree at member
    split at member
    · rwa [Machine.toHandleDatabase_freePool] at member
    · exact member
  simp only [Machine.uninstallMultipleProtocolInterfaces] at kept
  split at kept
  · cases handle with
    | none => exact kept
    | some target => exact List.mem_of_mem_erase kept
  · exact kept

/-- What is installed behind a new interface was installed before, or is the new interface. -/
theorem installed_of_install {handle : Option EfiHandle} {interface : Interface}
    {entry : EfiHandle × Interface}
    (member : entry ∈
      (m.installMultipleProtocolInterfaces platform handle interface).1.machine.installed) :
    entry = (handle.getD (platform.newHandle m), interface) ∨ entry ∈ m.installed := by
  simp only [Machine.installMultipleProtocolInterfaces] at member
  split at member
  · exact List.mem_cons.mp member
  · exact Or.inr member

/-- No interface is ever installed that has no block. -/
theorem installedBlock_primitive
    (lies : ∀ entry ∈ before.installed, installedBlock entry ≠ none)
    (step : Primitive platform before after) :
    ∀ entry ∈ after.installed, installedBlock entry ≠ none := by
  intro entry member
  cases step with
  | opening step => exact lies entry (installed_opening step ▸ member)
  | @mapped this controller block _ =>
      rcases installed_of_install (m := before.withNewMapping this controller block) member with
        rfl | older
      · simp [installedBlock, Interface.block]
      · exact lies entry older
  | @allocated _ parent _ =>
      rcases installed_of_install (m := before.withNewResourceAllocation parent) member with
        rfl | older
      · simp [installedBlock, Interface.block]
      · exact lies entry older
  | inserted => exact lies entry member
  | uninstalled => exact lies entry (installed_of_uninstallAndFree member)
  | emptied => exact lies entry member

end Steps

/-! ## Every reachable state -/

/-- Calls on platforms that only uninstall what is installed. -/
def Uninstalls (platform : Platform) (_ : Call) (_ : Machine) : Prop :=
  UninstallsInstalled platform

theorem ledger_of_reachable {m : Machine} (reached : ReachableBy Uninstalls m) :
    m.ledger.Sound ∧ ∀ entry ∈ m.installed, installedBlock entry ≠ none := by
  refine reached.primitive_invariant (fun m => m.ledger.Sound ∧
    ∀ entry ∈ m.installed, installedBlock entry ≠ none) ?_ ?_
  · exact fun _ _ => ⟨⟨List.nodup_nil, .refl _, rfl⟩, fun _ member => nomatch member⟩
  · rintro platform ⟨_, _, uninstalls⟩ before after ⟨sound, lies⟩ step
    exact ⟨sound.step (ledger_primitive uninstalls sound step), installedBlock_primitive lies step⟩

/-- The installed interfaces lie in live blocks of their own, and no block was freed twice. -/
structure InterfacesBacked (m : Machine) : Prop where
  live : ∀ handle interface, (handle, interface) ∈ m.installed →
    ∃ block ∈ m.live, interface.block = some block
  distinct : m.blocks.Nodup
  freedOnce : ∀ block, .doubleFree block ∉ m.log

/--
Whatever is hooked, started and stopped, and however the calls end, an interface stays
installed no longer than its block is live, and no block is freed twice.
-/
theorem interfaces_never_dangle {m : Machine} (reached : ReachableBy Uninstalls m) :
    InterfacesBacked m := by
  obtain ⟨sound, lies⟩ := ledger_of_reachable reached
  constructor
  · intro handle interface member
    obtain ⟨block, found⟩ := Option.ne_none_iff_exists'.mp (lies _ member)
    exact ⟨block, sound.held_of_published (List.mem_filterMap.mpr ⟨_, member, found⟩), found⟩
  · exact sound.published_nodup
  · intro block member
    have twice : block ∈ m.ledger.givenBackTwice := List.mem_filterMap.mpr ⟨_, member, rfl⟩
    rw [sound.givenBackOnce] at twice
    cases twice

/-- A cooperative platform that refuses to uninstall what is not installed. -/
def strict : Platform :=
  { cooperative with
    uninstallStatus := fun m handle interface =>
      match handle with
      | none => efiNotFound
      | some target => if (target, interface) ∈ m.installed then efiSuccess else efiNotFound }

theorem uninstallsInstalled_strict : UninstallsInstalled strict := by
  intro m handle interface success
  cases handle with
  | none => exact absurd success efiNotFound_ne_efiSuccess
  | some target =>
      refine ⟨target, rfl, ?_⟩
      by_contra absent
      simp only [strict, if_neg absent] at success
      exact efiNotFound_ne_efiSuccess success

/-- The shim after the controller 5 has been hooked, started, stopped and hooked again. -/
def rehookedMachine : Machine :=
  afterCalls strict [.supported shimBinding 5 0, .supported shimBinding 5 0,
    .start shimBinding 5 0, .stop shimBinding 5 0 [], .supported shimBinding 5 0]
    (pciDxeShimMain 1 0x400)

theorem reachableBy_rehookedMachine {Admitted : Platform → Call → Machine → Prop}
    (admitted : ∀ call m, Admitted strict call m) : ReachableBy Admitted rehookedMachine :=
  reachableBy_afterCalls ⟨1, 0x400, Reachable.start ..⟩ _ fun call _ => admitted call

theorem interfaces_never_dangle_rehooked :
    rehookedMachine.installed =
        [(9, .resourceAllocation (some 2)), (5, .rootBridgeIo 1)] ∧
      InterfacesBacked rehookedMachine :=
  ⟨by decide, interfaces_never_dangle (reachableBy_rehookedMachine fun _ _ =>
    uninstallsInstalled_strict)⟩

/--
The pool blocks of the shim are those of the installed interfaces and those whose
installation failed: nothing else is ever lost.
-/
theorem blocks_accounted {m : Machine} (reached : ReachableBy Uninstalls m) :
    m.live.Perm (m.blocks ++ m.lostBlocks) :=
  (ledger_of_reachable reached).1.accounted

theorem blocks_accounted_rehooked :
    rehookedMachine.live.Perm (rehookedMachine.blocks ++ rehookedMachine.lostBlocks) :=
  blocks_accounted (reachableBy_rehookedMachine fun _ _ => uninstallsInstalled_strict)

end Thundermod.Shim
