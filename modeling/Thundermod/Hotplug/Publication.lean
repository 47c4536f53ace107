import Thundermod.Hotplug.Effects

/-!
# What callers of the hot-plug driver can rely on

The list that is handed out names a device path that stays in the pool, and the port on
it is the one that memory is reserved for.  Paddings are the only blocks that come and
go; the flags are the only bytes of the NVS area that change.
-/

namespace Thundermod.Hotplug

open Words Guidsub Shim

variable {platform : Platform} {firmware after : Firmware}

theorem ReachableBy.effects (reached : ReachableBy platform firmware) :
    Control.Reachable Effect .start firmware := by
  induction reached with
  | refl => exact .start _ _
  | tail _ last ih => exact ih.trans last.effects

/-! ## The blocks of the driver -/

/-- A block that the driver keeps for itself. -/
def PoolContents.isKept : PoolContents → Bool
  | .devicePath _ | .hotPlugInstance _ => true
  | .padding _ => false

/-- The pool without the paddings. -/
def Firmware.kept (firmware : Firmware) (address : Pointer) : Option PoolContents :=
  (firmware.pool address).filter PoolContents.isKept

/-- A pool with the device path in it. -/
def poolOfPath (path : Pointer) : Pointer → Option PoolContents :=
  Function.update (fun _ => none) path (some (.devicePath publishedPath))

/-- How far the driver has got, and the blocks that it keeps. -/
inductive DriverState (firmware : Firmware) : Prop
  | notLoaded (first : firmware.loaded = false) (hidden : firmware.hotPlugInit = none)
      (kept : firmware.kept = fun _ => none)
  | failed (loaded : firmware.loaded = true) (hidden : firmware.hotPlugInit = none)
      (kept : (firmware.kept = fun _ => none) ∨ ∃ path, firmware.kept = poolOfPath path ∨
        ∃ block, block ≠ path ∧ firmware.kept =
          Function.update (poolOfPath path) block (some (.hotPlugInstance initializedInstance)))
  | published {path block : Pointer} {handle : EfiHandle} (loaded : firmware.loaded = true)
      (found : firmware.hotPlugInit = some block) (located : firmware.mPcieLocation = ⟨path, path⟩)
      (apart : block ≠ path)
      (kept : firmware.kept = Function.update (poolOfPath path) block
        (some (.hotPlugInstance { initializedInstance with handle := some handle })))

theorem kept_place (address : Pointer) (contents : PoolContents) (isKept : contents.isKept)
    (firmware : Firmware) :
    (firmware.place address contents).kept =
      Function.update firmware.kept address (some contents) := by
  funext other
  by_cases same : other = address
  · subst same
    simp [Firmware.kept, Firmware.place, Option.filter, isKept]
  · simp [Firmware.kept, Firmware.place, Function.update_of_ne same]

/-- A padding in a block that was not live, or a padding that is freed, is none of them. -/
theorem kept_update {address : Pointer} {contents : Option PoolContents}
    (before : (firmware.pool address).filter PoolContents.isKept = none)
    (now : contents.filter PoolContents.isKept = none) :
    ({ firmware with pool := Function.update firmware.pool address contents } : Firmware).kept =
      firmware.kept := by
  funext other
  by_cases same : other = address
  · subst same
    simp [Firmware.kept, before, now]
  · simp [Firmware.kept, Function.update_of_ne same]

theorem kept_lend {answer : PaddingAnswer}
    (fresh : ∀ buffer, answer.allocated = some buffer → firmware.pool buffer.address = none) :
    (firmware.lend answer).kept = firmware.kept := by
  unfold Firmware.lend
  cases lent : answer.allocated with
  | none => rfl
  | some buffer =>
      refine kept_update ?_ rfl
      rw [fresh buffer lent]
      rfl

/-- What the driver has got to depends on its own data only. -/
theorem DriverState.congr (state : DriverState firmware) (loaded : after.loaded = firmware.loaded)
    (hotPlugInit : after.hotPlugInit = firmware.hotPlugInit)
    (mPcieLocation : after.mPcieLocation = firmware.mPcieLocation)
    (kept : after.kept = firmware.kept) : DriverState after := by
  cases state with
  | notLoaded first hidden nothing =>
      exact .notLoaded (loaded.trans first) (hotPlugInit.trans hidden) (kept.trans nothing)
  | failed done hidden left =>
      exact .failed (loaded.trans done) (hotPlugInit.trans hidden) (kept ▸ left)
  | published done found located apart blocks =>
      exact .published (loaded.trans done) (hotPlugInit.trans found) (mPcieLocation.trans located)
        apart (kept.trans blocks)

theorem kept_withPath {path : Pointer} (nothing : firmware.kept = fun _ => none) :
    (firmware.withPath path).kept = poolOfPath path := by
  have placed := kept_place path (.devicePath publishedPath) rfl { firmware with loaded := true }
  rw [show ({ firmware with loaded := true } : Firmware).kept = fun _ => none
    from nothing] at placed
  exact placed

theorem ne_path_of_fresh {path block : Pointer}
    (freshBlock : (firmware.withPath path).pool block = none) : block ≠ path := by
  rintro rfl
  simp [Firmware.withPath, Firmware.locate, Firmware.place] at freshBlock

theorem Loaded.driverState {status : EfiStatus} (outcome : Loaded firmware status after)
    (nothing : firmware.kept = fun _ => none) (hidden : firmware.hotPlugInit = none) :
    DriverState after := by
  cases outcome with
  | outOfMemory => exact .failed rfl hidden (Or.inl nothing)
  | pathOnly _ => exact .failed rfl hidden (Or.inr ⟨_, Or.inl (kept_withPath nothing)⟩)
  | refused _ freshBlock _ =>
      refine .failed rfl hidden (Or.inr ⟨_, Or.inr ⟨_, ne_path_of_fresh freshBlock, ?_⟩⟩)
      rw [kept_place _ _ rfl, kept_withPath nothing]
  | @published path block handle _ _ freshBlock _ =>
      have kept : (firmware.published path block handle).kept =
          Function.update (poolOfPath path) block
            (some (.hotPlugInstance { initializedInstance with handle := some handle })) :=
        (kept_place _ _ rfl _).trans (by rw [kept_withPath nothing])
      exact .published rfl rfl rfl (ne_path_of_fresh freshBlock) kept

theorem Loaded.globalNvsArea {status : EfiStatus} (outcome : Loaded firmware status after) :
    after.globalNvsArea = firmware.globalNvsArea := by
  cases outcome <;> rfl

theorem lend_log (answer : PaddingAnswer) (firmware : Firmware) :
    (firmware.lend answer).log = firmware.log := by
  unfold Firmware.lend
  cases answer.allocated <;> rfl

theorem lend_driver (answer : PaddingAnswer) (firmware : Firmware) :
    (firmware.lend answer).loaded = firmware.loaded ∧
      (firmware.lend answer).hotPlugInit = firmware.hotPlugInit ∧
      (firmware.lend answer).mPcieLocation = firmware.mPcieLocation := by
  unfold Firmware.lend
  cases answer.allocated <;> exact ⟨rfl, rfl, rfl⟩

theorem DriverState.effect (state : DriverState firmware) (effect : Effect firmware after) :
    DriverState after := by
  cases effect with
  | areaInstalled _ | flagged _ _ _ | signalled | initialized => exact state.congr rfl rfl rfl rfl
  | loaded first outcome =>
      cases state with
      | notLoaded _ hidden nothing => exact outcome.driverState nothing hidden
      | failed done _ _ | published done _ _ _ _ => rw [first] at done; cases done
  | @padded _ _ _ answer _ fresh =>
      obtain ⟨loaded, published, located⟩ := lend_driver answer firmware
      exact state.congr loaded published located (kept_lend fresh)
  | returned owned =>
      refine state.congr rfl rfl rfl (kept_update ?_ rfl)
      rw [owned]
      rfl

theorem ReachableBy.driverState (reached : ReachableBy platform firmware) :
    DriverState firmware :=
  reached.effects.invariant DriverState (.notLoaded rfl rfl rfl) fun _ _ state effect =>
    state.effect effect

/-! ## The list that is handed out -/

/-- The nodes of the device path in a block. -/
def Firmware.pathAt (firmware : Firmware) (path : Pointer) : Option (List Node) :=
  match firmware.pool path with
  | some (.devicePath bytes) => (readPath bytes).map Prod.fst
  | _ => none

/-- Every list names the global location, and a driver that is there to stay has handed it out. -/
def ListsSound (firmware : Firmware) : Prop :=
  ∀ count location, .listed count location ∈ firmware.log →
    count = 1 ∧ location = firmware.mPcieLocation ∧ firmware.hotPlugInit.isSome

/-- Every answer in the log was computed by `GetResourcePadding`. -/
def PaddingsSound (firmware : Firmware) : Prop :=
  ∀ hpcPciAddress answer, .padded hpcPciAddress answer ∈ firmware.log →
    ∃ pool contents, getResourcePadding pool hpcPciAddress contents = some answer

theorem Loaded.log {status : EfiStatus} (outcome : Loaded firmware status after) :
    after.log = firmware.log := by
  cases outcome <;> rfl

theorem lend_globalNvsArea (answer : PaddingAnswer) (firmware : Firmware) :
    (firmware.lend answer).globalNvsArea = firmware.globalNvsArea := by
  unfold Firmware.lend
  cases answer.allocated <;> rfl

/-- Another observation has been made before. -/
theorem mem_log_of_observe {observation other : Observation}
    (member : other ∈ (firmware.observe observation).log) (different : observation ≠ other) :
    other ∈ firmware.log :=
  (List.mem_cons.mp member).resolve_left different.symm

theorem ListsSound.observe {observation : Observation} (lists : ListsSound firmware)
    (other : ∀ count location, observation ≠ .listed count location) :
    ListsSound (firmware.observe observation) :=
  fun count location member =>
    lists count location (mem_log_of_observe member (other count location))

theorem ListsSound.effect (lists : ListsSound firmware) (state : DriverState firmware)
    (effect : Effect firmware after) : ListsSound after := by
  cases effect with
  | areaInstalled _ | signalled | initialized | returned _ =>
      exact ListsSound.observe lists fun _ _ => nofun
  | loaded first outcome =>
      -- Before the driver is loaded, nobody can have asked it for a list.
      intro count location member
      rw [outcome.log] at member
      obtain ⟨_, _, published⟩ := lists count location member
      cases state with
      | notLoaded _ hidden _ => rw [hidden] at published; cases published
      | failed done _ _ | published done _ _ _ _ => rw [first] at done; cases done
  | flagged _ _ seen =>
      cases seen with
      | patched => exact ListsSound.observe lists fun _ _ => nofun
      | listed published =>
          intro count location member
          rcases List.mem_cons.mp member with same | older
          · cases same
            exact ⟨rfl, rfl, published⟩
          · exact lists count location older
  | @padded _ _ _ answer _ _ =>
      obtain ⟨_, published, located⟩ := lend_driver answer firmware
      refine ListsSound.observe (fun count location member => ?_) fun _ _ => nofun
      rw [lend_log] at member
      rw [published, located]
      exact lists count location member

theorem PaddingsSound.observe {observation : Observation} (paddings : PaddingsSound firmware)
    (other : ∀ hpcPciAddress answer, observation ≠ .padded hpcPciAddress answer) :
    PaddingsSound (firmware.observe observation) :=
  fun hpcPciAddress answer member =>
    paddings hpcPciAddress answer (mem_log_of_observe member (other hpcPciAddress answer))

theorem PaddingsSound.effect (paddings : PaddingsSound firmware) (effect : Effect firmware after) :
    PaddingsSound after := by
  cases effect with
  | areaInstalled _ | signalled | initialized | returned _ =>
      exact PaddingsSound.observe paddings fun _ _ => nofun
  | loaded _ outcome =>
      intro hpcPciAddress answer member
      rw [outcome.log] at member
      exact paddings hpcPciAddress answer member
  | flagged _ _ seen =>
      cases seen <;> exact PaddingsSound.observe paddings fun _ _ => nofun
  | padded answered _ =>
      intro hpcPciAddress answer member
      rcases List.mem_cons.mp member with same | older
      · cases same
        exact ⟨_, _, answered⟩
      · rw [lend_log] at older
        exact paddings hpcPciAddress answer older

theorem ReachableBy.listsSound (reached : ReachableBy platform firmware) : ListsSound firmware := by
  have both : DriverState firmware ∧ ListsSound firmware := by
    refine reached.effects.invariant (fun firmware => DriverState firmware ∧ ListsSound firmware)
      ⟨.notLoaded rfl rfl rfl, fun _ _ => nofun⟩ ?_
    rintro _ _ ⟨state, lists⟩ effect
    exact ⟨state.effect effect, lists.effect state effect⟩
  exact both.2

theorem ReachableBy.paddingsSound (reached : ReachableBy platform firmware) :
    PaddingsSound firmware :=
  reached.effects.invariant PaddingsSound (fun _ _ => nofun) fun _ _ paddings effect =>
    paddings.effect effect

/-- Where the interface can be found, the path can be read. -/
theorem DriverState.pathAt (state : DriverState firmware) (found : firmware.hotPlugInit.isSome) :
    firmware.mPcieLocation.hpbDevicePath = firmware.mPcieLocation.hpcDevicePath ∧
      firmware.pathAt firmware.mPcieLocation.hpcDevicePath =
        some [acpi, pciNode rp.dev.toUInt8 rp.func.toUInt8] := by
  cases state with
  | notLoaded _ hidden _ | failed _ hidden _ => rw [hidden] at found; cases found
  | @published path block _ _ _ located apart kept =>
      have here : firmware.kept path = some (.devicePath publishedPath) := by
        rw [kept, Function.update_of_ne apart.symm, poolOfPath, Function.update_self]
      obtain ⟨live, _⟩ := Option.filter_eq_some_iff.mp here
      rw [located]
      refine ⟨rfl, ?_⟩
      simp only [Firmware.pathAt, live, publishedPath, readPath_hotPlugDevicePath, Option.map_some]

/-- For the listed controllers an answer is complete, whether or not there was memory for it. -/
theorem complete_of_listed {pool : Option PoolBlock} {hpcPciAddress : UInt64}
    {contents : PriorContents} {answer : PaddingAnswer}
    (answered : getResourcePadding pool hpcPciAddress contents = some answer)
    (listed : pciLocation hpcPciAddress ∈ [rp, hp1, hp2]) : answer.Complete := by
  cases pool with
  | none =>
      obtain rfl := Option.some.inj answered
      exact complete_of_outOfResources contents
  | some block =>
      obtain ⟨_, buffer, same, status, returns, attributes, hpcState⟩ :=
        getResourcePadding_some block hpcPciAddress contents
      obtain rfl := Option.some.inj (answered.symm.trans same)
      have padding : answer.out.padding.IsAssigned := by
        rw [returns.padding]
        trivial
      exact ⟨fun _ => ⟨⟨hpcState.mpr listed, padding, attributes⟩, buffer, returns⟩,
        fun failed => absurd status failed⟩

/--
However the calls are interleaved, a list that was handed out names the path of a root
port that is still in the pool, and whoever asks for the padding of that port on bus 0 is
told all about it and finds the room for it.
-/
theorem listed_port_is_padded (platform : Platform) (firmware : Firmware)
    (reached : ReachableBy platform firmware) (count : Nat) (location : EfiHpcLocation)
    (listed : .listed count location ∈ firmware.log) :
    count = 1 ∧ location.hpbDevicePath = location.hpcDevicePath ∧
      ∃ device function,
        firmware.pathAt location.hpcDevicePath = some [acpi, pciNode device function] ∧
          ∀ hpcPciAddress answer, .padded hpcPciAddress answer ∈ firmware.log →
            pciLocation hpcPciAddress = ⟨0, device.toUInt64, function.toUInt64⟩ →
              answer.Complete ∧ ∀ buffer, answer.allocated = some buffer →
                ∀ resourceType specificFlag,
                  requested (descriptorsOf buffer) resourceType specificFlag =
                    roomBehind rp resourceType specificFlag := by
  obtain ⟨one, rfl, published⟩ := reached.listsSound count location listed
  obtain ⟨same, path⟩ := reached.driverState.pathAt published
  refine ⟨one, same, rp.dev.toUInt8, rp.func.toUInt8, path, ?_⟩
  intro hpcPciAddress answer padded port
  obtain ⟨pool, contents, answered⟩ := reached.paddingsSound hpcPciAddress answer padded
  have root : pciLocation hpcPciAddress = rp := port
  refine ⟨complete_of_listed answered (root ▸ List.mem_cons_self), ?_⟩
  intro buffer lent resourceType specificFlag
  rw [descriptorsOf_answer answered lent, root, requested_branch]

/-- A platform with one block of each size. -/
def spacious : Platform where
  allocatePool := fun firmware size =>
    match free : firmware.pool size with
    | none => some ⟨size, List.replicate size 0xAF, free, List.length_replicate⟩
    | some _ => none
  installProtocolInterface := fun _ => (efiSuccess, 7)

/-- Where a call has led to. -/
def leftBy (result : Except Fault (EfiStatus × Firmware)) : Firmware :=
  match result with
  | .ok (_, after) => after
  | .error _ => .start

def firmwareWithArea : Firmware :=
  { Firmware.start with globalNvsArea := some (List.replicate 0x72 0) }.observe
    (.areaInstalled (List.replicate 0x72 0))

def firmwareWithDriver : Firmware :=
  leftBy (uefiMain spacious firmwareWithArea)

def firmwareWithList : Firmware :=
  leftBy (getRootHpcList firmwareWithDriver)

theorem firmwareWithArea_reached : ReachableBy spacious firmwareWithArea :=
  .single (.areaInstalled rfl)

theorem firmwareWithList_reached : ReachableBy spacious firmwareWithList := by
  have loads : uefiMain spacious firmwareWithArea = .ok (efiSuccess, firmwareWithDriver) := rfl
  have lists : getRootHpcList firmwareWithDriver = .ok (efiSuccess, firmwareWithList) := rfl
  exact (firmwareWithArea_reached.step (.loaded rfl loads)).step (.listed rfl lists)

/-- The padding of the port on the list is asked for. -/
def firmwareWithPadding : Firmware :=
  leftBy (answerPadding spacious 0x1C0400 ⟨0, 0, 0⟩ firmwareWithList)

theorem firmwareWithPadding_reached : ReachableBy spacious firmwareWithPadding := by
  obtain ⟨status, after, answers, _⟩ :=
    answerPadding_padded spacious 0x1C0400 ⟨0, 0, 0⟩ firmwareWithList
  have same : firmwareWithPadding = after := by rw [firmwareWithPadding, answers, leftBy]
  rw [same]
  exact firmwareWithList_reached.step (.padded rfl answers)

theorem firmwareWithPadding_eq :
    ∃ answer bytes, answer.allocated = some ⟨186, bytes⟩ ∧
      firmwareWithPadding = (firmwareWithList.place 186 (.padding bytes)).observe
        (.padded 0x1C0400 answer) := by
  let block : PoolBlock := ⟨⟨186, List.replicate 186 0xAF⟩, List.length_replicate⟩
  have given : (spacious.allocatePool firmwareWithList paddingSize).map (·.poolBlock) =
      some block := rfl
  obtain ⟨answer, ⟨address, bytes⟩, answered, _, returns, _⟩ :=
    getResourcePadding_some block 0x1C0400 ⟨0, 0, 0⟩
  have lent := returns.allocated
  obtain ⟨_, same, rfl⟩ := address_of_getResourcePadding answered lent
  obtain rfl := Option.some.inj same
  refine ⟨answer, bytes, lent, ?_⟩
  simp only [firmwareWithPadding, answerPadding, given, answered, lent, leftBy]
  rfl

/-- The list that is handed out on this platform, and the padding of its port. -/
theorem listed_port_is_padded_spacious :
    firmwareWithPadding.pathAt 22 = some [acpi, pciNode 0x1C 0x04] ∧
      ∃ answer buffer, .padded 0x1C0400 answer ∈ firmwareWithPadding.log ∧
        answer.Complete ∧ answer.allocated = some buffer ∧
          ∀ resourceType specificFlag, requested (descriptorsOf buffer) resourceType specificFlag =
            roomBehind rp resourceType specificFlag := by
  obtain ⟨answer, bytes, lent, left⟩ := firmwareWithPadding_eq
  have live : firmwareWithPadding.pool 22 = some (.devicePath (hotPlugDevicePath 0x1C 0x04)) := by
    rw [left]
    rfl
  have known : firmwareWithPadding.pathAt 22 = some [acpi, pciNode 0x1C 0x04] := by
    simp only [Firmware.pathAt, live, readPath_hotPlugDevicePath, Option.map_some]
  have asked : .padded 0x1C0400 answer ∈ firmwareWithPadding.log := by
    rw [left]
    exact List.mem_cons_self
  obtain ⟨_, _, device, function, path, padded⟩ := listed_port_is_padded spacious
    firmwareWithPadding firmwareWithPadding_reached 1 ⟨22, 22⟩
    (by rw [left]; exact List.mem_cons_of_mem _ List.mem_cons_self)
  have nodes := known.symm.trans path
  simp only [pciNode, Option.some.injEq, List.cons.injEq, Node.mk.injEq, and_true,
    true_and] at nodes
  obtain ⟨rfl, rfl⟩ := nodes
  obtain ⟨complete, room⟩ := padded 0x1C0400 answer asked rfl
  exact ⟨known, answer, _, asked, complete, lent, room _ lent⟩

/-! ## The pool -/

/-- The block that goes to a caller, if there is one. -/
def Observation.handedOut? : Observation → Option Pointer
  | .padded _ answer => answer.allocated.map (·.address)
  | _ => none

/-- The block that a caller frees, if it does. -/
def Observation.takenBack? : Observation → Option Pointer
  | .returned padding => some padding
  | _ => none

/-- A caller holds a padding in this block. -/
def Firmware.lends (firmware : Firmware) (address : Pointer) : Bool :=
  match firmware.pool address with
  | some (.padding _) => true
  | _ => false

/-- Every padding that was handed out has been taken back or is still live. -/
def PaddingsBalance (firmware : Firmware) : Prop :=
  ∀ address, (firmware.log.filterMap Observation.handedOut?).count address =
    (firmware.log.filterMap Observation.takenBack?).count address +
      (firmware.lends address).toNat

theorem lends_place {address : Pointer} {contents : PoolContents} (isKept : contents.isKept)
    (fresh : firmware.pool address = none) :
    (firmware.place address contents).lends = firmware.lends := by
  funext other
  by_cases same : other = address
  · subst same
    cases contents with
    | padding _ => cases isKept
    | devicePath _ | hotPlugInstance _ => simp [Firmware.lends, Firmware.place, fresh]
  · simp [Firmware.lends, Firmware.place, Function.update_of_ne same]

theorem Loaded.lends {status : EfiStatus} (outcome : Loaded firmware status after) :
    after.lends = firmware.lends := by
  have located : ∀ {path : Pointer}, firmware.pool path = none →
      (firmware.withPath path).lends = firmware.lends := fun freshPath => lends_place rfl freshPath
  cases outcome with
  | outOfMemory => rfl
  | pathOnly freshPath => exact located freshPath
  | refused freshPath freshBlock _ => exact (lends_place rfl freshBlock).trans (located freshPath)
  | published freshPath freshBlock _ => exact (lends_place rfl freshBlock).trans (located freshPath)

theorem PaddingsBalance.padded {answer : PaddingAnswer} (balance : PaddingsBalance firmware)
    (fresh : ∀ buffer, answer.allocated = some buffer → firmware.pool buffer.address = none)
    (hpcPciAddress : UInt64) :
    PaddingsBalance ((firmware.lend answer).observe (.padded hpcPciAddress answer)) := by
  intro address
  have before := balance address
  cases lent : answer.allocated with
  | none =>
      have idle : (Observation.padded hpcPciAddress answer).handedOut? = none := by
        rw [Observation.handedOut?, lent]
        rfl
      have same : firmware.lend answer = firmware := by
        rw [Firmware.lend, lent]
      rw [same, Firmware.observe, List.filterMap_cons_none idle,
        List.filterMap_cons_none (show Observation.takenBack? _ = none from rfl)]
      exact before
  | some buffer =>
      have handed : (Observation.padded hpcPciAddress answer).handedOut? =
          some buffer.address := by
        rw [Observation.handedOut?, lent]
        rfl
      have placed : firmware.lend answer =
          firmware.place buffer.address (.padding buffer.bytes) := by
        rw [Firmware.lend, lent]
      rw [placed, Firmware.observe, List.filterMap_cons_some handed,
        List.filterMap_cons_none (show Observation.takenBack? _ = none from rfl)]
      by_cases here : address = buffer.address
      · subst here
        have idle : firmware.lends buffer.address = false := by
          rw [Firmware.lends, fresh buffer lent]
        rw [idle] at before
        simpa [Firmware.lends, Firmware.place] using before
      · simpa [Firmware.lends, Firmware.place, here, List.count_cons_of_ne (Ne.symm here)]
          using before

theorem PaddingsBalance.returned {padding : Pointer} {bytes : List UInt8}
    (balance : PaddingsBalance firmware)
    (owned : firmware.pool padding = some (.padding bytes)) :
    PaddingsBalance
      ({ firmware with pool := Function.update firmware.pool padding none }.observe
        (.returned padding)) := by
  intro address
  have before := balance address
  rw [Firmware.observe,
    List.filterMap_cons_none (show Observation.handedOut? _ = none from rfl),
    List.filterMap_cons_some (show Observation.takenBack? (.returned padding) = _ from rfl)]
  by_cases here : address = padding
  · subst here
    have live : firmware.lends address = true := by
      rw [Firmware.lends, owned]
    rw [live] at before
    simpa [Firmware.lends] using before
  · simpa [Firmware.lends, here, List.count_cons_of_ne (Ne.symm here)] using before

theorem PaddingsBalance.effect (balance : PaddingsBalance firmware)
    (effect : Effect firmware after) : PaddingsBalance after := by
  cases effect with
  | areaInstalled _ | signalled | initialized => exact balance
  | flagged _ _ seen => cases seen <;> exact balance
  | loaded _ outcome =>
      intro address
      rw [outcome.log, outcome.lends]
      exact balance address
  | padded _ fresh => exact balance.padded fresh _
  | returned owned => exact balance.returned owned

/--
In every run, the driver keeps the device path and the instance once its interface is
installed, and at most these if it never is; every other block is a padding that was
handed out more often than it was freed.
-/
theorem pool_accounted (platform : Platform) (firmware : Firmware)
    (reached : ReachableBy platform firmware) :
    DriverState firmware ∧ ∀ address,
      (firmware.log.filterMap Observation.handedOut?).count address =
        (firmware.log.filterMap Observation.takenBack?).count address +
          (firmware.lends address).toNat := by
  refine ⟨reached.driverState, ?_⟩
  exact reached.effects.invariant PaddingsBalance (fun _ => rfl) fun _ _ balance effect =>
    balance.effect effect

/-- The padding is with its caller, and the block of the device path is not. -/
theorem pool_accounted_spacious :
    DriverState firmwareWithPadding ∧ firmwareWithPadding.lends 186 = true ∧
      firmwareWithPadding.lends 22 = false := by
  obtain ⟨state, balance⟩ :=
    pool_accounted spacious firmwareWithPadding firmwareWithPadding_reached
  obtain ⟨answer, bytes, lent, left⟩ := firmwareWithPadding_eq
  have handed : firmwareWithPadding.log.filterMap Observation.handedOut? = [186] := by
    rw [left, Firmware.observe, List.filterMap_cons_some
      (show Observation.handedOut? (.padded 0x1C0400 answer) = some 186 by
        rw [Observation.handedOut?, lent]; rfl)]
    rfl
  have taken : firmwareWithPadding.log.filterMap Observation.takenBack? = [] := by
    rw [left]
    rfl
  simp only [handed, taken, List.count_singleton, List.count_nil] at balance
  exact ⟨state, by simpa using (balance 186).symm, by simpa using (balance 22).symm⟩

/-! ## The NVS area -/

/-- The byte that goes with an observation. -/
def Observation.flag? : Observation → Option Nat
  | .listed _ _ => some hotPlugFlagOffset
  | .patched => some srldOffset
  | _ => none

/-- Some call of the run has switched the flag at an offset. -/
def Flagged (log : List Observation) (offset : Nat) : Prop :=
  offset ∈ log.filterMap Observation.flag?

/-- The area as it was installed, apart from the flags. -/
structure ShowsFlags (log : List Observation) (installed area : List UInt8) : Prop where
  length : area.length = installed.length
  switched : ∀ offset, Flagged log offset → area[offset]? = some 0x01
  untouched : ∀ offset, ¬ Flagged log offset → area[offset]? = installed[offset]?

/-- Before the area is installed there are no flags, and it is installed once. -/
def AreaSound (firmware : Firmware) : Prop :=
  match firmware.globalNvsArea with
  | none => ∀ observation ∈ firmware.log, observation.flag? = none ∧
      ∀ area, observation ≠ .areaInstalled area
  | some area => ∃ installed, (∀ other, .areaInstalled other ∈ firmware.log ↔ other = installed) ∧
      ShowsFlags firmware.log installed area

theorem AreaSound.observe {observation : Observation} (sound : AreaSound firmware)
    (idle : observation.flag? = none) (other : ∀ area, observation ≠ .areaInstalled area) :
    AreaSound (firmware.observe observation) := by
  unfold AreaSound at sound ⊢
  simp only [Firmware.observe]
  cases found : firmware.globalNvsArea with
  | none =>
      simp only [found] at sound ⊢
      exact List.forall_mem_cons.mpr ⟨⟨idle, other⟩, sound⟩
  | some area =>
      simp only [found] at sound ⊢
      obtain ⟨installed, once, shows⟩ := sound
      refine ⟨installed, fun area => ?_, ?_⟩
      · rw [List.mem_cons, ← once area]
        exact or_iff_right fun same => other area same.symm
      · have same : Flagged (observation :: firmware.log) = Flagged firmware.log := by
          funext offset
          rw [Flagged, List.filterMap_cons_none idle, Flagged]
        exact ⟨shows.length, same ▸ shows.switched, same ▸ shows.untouched⟩

theorem getElem?_flagged {area : List UInt8} {offset : Nat} (room : offset < area.length)
    (index : Nat) :
    (flagged offset area)[index]? = if index = offset then some 0x01 else area[index]? := by
  have inside : offset + [(0x01 : UInt8)].length ≤ area.length := room
  rw [flagged, getElem?_overwrite inside]
  by_cases here : index = offset
  · subst here
    rw [if_pos ⟨Nat.le_refl _, Nat.lt_succ_self _⟩, if_pos rfl, Nat.sub_self]
    rfl
  · rw [if_neg (by simp only [List.length_cons, List.length_nil]; omega), if_neg here]

/-- Switching one more flag. -/
theorem ShowsFlags.switch {log : List Observation} {installed area : List UInt8} {offset : Nat}
    {observation : Observation} (shows : ShowsFlags log installed area)
    (room : offset < area.length) (switches : observation.flag? = some offset) :
    ShowsFlags (observation :: log) installed (flagged offset area) := by
  have flags : ∀ index,
      Flagged (observation :: log) index ↔ index = offset ∨ Flagged log index := by
    intro index
    rw [Flagged, List.filterMap_cons_some switches, List.mem_cons]
    rfl
  constructor
  · have inside : offset + [(0x01 : UInt8)].length ≤ area.length := room
    exact (length_overwrite inside).trans shows.length
  · intro index isFlagged
    rw [getElem?_flagged room]
    by_cases here : index = offset
    · rw [if_pos here]
    · rw [if_neg here]
      exact shows.switched index (((flags index).mp isFlagged).resolve_left here)
  · intro index notFlagged
    rw [flags, not_or] at notFlagged
    rw [getElem?_flagged room, if_neg notFlagged.1]
    exact shows.untouched index notFlagged.2

theorem FlagObservation.flag {offset : Nat} {observation : Observation}
    (seen : FlagObservation firmware offset observation) :
    observation.flag? = some offset ∧ ∀ area, observation ≠ .areaInstalled area := by
  cases seen <;> exact ⟨rfl, fun _ => nofun⟩

theorem AreaSound.install {area : List UInt8} (sound : AreaSound firmware)
    (first : firmware.globalNvsArea = none) :
    AreaSound ({ firmware with globalNvsArea := some area }.observe (.areaInstalled area)) := by
  unfold AreaSound at sound
  rw [first] at sound
  refine ⟨area, fun other => ?_, rfl, fun offset isFlagged => ?_, fun _ _ => rfl⟩
  · rw [Firmware.observe, List.mem_cons, Observation.areaInstalled.injEq]
    exact or_iff_left fun older => (sound _ older).2 other rfl
  · obtain ⟨observation, member, switches⟩ := List.mem_filterMap.mp isFlagged
    rcases List.mem_cons.mp member with rfl | older
    · cases switches
    · rw [(sound _ older).1] at switches
      cases switches

theorem AreaSound.effect (sound : AreaSound firmware) (effect : Effect firmware after) :
    AreaSound after := by
  cases effect with
  | areaInstalled first => exact sound.install first
  | signalled | initialized | returned _ => exact AreaSound.observe sound rfl fun _ => nofun
  | loaded _ outcome =>
      unfold AreaSound
      rw [outcome.log, outcome.globalNvsArea]
      exact sound
  | flagged found room seen =>
      obtain ⟨switches, other⟩ := seen.flag
      unfold AreaSound at sound
      rw [found] at sound
      obtain ⟨installed, once, shows⟩ := sound
      refine ⟨installed, fun area => ?_, shows.switch room switches⟩
      rw [Firmware.observe, List.mem_cons, ← once area]
      exact or_iff_right fun same => other area same.symm
  | @padded _ _ _ answer _ _ =>
      have lent : AreaSound (firmware.lend answer) := by
        unfold AreaSound
        rw [lend_log, lend_globalNvsArea]
        exact sound
      exact lent.observe rfl fun _ => nofun

theorem ReachableBy.areaSound (reached : ReachableBy platform firmware) : AreaSound firmware :=
  reached.effects.invariant AreaSound (fun _ => nofun) fun _ _ sound effect => sound.effect effect

/--
Whatever the two drivers have been asked, the area is the one that was installed, with a
one at the offsets of the flags that were switched; the rest of it is untouched.
-/
theorem area_shows_flags (platform : Platform) (firmware : Firmware)
    (reached : ReachableBy platform firmware) (area : List UInt8)
    (found : firmware.globalNvsArea = some area) :
    ∃ installed, .areaInstalled installed ∈ firmware.log ∧
      ShowsFlags firmware.log installed area := by
  have sound := reached.areaSound
  unfold AreaSound at sound
  rw [found] at sound
  obtain ⟨installed, once, shows⟩ := sound
  exact ⟨installed, (once installed).mpr rfl, shows⟩

theorem area_shows_flags_spacious :
    ∃ installed, .areaInstalled installed ∈ firmwareWithList.log ∧
      ShowsFlags firmwareWithList.log installed (flagged 0x71 (List.replicate 0x72 0)) :=
  area_shows_flags spacious firmwareWithList firmwareWithList_reached _ rfl

/-- A flag can be switched exactly if an area that is large enough was installed before. -/
theorem setNvsFlag_ok_iff (reached : ReachableBy platform firmware) (offset : Nat) :
    (∃ after, setNvsFlag offset firmware = .ok after) ↔
      ∃ installed, .areaInstalled installed ∈ firmware.log ∧ offset < installed.length := by
  have sound := reached.areaSound
  unfold AreaSound at sound
  cases found : firmware.globalNvsArea with
  | none =>
      rw [found] at sound
      refine iff_of_false ?_ ?_
      · rintro ⟨after, runs⟩
        obtain ⟨_, same, _⟩ := setNvsFlag_ok runs
        rw [found] at same
        cases same
      · rintro ⟨installed, member, _⟩
        exact (sound _ member).2 installed rfl
  | some area =>
      rw [found] at sound
      obtain ⟨installed, once, shows⟩ := sound
      constructor
      · rintro ⟨after, runs⟩
        obtain ⟨_, same, room, _⟩ := setNvsFlag_ok runs
        rw [found] at same
        cases same
        exact ⟨installed, (once installed).mpr rfl, shows.length ▸ room⟩
      · rintro ⟨other, member, room⟩
        rw [(once other).mp member, ← shows.length] at room
        exact ⟨_, setNvsFlag_of_room found room⟩

/--
The patcher and `GetRootHpcList` get through exactly if an area that reaches up to their
flag was installed before; nothing makes the callers of `GetRootHpcList` wait for one.
No other call runs into a fault.
-/
theorem calls_get_through_iff (platform : Platform) (firmware : Firmware)
    (reached : ReachableBy platform firmware) :
    ((∃ result, patchNvs firmware = .ok result) ↔
        ∃ installed, .areaInstalled installed ∈ firmware.log ∧ srldOffset < installed.length) ∧
      ((∃ result, getRootHpcList firmware = .ok result) ↔
        ∃ installed, .areaInstalled installed ∈ firmware.log ∧
          hotPlugFlagOffset < installed.length) ∧
      (∃ result, uefiMain platform firmware = .ok result) ∧
      ∀ hpcPciAddress contents,
        ∃ result, answerPadding platform hpcPciAddress contents firmware = .ok result := by
  refine ⟨?_, ?_, ?_, fun hpcPciAddress contents => ?_⟩
  · rw [← setNvsFlag_ok_iff reached, patchNvs]
    cases setNvsFlag srldOffset firmware <;> simp
  · rw [← setNvsFlag_ok_iff reached, getRootHpcList]
    cases setNvsFlag hotPlugFlagOffset firmware <;> simp
  · obtain ⟨_, _, runs, _⟩ := uefiMain_loaded platform firmware
    exact ⟨_, runs⟩
  · obtain ⟨_, _, runs, _⟩ := answerPadding_padded platform hpcPciAddress contents firmware
    exact ⟨_, runs⟩

/-- Here the area ends right behind the flag of `GetRootHpcList`. -/
theorem calls_get_through_spacious :
    (∃ result, getRootHpcList firmwareWithList = .ok result) ∧
      ¬ ∃ result, patchNvs firmwareWithList = .ok result := by
  obtain ⟨patches, lists, _⟩ :=
    calls_get_through_iff spacious firmwareWithList firmwareWithList_reached
  have member : Observation.areaInstalled (List.replicate 0x72 0) ∈ firmwareWithList.log :=
    List.mem_cons_of_mem _ List.mem_cons_self
  refine ⟨lists.mpr ⟨_, member, by simp [hotPlugFlagOffset]⟩, ?_⟩
  rw [patches]
  rintro ⟨installed, other, room⟩
  rcases List.mem_cons.mp other with same | older
  · cases same
  · rcases List.mem_cons.mp older with same | none
    · cases same
      simp [srldOffset] at room
    · cases none

end Thundermod.Hotplug
