import Thundermod.Hotplug.Driver

/-!
# What the drivers can do

Every step of a run comes down to a few effects: a load with its four outcomes, a flag
that is set in the NVS area, a padding that is lent to a caller, and what happens
outside of the drivers.
-/

namespace Thundermod.Hotplug

open Words Guidsub Shim

variable {platform : Platform} {firmware after : Firmware} {status : EfiStatus}

/-! ## Loading the hot-plug driver -/

/-- The device path that is published. -/
def publishedPath : List UInt8 :=
  hotPlugDevicePath rp.dev.toUInt8 rp.func.toUInt8

/-- The driver is loaded, and its device path is in the pool. -/
def Firmware.withPath (path : Pointer) (firmware : Firmware) : Firmware :=
  { firmware with loaded := true }.locate path publishedPath

/-- The instance with a handle, and its protocol installed there. -/
def Firmware.published (path block : Pointer) (handle : EfiHandle) (firmware : Firmware) :
    Firmware :=
  { (firmware.withPath path).place block
      (.hotPlugInstance { initializedInstance with handle := some handle }) with
    hotPlugInit := some block }

/--
The four outcomes of a load: neither block, one block, both blocks but no interface, and
success.
-/
inductive Loaded (firmware : Firmware) : EfiStatus → Firmware → Prop
  | outOfMemory : Loaded firmware efiOutOfResources { firmware with loaded := true }
  | pathOnly {path : Pointer} (freshPath : firmware.pool path = none) :
      Loaded firmware efiOutOfResources (firmware.withPath path)
  | refused {path block : Pointer} {status : EfiStatus} (freshPath : firmware.pool path = none)
      (freshBlock : (firmware.withPath path).pool block = none) (failed : efiError status = true) :
      Loaded firmware status
        ((firmware.withPath path).place block (.hotPlugInstance initializedInstance))
  | published {path block : Pointer} {handle : EfiHandle} {status : EfiStatus}
      (freshPath : firmware.pool path = none)
      (freshBlock : (firmware.withPath path).pool block = none)
      (succeeded : efiError status = false) :
      Loaded firmware status (firmware.published path block handle)

theorem place_place (address : Pointer) (first second : PoolContents) (firmware : Firmware) :
    (firmware.place address first).place address second = firmware.place address second := by
  simp only [Firmware.place, Function.update_idem]

theorem installHotPlugInit_loaded (platform : Platform) {path block : Pointer}
    (freshPath : firmware.pool path = none)
    (freshBlock : (firmware.withPath path).pool block = none) :
    Loaded firmware (installHotPlugInit platform block (firmware.withPath path)).1
      (installHotPlugInit platform block (firmware.withPath path)).2 := by
  by_cases failed : efiError (platform.installProtocolInterface
      ((firmware.withPath path).place block (.hotPlugInstance initializedInstance))).1 = true
  · simp only [installHotPlugInit, if_pos failed]
    exact .refused freshPath freshBlock failed
  · simp only [installHotPlugInit, if_neg failed, place_place]
    exact .published freshPath freshBlock (eq_false_of_ne_true failed)

theorem publishHotPlugInit_loaded (platform : Platform) {path : Pointer}
    (freshPath : firmware.pool path = none) :
    Loaded firmware (publishHotPlugInit platform (firmware.withPath path)).1
      (publishHotPlugInit platform (firmware.withPath path)).2 := by
  cases allocated : platform.allocatePool (firmware.withPath path) sizeofHotPlugInstance with
  | none =>
      simp only [publishHotPlugInit, allocated]
      exact .pathOnly freshPath
  | some block =>
      simp only [publishHotPlugInit, allocated]
      exact installHotPlugInit_loaded platform freshPath block.fresh

/-- A load always comes to an end, with one of the outcomes. -/
theorem uefiMain_loaded (platform : Platform) (firmware : Firmware) :
    ∃ status after, uefiMain platform firmware = .ok (status, after) ∧
      Loaded firmware status after := by
  cases allocated : platform.allocatePool { firmware with loaded := true }
      sizeofHotPlugDevicePath with
  | none =>
      simp only [uefiMain, allocated]
      exact ⟨_, _, rfl, .outOfMemory⟩
  | some block =>
      simp only [uefiMain, allocated, storeAll_devicePath block.length_bytes]
      exact ⟨_, _, rfl, publishHotPlugInit_loaded platform block.fresh⟩

/-! ## Flags in the NVS area -/

/-- The area with the flag at an offset. -/
def flagged (offset : Nat) (area : List UInt8) : List UInt8 :=
  overwrite area offset [0x01]

theorem setNvsFlag_of_room {offset : Nat} {area : List UInt8}
    (found : firmware.globalNvsArea = some area) (room : offset < area.length) :
    setNvsFlag offset firmware =
      .ok { firmware with globalNvsArea := some (flagged offset area) } := by
  have stored : storeAt area offset [0x01] = some (flagged offset area) := storeAt_of_room room
  simp only [setNvsFlag, found, stored]

/-- A flag is set exactly if the area has been found and reaches that far. -/
theorem setNvsFlag_ok {offset : Nat} (runs : setNvsFlag offset firmware = .ok after) :
    ∃ area, firmware.globalNvsArea = some area ∧ offset < area.length ∧
      after = { firmware with globalNvsArea := some (flagged offset area) } := by
  cases found : firmware.globalNvsArea with
  | none =>
      rw [setNvsFlag, found] at runs
      cases runs
  | some area =>
      by_cases room : offset < area.length
      · rw [setNvsFlag_of_room found room] at runs
        exact ⟨area, rfl, room, (Except.ok.inj runs).symm⟩
      · have short : ¬ offset + [(0x01 : UInt8)].length ≤ area.length := room
        simp only [setNvsFlag, found, storeAt, if_neg short] at runs
        cases runs

/-! ## Steps -/

/-- The block of an answer goes to the caller. -/
def Firmware.lend (answer : PaddingAnswer) (firmware : Firmware) : Firmware :=
  match answer.allocated with
  | none => firmware
  | some buffer => firmware.place buffer.address (.padding buffer.bytes)

/-- The observations that go with a flag: a list that is handed out, or a patch. -/
inductive FlagObservation (firmware : Firmware) : Nat → Observation → Prop
  | listed (published : firmware.hotPlugInit.isSome) :
      FlagObservation firmware hotPlugFlagOffset (.listed hpcCount firmware.mPcieLocation)
  | patched : FlagObservation firmware srldOffset .patched

/-- What a step does. -/
inductive Effect (firmware : Firmware) : Firmware → Prop
  | areaInstalled {area : List UInt8} (first : firmware.globalNvsArea = none) :
      Effect firmware
        ({ firmware with globalNvsArea := some area }.observe (.areaInstalled area))
  | loaded {after : Firmware} {status : EfiStatus} (first : firmware.loaded = false)
      (outcome : Loaded firmware status after) : Effect firmware after
  | flagged {area : List UInt8} {offset : Nat} {observation : Observation}
      (found : firmware.globalNvsArea = some area) (room : offset < area.length)
      (seen : FlagObservation firmware offset observation) :
      Effect firmware
        ({ firmware with globalNvsArea := some (flagged offset area) }.observe observation)
  | signalled {event : EfiEvent} : Effect firmware (firmware.observe (.signalled event))
  | initialized {hpcState : UInt16} : Effect firmware (firmware.observe (.initialized hpcState))
  | padded {pool : Option PoolBlock} {hpcPciAddress : UInt64} {contents : PriorContents}
      {answer : PaddingAnswer}
      (answered : getResourcePadding pool hpcPciAddress contents = some answer)
      (fresh : ∀ buffer, answer.allocated = some buffer → firmware.pool buffer.address = none) :
      Effect firmware ((firmware.lend answer).observe (.padded hpcPciAddress answer))
  | returned {padding : Pointer} {bytes : List UInt8}
      (owned : firmware.pool padding = some (.padding bytes)) :
      Effect firmware
        ({ firmware with pool := Function.update firmware.pool padding none }.observe
          (.returned padding))

/-- The block of an answer is the one that was allocated for it. -/
theorem address_of_getResourcePadding {pool : Option PoolBlock} {hpcPciAddress : UInt64}
    {contents : PriorContents} {answer : PaddingAnswer} {buffer : Buffer}
    (answered : getResourcePadding pool hpcPciAddress contents = some answer)
    (lent : answer.allocated = some buffer) :
    ∃ block, pool = some block ∧ block.address = buffer.address := by
  cases pool with
  | none =>
      obtain rfl := Option.some.inj answered
      cases lent
  | some block =>
      simp only [getResourcePadding] at answered
      obtain ⟨bytes, _, rfl⟩ := Option.map_eq_some_iff.mp answered
      obtain rfl := Option.some.inj lent
      exact ⟨block, rfl, rfl⟩

theorem getResourcePadding_isSome (pool : Option PoolBlock) (hpcPciAddress : UInt64)
    (contents : PriorContents) :
    ∃ answer, getResourcePadding pool hpcPciAddress contents = some answer := by
  cases pool with
  | none => exact ⟨_, rfl⟩
  | some block =>
      obtain ⟨answer, _, answered, _⟩ := getResourcePadding_some block hpcPciAddress contents
      exact ⟨answer, answered⟩

/-- An answer is always given, in a block that was not live before. -/
theorem answerPadding_padded (platform : Platform) (hpcPciAddress : UInt64)
    (contents : PriorContents) (firmware : Firmware) :
    ∃ status after, answerPadding platform hpcPciAddress contents firmware = .ok (status, after) ∧
      Effect firmware after := by
  obtain ⟨answer, answered⟩ := getResourcePadding_isSome
    ((platform.allocatePool firmware paddingSize).map (·.poolBlock)) hpcPciAddress contents
  refine ⟨answer.status, (firmware.lend answer).observe (.padded hpcPciAddress answer), ?_,
    .padded answered fun buffer lent => ?_⟩
  · rw [answerPadding, answered]
    rfl
  · obtain ⟨_, allocated, same⟩ := address_of_getResourcePadding answered lent
    obtain ⟨block, _, rfl⟩ := Option.map_eq_some_iff.mp allocated
    rw [← same]
    exact block.fresh

theorem Step.effects (step : Step platform firmware after) :
    Control.Reachable Effect firmware after := by
  cases step with
  | areaInstalled first => exact .single (.areaInstalled first)
  | loaded first runs =>
      obtain ⟨_, _, same, outcome⟩ := uefiMain_loaded platform firmware
      obtain ⟨rfl, rfl⟩ := Prod.mk.inj (Except.ok.inj (same.symm.trans runs))
      exact .single (.loaded first outcome)
  | patched _ runs =>
      unfold patchNvs at runs
      split at runs
      · cases runs
      · next set =>
          obtain ⟨_, rfl⟩ := Prod.mk.inj (Except.ok.inj runs)
          obtain ⟨area, found, room, rfl⟩ := setNvsFlag_ok set
          exact .single (.flagged found room .patched)
  | listed published runs =>
      unfold getRootHpcList at runs
      split at runs
      · cases runs
      · next set =>
          obtain ⟨_, rfl⟩ := Prod.mk.inj (Except.ok.inj runs)
          obtain ⟨area, found, room, rfl⟩ := setNvsFlag_ok set
          exact .single (.flagged found room (.listed published))
  | @initialized event _ =>
      cases event with
      | none => exact .single .initialized
      | some event => exact (Control.Reachable.single .signalled).step .initialized
  | padded _ runs =>
      obtain ⟨_, _, same, effect⟩ := answerPadding_padded platform _ _ firmware
      obtain ⟨rfl, rfl⟩ := Prod.mk.inj (Except.ok.inj (same.symm.trans runs))
      exact .single effect
  | returned owned => exact .single (.returned owned)

end Thundermod.Hotplug
