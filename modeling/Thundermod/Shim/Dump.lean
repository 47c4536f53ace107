import Mathlib.Algebra.Ring.Nat
import Thundermod.Shim.Primitives

/-!
# The register dump

What `DumpInstalledDevices` reads and prints, and what becomes of the handle buffer.  All
of this is left out of the model of `Start`, which it does not influence.  The printed
text shows the registers without loss as long as every read succeeds.
-/

namespace Thundermod.Shim

open Control

/-! ## What is printed -/

/-- The location of a device, as `GetLocation` returns it. -/
structure Location where
  segmentNumber : Nat
  busNumber : Nat
  deviceNumber : Nat
  functionNumber : Nat

/-- A line of the dump with the values it shows. -/
inductive Line
  | device (location : Location)
  | ids (vendorId deviceId : BitVec 32)
  | classCode (code revision : BitVec 32)
  | header (bist headerType latencyTimer cacheLineSize : BitVec 32)
  | bar (index : Nat) (value : BitVec 32)
  | cisPointer (value : BitVec 32)
  | subsystem (id vendorId : BitVec 32)
  | romBar (value : BitVec 32)
  | capability (reserved pointer : BitVec 32)
  | reserved (value : BitVec 32)
  | interrupt (maxLatency minimumGrant pin line : BitVec 32)

/-- The registers that are read, each with the line that is printed for its value. -/
def registerLines : List (Nat × (BitVec 32 → Line)) :=
  [(0x00, fun register => .ids (register &&& 0xFFFF) ((register >>> 16) &&& 0xFFFF)),
    (0x08, fun register => .classCode ((register >>> 8) &&& 0xFFFFFF) (register &&& 0xFF)),
    (0x0C, fun register => .header ((register >>> 24) &&& 0xFF) ((register >>> 16) &&& 0xFF)
      ((register >>> 8) &&& 0xFF) (register &&& 0xFF)),
    (0x10, .bar 0), (0x14, .bar 1), (0x18, .bar 2), (0x1C, .bar 3), (0x20, .bar 4),
    (0x24, .bar 5), (0x28, .cisPointer),
    (0x2C, fun register => .subsystem ((register >>> 16) &&& 0xFFFF) (register &&& 0xFFFF)),
    (0x30, .romBar),
    (0x34, fun register => .capability ((register >>> 8) &&& 0xFFFFFF) (register &&& 0xFF)),
    (0x38, .reserved),
    (0x3C, fun register => .interrupt ((register >>> 24) &&& 0xFF) ((register >>> 16) &&& 0xFF)
      ((register >>> 8) &&& 0xFF) (register &&& 0xFF))]

/-- The offset and the value of the register that a line shows. -/
def Line.register : Line → Option (Nat × Nat)
  | .device _ => none
  | .ids vendorId deviceId => some (0x00, deviceId.toNat * 2 ^ 16 + vendorId.toNat)
  | .classCode code revision => some (0x08, code.toNat * 2 ^ 8 + revision.toNat)
  | .header bist headerType latencyTimer cacheLineSize =>
      some (0x0C, bist.toNat * 2 ^ 24 + headerType.toNat * 2 ^ 16 + latencyTimer.toNat * 2 ^ 8 +
        cacheLineSize.toNat)
  | .bar index value => some (0x10 + 4 * index, value.toNat)
  | .cisPointer value => some (0x28, value.toNat)
  | .subsystem id vendorId => some (0x2C, id.toNat * 2 ^ 16 + vendorId.toNat)
  | .romBar value => some (0x30, value.toNat)
  | .capability upper pointer => some (0x34, upper.toNat * 2 ^ 8 + pointer.toNat)
  | .reserved value => some (0x38, value.toNat)
  | .interrupt maxLatency minimumGrant pin line =>
      some (0x3C, maxLatency.toNat * 2 ^ 24 + minimumGrant.toNat * 2 ^ 16 + pin.toNat * 2 ^ 8 +
        line.toNat)

section Fields

variable (register : BitVec 32)

/-- A mask of low bits leaves a remainder. -/
theorem toNat_and_low {mask : BitVec 32} {bits : Nat} (low : mask.toNat = 2 ^ bits - 1) :
    (register &&& mask).toNat = register.toNat % 2 ^ bits := by
  rw [BitVec.toNat_and, low, Nat.and_two_pow_sub_one_eq_mod]

/-- Every line shows the whole value of its register. -/
theorem register_line {offset : Nat} {line : BitVec 32 → Line}
    (member : (offset, line) ∈ registerLines) :
    (line register).register = some (offset, register.toNat) := by
  have bound := register.isLt
  have low8 (value : BitVec 32) : (value &&& 0xFF).toNat = value.toNat % 2 ^ 8 :=
    toNat_and_low value rfl
  have low16 (value : BitVec 32) : (value &&& 0xFFFF).toNat = value.toNat % 2 ^ 16 :=
    toNat_and_low value rfl
  have low24 (value : BitVec 32) : (value &&& 0xFFFFFF).toNat = value.toNat % 2 ^ 24 :=
    toNat_and_low value rfl
  simp only [registerLines, List.mem_cons, Prod.mk.injEq, List.not_mem_nil, or_false] at member
  rcases member with ⟨rfl, rfl⟩ | ⟨rfl, rfl⟩ | ⟨rfl, rfl⟩ | ⟨rfl, rfl⟩ | ⟨rfl, rfl⟩ | ⟨rfl, rfl⟩ |
    ⟨rfl, rfl⟩ | ⟨rfl, rfl⟩ | ⟨rfl, rfl⟩ | ⟨rfl, rfl⟩ | ⟨rfl, rfl⟩ | ⟨rfl, rfl⟩ | ⟨rfl, rfl⟩ |
    ⟨rfl, rfl⟩ | ⟨rfl, rfl⟩
  all_goals
    simp only [Line.register, low8, low16, low24, BitVec.toNat_ushiftRight,
      Nat.shiftRight_eq_div_pow, Option.some.injEq, Prod.mk.injEq, true_and]
    try omega

end Fields

/-! ## The dump -/

/-- A read of the configuration space, which may fail. -/
structure ConfigRead where
  device : EfiHandle
  offset : Nat
  value : Option (BitVec 32)

/-- What the PCI I/O protocols of the devices answer. -/
structure PciDevices where
  location : Machine → EfiHandle → Location
  pciRead : Machine → EfiHandle → Nat → Option (BitVec 32)

/-- What a dump has returned, printed and read, and the handle buffer if it is still allocated. -/
structure Dump extends Returned where
  console : List Line
  reads : List ConfigRead
  handleBuffer : Option (List EfiHandle)

/-- Read one register and print it.  A read that fails leaves the local variable as it was. -/
def printRegister (devices : PciDevices) (device : EfiHandle) (state : Dump × BitVec 32)
    (line : Nat × (BitVec 32 → Line)) : Dump × BitVec 32 :=
  let value := devices.pciRead state.1.machine device line.1
  let register := value.getD state.2
  ({ state.1 with
      console := state.1.console ++ [line.2 register]
      reads := state.1.reads ++ [⟨device, line.1, value⟩] }, register)

/-- Print the location and the registers of an opened device. -/
def printRegisters (devices : PciDevices) (indeterminate : BitVec 32) (device : EfiHandle)
    (state : Dump) : Dump :=
  let located :=
    { state with console := state.console ++ [.device (devices.location state.machine device)] }
  (registerLines.foldl (printRegister devices device) (located, indeterminate)).1

/-- One pass of the loop of `printInstalledDevices`. -/
def printDevice (platform : Platform) (devices : PciDevices) (indeterminate : BitVec 32)
    (bindingProtocol : DriverBinding) (controller device : EfiHandle) (state : Dump) :
    Outcome Fault Dump Dump :=
  let key : OpenKey :=
    ⟨some device, .pciIo, bindingProtocol.driverBindingHandle, some controller⟩
  let opened := state.machine.openProtocol platform ⟨key, .getProtocol⟩
  if efiError opened.status then .leave { state with toReturned := opened }
  else
    let location := platform.locationStatus opened.machine device
    if efiError location then
      .leave { state with toReturned := { opened with status := location } }
    else
      let printed := printRegisters devices indeterminate device { state with toReturned := opened }
      let closed := printed.machine.closeProtocol platform key
      if efiError closed.status then .leave { printed with toReturned := closed }
      else .next { printed with toReturned := closed }

/-- `DumpInstalledDevices` with its output, its reads and its handle buffer. -/
def printInstalledDevices (platform : Platform) (devices : PciDevices)
    (indeterminate : BitVec 32) (bindingProtocol : DriverBinding) (controller : EfiHandle)
    (m : Machine) : Except Fault Dump :=
  let handles := platform.locateHandleBuffer m
  let located := m.record (.enumerated handles.1)
  if efiError handles.1 then .ok ⟨⟨handles.1, located⟩, [], [], none⟩
  else
    match forEach (printDevice platform devices indeterminate bindingProtocol controller) handles.2
        ⟨⟨handles.1, located⟩, [], [], some handles.2⟩ with
    | .fault fault => .error fault
    | .next state => .ok { state with status := efiSuccess, handleBuffer := none }
    | .leave result => .ok result

section Dump

variable {platform : Platform} {devices : PciDevices} {indeterminate : BitVec 32}
  {bindingProtocol : DriverBinding} {controller device : EfiHandle} {m : Machine}

theorem toReturned_printRegisters (state : Dump) :
    (printRegisters devices indeterminate device state).toReturned = state.toReturned := by
  have same (lines : List (Nat × (BitVec 32 → Line))) : ∀ start : Dump × BitVec 32,
      (lines.foldl (printRegister devices device) start).1.toReturned = start.1.toReturned := by
    induction lines with
    | nil => exact fun _ => rfl
    | cons line rest ih => exact fun start => ih (printRegister devices device start line)
  exact same registerLines _

theorem map_printDevice (state : Dump) :
    (printDevice platform devices indeterminate bindingProtocol controller device state).map
        Dump.toReturned Dump.toReturned =
      dumpDevice platform bindingProtocol controller device state.toReturned := by
  have machine (opened : Returned) : (printRegisters devices indeterminate device
      { state with toReturned := opened }).machine = opened.machine :=
    congrArg Returned.machine (toReturned_printRegisters _)
  unfold printDevice dumpDevice
  dsimp only
  rw [machine]
  split
  · rfl
  · split
    · rfl
    · split <;> rfl

/--
What the dump prints and reads has no influence on the shim: without it, the dump is the
one that `Start` makes in the model.
-/
theorem printInstalledDevices_refines (platform : Platform) (devices : PciDevices)
    (indeterminate : BitVec 32) (bindingProtocol : DriverBinding) (controller : EfiHandle)
    (m : Machine) :
    (printInstalledDevices platform devices indeterminate bindingProtocol controller m).map
        Dump.toReturned =
      dumpInstalledDevices platform bindingProtocol controller m := by
  unfold printInstalledDevices dumpInstalledDevices
  dsimp only
  split
  · rfl
  · have pass (device : EfiHandle) (state : Dump) :
        (printDevice platform devices indeterminate bindingProtocol controller device state).map
          Dump.toReturned Dump.toReturned =
        dumpDevice platform bindingProtocol controller device state.toReturned :=
      map_printDevice state
    have loop := forEach_map pass (platform.locateHandleBuffer m).2
      ⟨⟨(platform.locateHandleBuffer m).1,
          m.record (.enumerated (platform.locateHandleBuffer m).1)⟩,
        [], [], some (platform.locateHandleBuffer m).2⟩
    rw [← loop]
    split
    · next outcome => rw [outcome]; rfl
    · next outcome => rw [outcome]; rfl
    · next outcome => rw [outcome]; rfl

end Dump

/-! ## What the text says about the reads -/

/-- The register and the value of a read that succeeded. -/
def ConfigRead.register (read : ConfigRead) : Option (Nat × Nat) :=
  read.value.map fun value => (read.offset, value.toNat)

/-- A cooperative platform with a device on which every register reads the same. -/
def platformWithDevice : Platform :=
  { cooperative with locateHandleBuffer := fun _ => (efiSuccess, [20]) }

def constantDevices : PciDevices where
  location := fun _ _ => ⟨0, 3, 0, 0⟩
  pciRead := fun _ _ _ => some 0x12345678

/-- The dump of this device. -/
def deviceDump : Dump :=
  match printInstalledDevices platformWithDevice constantDevices 0 shimBinding 5 startedMachine with
  | .ok dump => dump
  | .error _ => ⟨⟨0, startedMachine⟩, [], [], none⟩

theorem printInstalledDevices_deviceDump :
    printInstalledDevices platformWithDevice constantDevices 0 shimBinding 5 startedMachine =
      .ok deviceDump := rfl

/-- As long as no read has failed, the printed registers are those that were read. -/
def Dump.Shows (dump : Dump) : Prop :=
  (∀ read ∈ dump.reads, read.value ≠ none) →
    dump.console.filterMap Line.register = dump.reads.filterMap ConfigRead.register

/-- What is returned plays no part in it. -/
theorem Dump.Shows.returning {dump : Dump} (shows : dump.Shows) (returned : Returned) :
    Dump.Shows { dump with toReturned := returned } :=
  shows

section Shows

variable {platform : Platform} {devices : PciDevices} {indeterminate : BitVec 32}
  {bindingProtocol : DriverBinding} {controller device : EfiHandle} {m : Machine}

theorem shows_printRegister {state : Dump × BitVec 32} {line : Nat × (BitVec 32 → Line)}
    (member : line ∈ registerLines) (shows : state.1.Shows) :
    (printRegister devices device state line).1.Shows := by
  intro succeeded
  simp only [printRegister, List.forall_mem_append, List.forall_mem_singleton] at succeeded
  obtain ⟨earlier, last⟩ := succeeded
  obtain ⟨value, found⟩ := Option.ne_none_iff_exists'.mp last
  have shown : (line.2 value).register = some (line.1, value.toNat) := register_line value member
  simp only [printRegister, found, Option.getD_some, List.filterMap_append, shows earlier]
  simp only [List.filterMap_cons, List.filterMap_nil, shown, ConfigRead.register, Option.map_some]

theorem shows_printRegisters {state : Dump} (shows : state.Shows) :
    (printRegisters devices indeterminate device state).Shows := by
  have all (lines : List (Nat × (BitVec 32 → Line))) : (∀ line ∈ lines, line ∈ registerLines) →
      ∀ start : Dump × BitVec 32, start.1.Shows →
        (lines.foldl (printRegister devices device) start).1.Shows := by
    induction lines with
    | nil => exact fun _ _ holds => holds
    | cons line rest ih =>
        intro members start holds
        exact ih (fun other member => members other (List.mem_cons_of_mem _ member)) _
          (shows_printRegister (members line List.mem_cons_self) holds)
  refine all registerLines (fun _ member => member) _ ?_
  intro succeeded
  refine (List.filterMap_append ..).trans ?_
  rw [shows succeeded, List.filterMap_cons_none rfl, List.filterMap_nil, List.append_nil]

theorem shows_printDevice {state : Dump} (shows : state.Shows) :
    (printDevice platform devices indeterminate bindingProtocol controller device state).Ensures
      Dump.Shows Dump.Shows := by
  have printed (opened : Returned) : (printRegisters devices indeterminate device
      { state with toReturned := opened }).Shows := shows_printRegisters (shows.returning opened)
  unfold printDevice
  dsimp only
  split
  · exact shows.returning _
  · split
    · exact shows.returning _
    · split
      · exact (printed _).returning _
      · exact (printed _).returning _

/--
However a dump ends, as long as no read of a register has failed, the registers can be
read off the printed text without loss and in their order.
-/
theorem dump_shows_registers {dump : Dump} (run : printInstalledDevices platform devices
      indeterminate bindingProtocol controller m = .ok dump)
    (succeeded : ∀ read ∈ dump.reads, read.value ≠ none) :
    dump.console.filterMap Line.register = dump.reads.filterMap ConfigRead.register := by
  let start : Dump := ⟨⟨(platform.locateHandleBuffer m).1,
    m.record (.enumerated (platform.locateHandleBuffer m).1)⟩, [], [],
    some (platform.locateHandleBuffer m).2⟩
  have pass (device : EfiHandle) (rest : List EfiHandle) (state : Dump) (shows : state.Shows) :
      (printDevice platform devices indeterminate bindingProtocol controller device state).Ensures
        Dump.Shows Dump.Shows :=
    shows_printDevice shows
  have loop := forEach_ensures (fun _ => Dump.Shows) Dump.Shows pass
    (platform.locateHandleBuffer m).2 start (fun _ => rfl)
  unfold printInstalledDevices at run
  dsimp only at run
  split at run
  · cases run
    rfl
  · split at run
    · cases run
    all_goals
      next outcome =>
        rw [outcome] at loop
        cases run
        exact loop succeeded

theorem dump_shows_registers_device :
    deviceDump.reads.length = 15 ∧
    deviceDump.console.filterMap Line.register =
      deviceDump.reads.filterMap ConfigRead.register :=
  ⟨rfl, dump_shows_registers printInstalledDevices_deviceDump (by decide)⟩

end Shows

/-! ## What is read, and what is left behind -/

/-- Where a read goes. -/
def ConfigRead.place (read : ConfigRead) : EfiHandle × Nat :=
  (read.device, read.offset)

/-- The registers of a device that are read. -/
def dumpedRegisters (device : EfiHandle) : List (EfiHandle × Nat) :=
  registerLines.map fun line => (device, line.1)

/-- How a dump of the given devices can end. -/
inductive DumpEnd (located : EfiStatus) (handles : List EfiHandle) (dump : Dump) : Prop
  | unlocated (failed : efiError located = true) (status : dump.status = located)
      (unread : dump.reads = []) (unallocated : dump.handleBuffer = none)
  | complete (located : efiError located = false) (status : dump.status = efiSuccess)
      (read : dump.reads.map ConfigRead.place = handles.flatMap dumpedRegisters)
      (freed : dump.handleBuffer = none)
  | abandoned {done rest : List EfiHandle} (located : efiError located = false)
      (status : efiError dump.status = true) (split : handles = done ++ rest)
      (read : dump.reads.map ConfigRead.place = done.flatMap dumpedRegisters)
      (leaked : dump.handleBuffer = some handles)

section Ends

variable {platform : Platform} {devices : PciDevices} {indeterminate : BitVec 32}
  {bindingProtocol : DriverBinding} {controller device : EfiHandle} {m : Machine}

theorem reads_printRegisters (state : Dump) :
    (printRegisters devices indeterminate device state).reads.map ConfigRead.place =
      state.reads.map ConfigRead.place ++ dumpedRegisters device ∧
    (printRegisters devices indeterminate device state).handleBuffer = state.handleBuffer := by
  have all (lines : List (Nat × (BitVec 32 → Line))) : ∀ start : Dump × BitVec 32,
      (lines.foldl (printRegister devices device) start).1.reads.map ConfigRead.place =
        start.1.reads.map ConfigRead.place ++ lines.map (fun line => (device, line.1)) ∧
      (lines.foldl (printRegister devices device) start).1.handleBuffer = start.1.handleBuffer := by
    induction lines with
    | nil => exact fun start => ⟨(List.append_nil _).symm, rfl⟩
    | cons line rest ih =>
        intro start
        obtain ⟨reads, buffer⟩ := ih (printRegister devices device start line)
        refine ⟨?_, buffer⟩
        rw [List.foldl_cons, reads]
        simp [printRegister, ConfigRead.place]
  exact all registerLines _

/-- The devices that have been dumped, while the handle buffer is still in use. -/
structure Dumping (handles rest : List EfiHandle) (dump : Dump) : Prop where
  read : ∃ done, handles = done ++ rest ∧
    dump.reads.map ConfigRead.place = done.flatMap dumpedRegisters
  allocated : dump.handleBuffer = some handles

theorem Dumping.returning {handles rest : List EfiHandle} {dump : Dump}
    (dumping : Dumping handles rest dump) (returned : Returned) :
    Dumping handles rest { dump with toReturned := returned } :=
  ⟨dumping.read, dumping.allocated⟩

theorem dumping_printDevice {handles rest : List EfiHandle} {state : Dump}
    (dumping : Dumping handles (device :: rest) state) :
    (printDevice platform devices indeterminate bindingProtocol controller device state).Ensures
      (Dumping handles rest)
      (fun dump => efiError dump.status = true ∧ ∃ rest, Dumping handles rest dump) := by
  have printed (opened : Returned) : Dumping handles rest (printRegisters devices indeterminate
      device { state with toReturned := opened }) := by
    obtain ⟨⟨done, parts, read⟩, allocated⟩ := dumping.returning opened
    obtain ⟨reads, buffer⟩ := @reads_printRegisters devices indeterminate device
      { state with toReturned := opened }
    refine ⟨⟨done ++ [device], ?_, ?_⟩, buffer.trans allocated⟩
    · rw [parts, List.append_assoc, List.singleton_append]
    · rw [reads, read, List.flatMap_append, List.flatMap_singleton]
  unfold printDevice
  dsimp only
  split
  · next failed => exact ⟨failed, device :: rest, dumping.returning _⟩
  · split
    · next failed => exact ⟨failed, device :: rest, dumping.returning _⟩
    · split
      · next failed =>
          refine ⟨failed, rest, ?_⟩
          exact (printed _).returning _
      · exact (printed _).returning _

theorem printDevice_ends (device : EfiHandle) (state : Dump) :
    (printDevice platform devices indeterminate bindingProtocol controller device state).Ends
      (fun _ => False) (fun _ => True) (fun _ => True) := by
  unfold printDevice
  dsimp only
  split
  · trivial
  · split
    · trivial
    · split <;> trivial

/-- A dump never reads or writes through NULL. -/
theorem printInstalledDevices_returns (platform : Platform) (devices : PciDevices)
    (indeterminate : BitVec 32) (bindingProtocol : DriverBinding) (controller : EfiHandle)
    (m : Machine) :
    ∃ dump, printInstalledDevices platform devices indeterminate bindingProtocol controller m =
      .ok dump := by
  unfold printInstalledDevices
  dsimp only
  split
  · exact ⟨_, rfl⟩
  · have loop : (forEach (printDevice platform devices indeterminate bindingProtocol controller)
        (platform.locateHandleBuffer m).2 ⟨⟨(platform.locateHandleBuffer m).1,
          m.record (.enumerated (platform.locateHandleBuffer m).1)⟩, [], [],
          some (platform.locateHandleBuffer m).2⟩).Ends (fun _ => False) (fun _ => True)
          (fun _ => True) :=
      forEach_ends (fun _ _ => True) (fun device _ state _ => printDevice_ends device state) _ _
        trivial
    split
    · next outcome =>
        rw [outcome] at loop
        exact loop.elim
    · exact ⟨_, rfl⟩
    · exact ⟨_, rfl⟩

theorem dumpEnd_of_run {dump : Dump} (run : printInstalledDevices platform devices indeterminate
      bindingProtocol controller m = .ok dump) :
    DumpEnd (platform.locateHandleBuffer m).1 (platform.locateHandleBuffer m).2 dump := by
  let handles := (platform.locateHandleBuffer m).2
  let start : Dump := ⟨⟨(platform.locateHandleBuffer m).1,
    m.record (.enumerated (platform.locateHandleBuffer m).1)⟩, [], [], some handles⟩
  have pass (device : EfiHandle) (rest : List EfiHandle) (state : Dump)
      (dumping : Dumping handles (device :: rest) state) :
      (printDevice platform devices indeterminate bindingProtocol controller device state).Ensures
        (Dumping handles rest)
        (fun dump => efiError dump.status = true ∧ ∃ rest, Dumping handles rest dump) :=
    dumping_printDevice dumping
  have beginning : Dumping handles handles start := ⟨⟨[], rfl, rfl⟩, rfl⟩
  have loop := forEach_ensures _ _ pass handles start beginning
  unfold printInstalledDevices at run
  dsimp only at run
  split at run
  · next failed =>
      cases run
      exact .unlocated failed rfl rfl rfl
  · next located =>
      have located := Bool.eq_false_iff.mpr located
      split at run
      · cases run
      · next outcome =>
          rw [outcome] at loop
          obtain ⟨⟨done, parts, read⟩, _⟩ := loop
          cases run
          refine .complete located rfl ?_ rfl
          rw [List.append_nil] at parts
          exact read.trans (congrArg (List.flatMap dumpedRegisters) parts.symm)
      · next outcome =>
          rw [outcome] at loop
          obtain ⟨failed, rest, ⟨done, parts, read⟩, allocated⟩ := loop
          cases run
          exact .abandoned located failed parts read allocated

/--
A dump always returns.  It reads the same registers of one device after the other, returns
success and frees the handle buffer if it comes to the end of the buffer, and else it
returns an error and leaks the buffer.
-/
theorem dump_ends (platform : Platform) (devices : PciDevices) (indeterminate : BitVec 32)
    (bindingProtocol : DriverBinding) (controller : EfiHandle) (m : Machine) :
    ∃ dump, printInstalledDevices platform devices indeterminate bindingProtocol controller m =
        .ok dump ∧
      DumpEnd (platform.locateHandleBuffer m).1 (platform.locateHandleBuffer m).2 dump := by
  obtain ⟨dump, run⟩ := printInstalledDevices_returns platform devices indeterminate
    bindingProtocol controller m
  exact ⟨dump, run, dumpEnd_of_run run⟩

/-- A platform with two devices, of which the second has no location. -/
def platformWithDevices : Platform :=
  { cooperative with
    locateHandleBuffer := fun _ => (efiSuccess, [20, 21])
    locationStatus := fun _ device => if device = 21 then efiNotFound else efiSuccess }

/-- The dump is left behind the first device, and the buffer is leaked. -/
theorem dump_ends_device :
    ∃ dump, printInstalledDevices platformWithDevices constantDevices 0 shimBinding 5
        startedMachine = .ok dump ∧
      DumpEnd efiSuccess [20, 21] dump ∧ dump.status = efiNotFound ∧
        dump.reads.length = 15 ∧ dump.handleBuffer = some [20, 21] := by
  obtain ⟨dump, run, ends⟩ :=
    dump_ends platformWithDevices constantDevices 0 shimBinding 5 startedMachine
  refine ⟨dump, run, ends, ?_⟩
  obtain rfl := Except.ok.inj run
  exact ⟨rfl, rfl, rfl⟩

end Ends

end Thundermod.Shim
