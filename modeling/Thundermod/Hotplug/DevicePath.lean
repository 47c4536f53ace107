import Thundermod.Hotplug.Decoding

/-!
# Device paths

The path of a root port as the bytes of its nodes: a header with type, subtype and
length, the data of the node, and an end node behind the last one.
-/

namespace Thundermod.Hotplug

open Words Guidsub

def endDevicePathType : UInt8 := 0x7F

def endEntireDevicePathSubtype : UInt8 := 0xFF

/-- A node that does not end the path, with a length that its header can state. -/
structure Node where
  type : UInt8
  subType : UInt8
  data : List UInt8
  fits : 4 + data.length < 2 ^ 16
  proper : ¬ (type = endDevicePathType ∧ subType = endEntireDevicePathSubtype)
  deriving DecidableEq

/-- The header of a node with `length` bytes of data. -/
def header (type subType : UInt8) (length : Nat) : List UInt8 :=
  type :: subType :: bytes16 (UInt16.ofNat (4 + length))

def Node.bytes (node : Node) : List UInt8 :=
  header node.type node.subType node.data.length ++ node.data

/-- `END`. -/
def endNode : List UInt8 :=
  header endDevicePathType endEntireDevicePathSubtype 0

theorem valueOf_lt (low high : UInt8) : valueOf [low, high] < 2 ^ 16 := by
  have := low.toNat_lt
  have := high.toNat_lt
  simp only [valueOf, List.map_cons, List.map_nil, Nat.ofDigits_cons, Nat.ofDigits_nil]
  omega

/-- The nodes in front of the first end node, and what lies behind it. -/
def readPath (bytes : List UInt8) : Option (List Node × List UInt8) :=
  match bytes with
  | type :: subType :: low :: high :: rest =>
      if proper : type = endDevicePathType ∧ subType = endEntireDevicePathSubtype then
        some ([], rest)
      else if fits : 4 + (rest.take (valueOf [low, high] - 4)).length = valueOf [low, high] then
        let node : Node := ⟨type, subType, _, fits.trans_lt (valueOf_lt low high), proper⟩
        (readPath (rest.drop (valueOf [low, high] - 4))).map fun path =>
          (node :: path.1, path.2)
      else none
  | _ => none
  termination_by bytes.length

theorem readPath_endNode (rest : List UInt8) : readPath (endNode ++ rest) = some ([], rest) := by
  have ends : endNode ++ rest =
      endDevicePathType :: endEntireDevicePathSubtype :: 0x04 :: 0x00 :: rest := rfl
  rw [ends, readPath, dif_pos ⟨rfl, rfl⟩]

/-- A node in front of a path is the first one that is read. -/
theorem readPath_node (node : Node) (bytes : List UInt8) :
    readPath (node.bytes ++ bytes) =
      (readPath bytes).map fun path => (node :: path.1, path.2) := by
  obtain ⟨type, subType, data, fits, proper⟩ := node
  have length : valueOf (bytes16 (UInt16.ofNat (4 + data.length))) = 4 + data.length := by
    rw [valueOf_bytes16, UInt16.toNat_ofNat', Nat.mod_eq_of_lt fits]
  have starts : Node.bytes ⟨type, subType, data, fits, proper⟩ ++ bytes =
      type :: subType :: (UInt16.ofNat (4 + data.length)).toUInt8 ::
        ((UInt16.ofNat (4 + data.length)) >>> 8).toUInt8 :: (data ++ bytes) := rfl
  rw [starts, readPath, dif_neg proper]
  simp only [show valueOf [(UInt16.ofNat (4 + data.length)).toUInt8,
    ((UInt16.ofNat (4 + data.length)) >>> 8).toUInt8] = 4 + data.length from length,
    Nat.add_sub_cancel_left, List.take_left, List.drop_left]
  rw [dif_pos trivial]

/-- Reading the bytes of a path gives its nodes back. -/
theorem readPath_flatMap (nodes : List Node) (rest : List UInt8) :
    readPath (nodes.flatMap Node.bytes ++ (endNode ++ rest)) = some (nodes, rest) := by
  induction nodes with
  | nil => exact readPath_endNode rest
  | cons node others ih =>
      rw [List.flatMap_cons, List.append_assoc, readPath_node, ih]
      rfl

/-! ## The path of a root port -/

/-- `EISA_PNP_ID`. -/
def eisaPnpId (pnpId : UInt32) : UInt32 :=
  (pnpId <<< 16) ||| 0x41D0

/-- An `ACPI_HID_DEVICE_PATH`. -/
def acpiHidNode (hid uid : UInt32) : Node where
  type := 0x02
  subType := 0x01
  data := bytes32 hid ++ bytes32 uid
  fits := by simp [bytes32]
  proper := by decide

/-- A `PCI_DEVICE_PATH`; the function comes first. -/
def pciNode (device function : UInt8) : Node where
  type := 0x01
  subType := 0x01
  data := [function, device]
  fits := by simp
  proper := by decide

/-- `ACPI`: the root bridge. -/
def acpi : Node := acpiHidNode (eisaPnpId 0x0A03) 0

/-- A `PCIE_HOT_PLUG_DEVICE_PATH`: the root bridge, a root port, and the end node. -/
def hotPlugDevicePath (device function : UInt8) : List UInt8 :=
  acpi.bytes ++ (pciNode device function).bytes ++ endNode

/-- `mHotplugPcieDevicePathTemplate`, with its dummy device and function. -/
def mHotplugPcieDevicePathTemplate : List UInt8 :=
  hotPlugDevicePath 0xFF 0xFF

/-- `sizeof (PCIE_HOT_PLUG_DEVICE_PATH)`. -/
def sizeofHotPlugDevicePath : Nat := 22

/-- The offsets of `PciRootPortNode.Function` and of `PciRootPortNode.Device`. -/
def rootPortFunctionOffset : Nat := 16

def rootPortDeviceOffset : Nat := 17

/-- `CopyMem` of the template, and the two stores behind it. -/
def devicePathStores (device function : UInt8) : List (Nat × List UInt8) :=
  [(0, mHotplugPcieDevicePathTemplate), (rootPortDeviceOffset, [device]),
    (rootPortFunctionOffset, [function])]

/-- The stores replace the dummy values, whatever the block held before. -/
theorem storeAll_devicePath {block : List UInt8} (length : block.length = sizeofHotPlugDevicePath)
    (device function : UInt8) :
    storeAll 0 (devicePathStores device function) block =
      some (hotPlugDevicePath device function) := by
  have copied : storeAt block 0 mHotplugPcieDevicePathTemplate =
      some mHotplugPcieDevicePathTemplate := by
    have size : mHotplugPcieDevicePathTemplate.length = block.length := length.symm
    rw [storeAt_of_room (by omega), overwrite, Nat.zero_add, size, List.drop_length,
      List.append_nil]
    rfl
  rw [devicePathStores, storeAll, Nat.zero_add, copied]
  rfl

theorem readPath_hotPlugDevicePath (device function : UInt8) :
    readPath (hotPlugDevicePath device function) = some ([acpi, pciNode device function], []) := by
  have layout : hotPlugDevicePath device function =
      [acpi, pciNode device function].flatMap Node.bytes ++ (endNode ++ []) := rfl
  rw [layout, readPath_flatMap]

end Thundermod.Hotplug
