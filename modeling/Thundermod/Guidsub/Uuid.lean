import Thundermod.Words.Occurrence

/-!
# GUIDs as sixteen bytes

`guidsub` parses the big-endian text form of a GUID and swaps its first three
fields in place, so that the bytes can be searched for in a little-endian image.
-/

namespace Thundermod.Guidsub

open Words

/-- `uuid_t`: sixteen bytes. -/
@[ext]
structure Uuid where
  bytes : List UInt8
  length_bytes : bytes.length = 16
  deriving DecidableEq

/-- `sizeof(uuid_t)`. -/
def sizeofUuid : Nat := 16

/-- `SWAP32`, on an unsigned 32-bit operand. -/
def swap32 (x : UInt32) : UInt32 :=
  ((x >>> 24) &&& (0xFF : UInt32)) ||| ((x <<< 8) &&& (0xFF0000 : UInt32)) |||
    ((x >>> 8) &&& (0xFF00 : UInt32)) ||| ((x <<< 24) &&& (0xFF000000 : UInt32))

/-- `SWAP16`: the operand is promoted to `int`, the store truncates to 16 bits. -/
def swap16 (x : UInt16) : UInt16 :=
  ((x.toUInt32 <<< 8) ||| ((x.toUInt32 >>> 8) &&& (0xFF : UInt32))).toUInt16

/-- The little-endian load `*(uint32_t *)(&uuid[offset])`. -/
def load32 (bytes : List UInt8) (offset : Nat) : UInt32 :=
  (bytes.getD offset 0).toUInt32 ||| ((bytes.getD (offset + 1) 0).toUInt32 <<< 8) |||
    ((bytes.getD (offset + 2) 0).toUInt32 <<< 16) ||| ((bytes.getD (offset + 3) 0).toUInt32 <<< 24)

/-- The little-endian load `*(uint16_t *)(&uuid[offset])`. -/
def load16 (bytes : List UInt8) (offset : Nat) : UInt16 :=
  (bytes.getD offset 0).toUInt16 ||| ((bytes.getD (offset + 1) 0).toUInt16 <<< 8)

/-- The bytes stored by a little-endian 32-bit store. -/
def bytes32 (x : UInt32) : List UInt8 :=
  [x.toUInt8, (x >>> 8).toUInt8, (x >>> 16).toUInt8, (x >>> 24).toUInt8]

/-- The bytes stored by a little-endian 16-bit store. -/
def bytes16 (x : UInt16) : List UInt8 :=
  [x.toUInt8, (x >>> 8).toUInt8]

/-- Store a word shorter than the rest of the GUID at a fixed offset. -/
def Uuid.store (uuid : Uuid) (offset : Nat) (word : List UInt8)
    (room : offset + word.length ≤ 16) : Uuid where
  bytes := overwrite uuid.bytes offset word
  length_bytes := by
    rw [length_overwrite (by rwa [uuid.length_bytes]), uuid.length_bytes]

/-- `uuid_fix_endianness`: three swaps in place, one after the other. -/
def uuidFixEndianness (uuid : Uuid) : Uuid :=
  let uuid := uuid.store 0 (bytes32 (swap32 (load32 uuid.bytes 0))) (by simp [bytes32])
  let uuid := uuid.store 4 (bytes16 (swap16 (load16 uuid.bytes 4))) (by simp [bytes16])
  uuid.store 6 (bytes16 (swap16 (load16 uuid.bytes 6))) (by simp [bytes16])

/-! ## Sequences to substitute -/

def efiDriverBindingProtocolGuid : Uuid :=
  ⟨[0xAB, 0x31, 0xA0, 0x18, 0x43, 0xB4, 0x1A, 0x4D,
    0xA5, 0xC0, 0x0C, 0x09, 0x26, 0x1E, 0x9F, 0x71], rfl⟩

def driverBindingProtocolSubstituteGuid : Uuid :=
  ⟨[0x38, 0x45, 0xAD, 0xE8, 0x8D, 0x0A, 0xE6, 0x46,
    0x8A, 0x1F, 0x09, 0x03, 0xB7, 0x9A, 0x91, 0xBB], rfl⟩

def efiPciHostBridgeResourceAllocationProtocolGuid : Uuid :=
  ⟨[0xBE, 0x34, 0x80, 0xCF, 0x68, 0x67, 0x8B, 0x4D,
    0xB7, 0x39, 0x7C, 0xCE, 0x68, 0x3A, 0x9F, 0xBE], rfl⟩

def pciHostBrgResAllocProtocolSubstituteGuid : Uuid :=
  ⟨[0x0E, 0x7E, 0xF3, 0x35, 0xB1, 0x3E, 0x3A, 0x45,
    0xA5, 0xAD, 0x4B, 0x4C, 0x15, 0xA6, 0x3C, 0x18], rfl⟩

end Thundermod.Guidsub
