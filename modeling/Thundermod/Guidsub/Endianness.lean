import Mathlib.Tactic.IntervalCases
import Thundermod.Guidsub.Main

/-!
# Text form and memory form of a GUID

`uuid_parse` stores the fields of a GUID most significant byte first, the
initialiser of an `EFI_GUID` on a little-endian target stores them least
significant byte first.  `uuid_fix_endianness` turns the one form into the other.
-/

namespace Thundermod.Guidsub

open Words

/-- `EFI_GUID`. -/
@[ext]
structure EfiGuid where
  data1 : UInt32
  data2 : UInt16
  data3 : UInt16
  data4 : List UInt8
  length_data4 : data4.length = 8
  deriving DecidableEq

/-- A 32-bit field, most significant byte first. -/
def bigEndian32 (x : UInt32) : List UInt8 :=
  [(x >>> 24).toUInt8, (x >>> 16).toUInt8, (x >>> 8).toUInt8, x.toUInt8]

/-- A 16-bit field, most significant byte first. -/
def bigEndian16 (x : UInt16) : List UInt8 :=
  [(x >>> 8).toUInt8, x.toUInt8]

/-- The bytes `uuid_parse` gives for the text form of a GUID. -/
def EfiGuid.bigEndian (guid : EfiGuid) : Uuid where
  bytes := bigEndian32 guid.data1 ++ bigEndian16 guid.data2 ++ bigEndian16 guid.data3 ++ guid.data4
  length_bytes := by simp [bigEndian32, bigEndian16, guid.length_data4]

/-- The bytes of the structure in the memory of a little-endian target. -/
def EfiGuid.layout (guid : EfiGuid) : Uuid where
  bytes := bytes32 guid.data1 ++ bytes16 guid.data2 ++ bytes16 guid.data3 ++ guid.data4
  length_bytes := by simp [bytes32, bytes16, guid.length_data4]

/-! ## One word -/

theorem swap32_load32 (a b c d : UInt8) :
    swap32 (load32 [a, b, c, d] 0) = load32 [d, c, b, a] 0 := by
  apply UInt32.toBitVec_inj.mp
  apply BitVec.eq_of_getLsbD_eq
  intro i bound
  simp only [swap32, load32]
  interval_cases i <;> simp

theorem swap16_load16 (a b : UInt8) : swap16 (load16 [a, b] 0) = load16 [b, a] 0 := by
  apply UInt16.toBitVec_inj.mp
  apply BitVec.eq_of_getLsbD_eq
  intro i bound
  simp only [swap16, load16]
  -- Widening the loaded word first would turn its shift into a remainder.
  interval_cases i <;> simp [-UInt16.toUInt32_shiftLeft, -UInt16.toUInt32_or]

theorem load32_bytes32 (x : UInt32) : load32 (bytes32 x) 0 = x := by
  apply UInt32.toBitVec_inj.mp
  apply BitVec.eq_of_getLsbD_eq
  intro i bound
  simp only [load32, bytes32]
  interval_cases i <;> simp [-UInt32.toUInt32_toUInt8]

theorem load16_bytes16 (x : UInt16) : load16 (bytes16 x) 0 = x := by
  apply UInt16.toBitVec_inj.mp
  apply BitVec.eq_of_getLsbD_eq
  intro i bound
  simp only [load16, bytes16]
  interval_cases i <;> simp [-UInt16.toUInt16_toUInt8]

/-- A byte is given by its eight bits. -/
theorem byte_ext {x y : UInt8} (same : ∀ i < 8, x.toBitVec.getLsbD i = y.toBitVec.getLsbD i) :
    x = y :=
  UInt8.toBitVec_inj.mp (BitVec.eq_of_getLsbD_eq same)

theorem bytes32_load32 (a b c d : UInt8) : bytes32 (load32 [a, b, c, d] 0) = [a, b, c, d] := by
  simp only [bytes32, load32, List.cons.injEq, and_true]
  refine ⟨byte_ext ?_, byte_ext ?_, byte_ext ?_, byte_ext ?_⟩
  all_goals
    intro i bound
    interval_cases i <;> simp

theorem bytes16_load16 (a b : UInt8) : bytes16 (load16 [a, b] 0) = [a, b] := by
  simp only [bytes16, load16, List.cons.injEq, and_true]
  refine ⟨byte_ext ?_, byte_ext ?_⟩
  all_goals
    intro i bound
    interval_cases i <;> simp

/-- Load, swap and store of a 32-bit field reverse its four bytes. -/
theorem bytes32_swap32 (a b c d : UInt8) :
    bytes32 (swap32 (load32 [a, b, c, d] 0)) = [d, c, b, a] := by
  rw [swap32_load32, bytes32_load32]

/-- Load, swap and store of a 16-bit field exchange its two bytes. -/
theorem bytes16_swap16 (a b : UInt8) : bytes16 (swap16 (load16 [a, b] 0)) = [b, a] := by
  rw [swap16_load16, bytes16_load16]

/-! ## A whole GUID -/

/-- The first three fields byte by byte, and the other eight bytes. -/
theorem Uuid.exists_fields (uuid : Uuid) :
    ∃ (a b c d e f g h : UInt8) (rest : List UInt8), rest.length = 8 ∧
      uuid.bytes = a :: b :: c :: d :: e :: f :: g :: h :: rest := by
  obtain ⟨bytes, length_bytes⟩ := uuid
  match bytes, length_bytes with
  | a :: b :: c :: d :: e :: f :: g :: h :: rest, length_bytes =>
      exact ⟨a, b, c, d, e, f, g, h, rest, by simpa using length_bytes, rfl⟩

theorem Uuid.bytes_store (uuid : Uuid) (offset : Nat) (word : List UInt8)
    (room : offset + word.length ≤ 16) :
    (uuid.store offset word room).bytes = overwrite uuid.bytes offset word :=
  rfl

/-- The first three fields are reversed where they stand, the last eight bytes stay. -/
theorem bytes_uuidFixEndianness {uuid : Uuid} {a b c d e f g h : UInt8} {rest : List UInt8}
    (fields : uuid.bytes = a :: b :: c :: d :: e :: f :: g :: h :: rest) :
    (uuidFixEndianness uuid).bytes = d :: c :: b :: a :: f :: e :: h :: g :: rest := by
  have first : bytes32 (swap32 (load32 uuid.bytes 0)) = [d, c, b, a] := by
    rw [fields]
    exact bytes32_swap32 a b c d
  have afterFirst : overwrite uuid.bytes 0 [d, c, b, a] =
      d :: c :: b :: a :: e :: f :: g :: h :: rest := by
    rw [fields]
    rfl
  have second : bytes16 (swap16 (load16 (d :: c :: b :: a :: e :: f :: g :: h :: rest) 4)) =
      [f, e] :=
    bytes16_swap16 e f
  have third : bytes16 (swap16 (load16 (d :: c :: b :: a :: f :: e :: g :: h :: rest) 6)) =
      [h, g] :=
    bytes16_swap16 g h
  have afterSecond : overwrite (d :: c :: b :: a :: e :: f :: g :: h :: rest) 4 [f, e] =
      d :: c :: b :: a :: f :: e :: g :: h :: rest :=
    rfl
  simp only [uuidFixEndianness, Uuid.bytes_store, first, afterFirst, second, afterSecond, third]
  rfl

/-- The bytes searched for are the structure in memory. -/
theorem uuidFixEndianness_bigEndian (guid : EfiGuid) :
    uuidFixEndianness guid.bigEndian = guid.layout :=
  Uuid.ext (bytes_uuidFixEndianness rfl)

theorem uuidFixEndianness_involutive : Function.Involutive uuidFixEndianness := by
  intro uuid
  obtain ⟨a, b, c, d, e, f, g, h, rest, length, fields⟩ := uuid.exists_fields
  apply Uuid.ext
  rw [bytes_uuidFixEndianness (bytes_uuidFixEndianness fields), fields]

/-! ## The structure in memory determines the fields -/

theorem data1_layout (guid : EfiGuid) : load32 guid.layout.bytes 0 = guid.data1 :=
  load32_bytes32 guid.data1

theorem data2_layout (guid : EfiGuid) : load16 guid.layout.bytes 4 = guid.data2 :=
  load16_bytes16 guid.data2

theorem data3_layout (guid : EfiGuid) : load16 guid.layout.bytes 6 = guid.data3 :=
  load16_bytes16 guid.data3

theorem data4_layout (guid : EfiGuid) : guid.layout.bytes.drop 8 = guid.data4 :=
  rfl

theorem layout_injective : Function.Injective EfiGuid.layout := by
  intro first second same
  apply EfiGuid.ext
  · rw [← data1_layout first, same, data1_layout]
  · rw [← data2_layout first, same, data2_layout]
  · rw [← data3_layout first, same, data3_layout]
  · rw [← data4_layout first, same, data4_layout]

/--
For every GUID the swapped text bytes are the structure in memory, swapping twice
changes nothing, and two GUIDs never give the same bytes to search for.
-/
theorem search_bytes_are_layout :
    (∀ guid : EfiGuid, uuidFixEndianness guid.bigEndian = guid.layout) ∧
      Function.Involutive uuidFixEndianness ∧
      Function.Injective uuidFixEndianness ∧
      ∀ first second : EfiGuid, first ≠ second →
        uuidFixEndianness first.bigEndian ≠ uuidFixEndianness second.bigEndian := by
  refine ⟨uuidFixEndianness_bigEndian, uuidFixEndianness_involutive,
    uuidFixEndianness_involutive.injective, ?_⟩
  intro first second different same
  rw [uuidFixEndianness_bigEndian, uuidFixEndianness_bigEndian] at same
  exact different (layout_injective same)

/-- With a parser that stores big-endian bytes, the tool searches for and writes structures. -/
theorem readArguments_layout {libc : Libc} {argv : List GetoptResult} {options : Options}
    {fileNameStr originalGuidStr newGuidStr : String} {originalGuid newGuid : EfiGuid}
    (argv0 : String) (parsed : parseOptions argv {} = some options)
    (named : options.fileNameStr = some fileNameStr)
    (original : options.originalGuidStr = some originalGuidStr)
    (new : options.newGuidStr = some newGuidStr)
    (originalParsed : libc.uuidParse originalGuidStr = some originalGuid.bigEndian)
    (newParsed : libc.uuidParse newGuidStr = some newGuid.bigEndian) :
    readArguments libc argv0 argv = .ok (originalGuid.layout, newGuid.layout) := by
  simp only [readArguments, parsed, named, original, new, originalParsed, newParsed,
    uuidFixEndianness_bigEndian]

/-! ## The GUIDs of the shim -/

def gDriverBindingProtocolSubstituteGuid : EfiGuid :=
  ⟨0xE8AD4538, 0x0A8D, 0x46E6, [0x8A, 0x1F, 0x09, 0x03, 0xB7, 0x9A, 0x91, 0xBB], rfl⟩

def gEfiPciHostBrgResAllocProtocolSubstituteGuid : EfiGuid :=
  ⟨0x35F37E0E, 0x3EB1, 0x453A, [0xA5, 0xAD, 0x4B, 0x4C, 0x15, 0xA6, 0x3C, 0x18], rfl⟩

/-- What the tool writes into the base driver is what the shim looks up. -/
theorem substitute_guids_agree :
    driverBindingProtocolSubstituteGuid = gDriverBindingProtocolSubstituteGuid.layout ∧
      pciHostBrgResAllocProtocolSubstituteGuid =
        gEfiPciHostBrgResAllocProtocolSubstituteGuid.layout := by
  decide

end Thundermod.Guidsub
