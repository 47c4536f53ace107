import Mathlib.Algebra.Ring.Nat
import Thundermod.Guidsub.Uuid
import Thundermod.Words.Laws

/-!
# The substitution loop

The loop of `main` slides a signed 32-bit position over the buffer.  Its bound
is an unsigned 64-bit difference, so it wraps around for files shorter than one
GUID; comparisons outside the buffer and an overflow of the position end the
run with a fault.  For files of 16 up to 2^31 - 1 bytes neither happens, and the
loop is the in-place scan of the offsets below `n - 16`.
-/

namespace Thundermod.Guidsub

open Words

/-- The ways in which a run leaves what the C standard defines. -/
inductive Fault where
  | outOfBounds
  | signedOverflow
  | nullBuffer
  deriving DecidableEq, Repr

/-- The locals the loop changes; `written` records the offsets passed to `memcpy`. -/
structure LoopState where
  buffer : List UInt8
  substituted : Bool
  written : List Nat
  deriving DecidableEq

/-- `fileSize - sizeof(uuid_t)` in `size_t`. -/
@[irreducible]
def loopBound (fileSize : Nat) : Nat :=
  (fileSize + 2 ^ 64 - sizeofUuid) % 2 ^ 64

/-- The loop body at a position inside the buffer. -/
def loopBody (originalGuid newGuid : Uuid) (pos : Nat) (state : LoopState) : LoopState :=
  if OccursAt originalGuid.bytes state.buffer pos then
    { buffer := overwrite state.buffer pos newGuid.bytes
      substituted := true
      written := state.written ++ [pos] }
  else
    state

theorem length_loopBody (originalGuid newGuid : Uuid) {pos : Nat} {state : LoopState}
    (room : pos + sizeofUuid ≤ state.buffer.length) :
    (loopBody originalGuid newGuid pos state).buffer.length = state.buffer.length := by
  unfold loopBody
  split
  · exact length_overwrite (by rw [newGuid.length_bytes]; exact room)
  · rfl

/-- `for (pos = 0; pos < (fileSize - sizeof(uuid_t)); pos++)`, from a given position on. -/
def substitutionLoop (originalGuid newGuid : Uuid) (fileSize pos : Nat) (state : LoopState) :
    Except Fault LoopState :=
  if pos < loopBound fileSize then
    if pos + sizeofUuid ≤ state.buffer.length then
      let state := loopBody originalGuid newGuid pos state
      if pos + 1 < 2 ^ 31 then
        substitutionLoop originalGuid newGuid fileSize (pos + 1) state
      else
        .error .signedOverflow
    else
      .error .outOfBounds
  else
    .ok state
termination_by 2 ^ 31 - pos

/-- The whole loop on a buffer that holds the file. -/
def substitute (originalGuid newGuid : Uuid) (buffer : List UInt8) : Except Fault LoopState :=
  substitutionLoop originalGuid newGuid buffer.length 0 ⟨buffer, false, []⟩

/-! ## The loop is an in-place scan -/

/-- The locals of the loop that a scan determines. -/
def LoopState.ofScan (state : Scan UInt8) : LoopState where
  buffer := state.buffer
  substituted := !state.written.isEmpty
  written := state.written

theorem loopBody_ofScan (originalGuid newGuid : Uuid) (pos : Nat) (state : Scan UInt8) :
    loopBody originalGuid newGuid pos (.ofScan state) =
      .ofScan (visit originalGuid.bytes newGuid.bytes pos state) := by
  by_cases occurs : OccursAt originalGuid.bytes state.buffer pos
  · rw [visit_of_occurs occurs]
    simp [loopBody, LoopState.ofScan, occurs]
  · rw [visit_of_not_occurs occurs]
    simp [loopBody, LoopState.ofScan, occurs]

theorem Uuid.length_pos (uuid : Uuid) : 0 < uuid.bytes.length := by
  rw [uuid.length_bytes]
  decide

theorem Uuid.length_eq (first second : Uuid) : first.bytes.length = second.bytes.length :=
  first.length_bytes.trans second.length_bytes.symm

/-- Between one GUID and 2 GiB the unsigned bound is the plain difference. -/
theorem loopBound_eq {fileSize : Nat} (lower : 16 ≤ fileSize) (upper : fileSize < 2 ^ 31) :
    loopBound fileSize = fileSize - 16 := by
  unfold loopBound sizeofUuid
  omega

/-- The state of the scan after the offsets below `limit` of a file. -/
def scanned (originalGuid newGuid : Uuid) (buffer : List UInt8) (limit : Nat) : Scan UInt8 :=
  scan originalGuid.bytes newGuid.bytes buffer limit

theorem length_scanned (originalGuid newGuid : Uuid) (buffer : List UInt8) (limit : Nat) :
    (scanned originalGuid newGuid buffer limit).buffer.length = buffer.length :=
  length_scan originalGuid.length_pos (newGuid.length_eq originalGuid) buffer limit

theorem substitutionLoop_scanned (originalGuid newGuid : Uuid) {buffer : List UInt8}
    (lower : 16 ≤ buffer.length) (upper : buffer.length < 2 ^ 31) (remaining pos : Nat)
    (total : pos + remaining = buffer.length - 16) :
    substitutionLoop originalGuid newGuid buffer.length pos
        (.ofScan (scanned originalGuid newGuid buffer pos)) =
      .ok (.ofScan (scanned originalGuid newGuid buffer (buffer.length - 16))) := by
  have bound := loopBound_eq lower upper
  induction remaining generalizing pos with
  | zero =>
      have finished : pos = buffer.length - 16 := by omega
      subst finished
      have stop : ¬ buffer.length - 16 < loopBound buffer.length := by omega
      rw [substitutionLoop, if_neg stop]
  | succ remaining ih =>
      have room : pos + sizeofUuid ≤
          (LoopState.ofScan (scanned originalGuid newGuid buffer pos)).buffer.length := by
        change pos + 16 ≤ (scanned originalGuid newGuid buffer pos).buffer.length
        rw [length_scanned]
        omega
      have inLoop : pos < loopBound buffer.length := by omega
      have noOverflow : pos + 1 < 2 ^ 31 := by omega
      rw [substitutionLoop, if_pos inLoop, if_pos room, loopBody_ofScan]
      dsimp only
      rw [if_pos noOverflow]
      exact ih (pos + 1) (by omega)

/-- For files of one GUID up to 2 GiB the loop ends normally, as the in-place scan. -/
theorem substitute_eq_scanned (originalGuid newGuid : Uuid) {buffer : List UInt8}
    (lower : 16 ≤ buffer.length) (upper : buffer.length < 2 ^ 31) :
    substitute originalGuid newGuid buffer =
      .ok (.ofScan (scanned originalGuid newGuid buffer (buffer.length - 16))) :=
  substitutionLoop_scanned originalGuid newGuid lower upper (buffer.length - 16) 0
    (Nat.zero_add _)

@[simp]
theorem ofScan_substituted (state : Scan UInt8) :
    (LoopState.ofScan state).substituted = true ↔ state.written ≠ [] := by
  cases hwritten : state.written <;> simp [LoopState.ofScan, hwritten]

end Thundermod.Guidsub
