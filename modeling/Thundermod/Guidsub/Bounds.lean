import Mathlib.Algebra.Ring.Nat
import Mathlib.Algebra.Order.Ring.Int
import Thundermod.Control.Run
import Thundermod.Guidsub.Loop

/-!
# The offsets of the substitution loop

The loop as a transition system: its position is a signed `int` that every test
converts to `size_t`.  A pass is defined only if the sixteen bytes at the position
lie inside the allocation and the position can be incremented.
-/

namespace Thundermod.Guidsub

open Control

/-- An `int` converted to `size_t`. -/
def sizeOfInt (value : Int) : Nat :=
  (value % 2 ^ 64).toNat

/-- The position and the other locals at a test of the loop condition. -/
structure Cursor where
  pos : Int
  state : LoopState

/-- `pos < (fileSize - sizeof(uuid_t))`. -/
def Cursor.Enters (fileSize : Nat) (cursor : Cursor) : Prop :=
  sizeOfInt cursor.pos < loopBound fileSize

/-- The offsets `pos` up to `pos + 15` lie in an allocation of `fileSize` bytes. -/
def Cursor.Inside (fileSize : Nat) (cursor : Cursor) : Prop :=
  0 ≤ cursor.pos ∧ cursor.pos + sizeofUuid ≤ fileSize

/-- `pos++` does not overflow. -/
def Cursor.Increments (cursor : Cursor) : Prop :=
  cursor.pos + 1 < 2 ^ 31

/-- The locals after one pass. -/
def Cursor.next (originalGuid newGuid : Uuid) (cursor : Cursor) : Cursor where
  pos := cursor.pos + 1
  state := loopBody originalGuid newGuid cursor.pos.toNat cursor.state

/-- One pass of the loop, as far as it is defined. -/
inductive LoopStep (originalGuid newGuid : Uuid) (fileSize : Nat) : Cursor → Cursor → Prop
  | pass {cursor : Cursor} (enters : cursor.Enters fileSize) (inside : cursor.Inside fileSize)
      (increments : cursor.Increments) :
      LoopStep originalGuid newGuid fileSize cursor (cursor.next originalGuid newGuid)

/-- Every pass of the loop is defined, and there is a last one. -/
structure LoopSafe (originalGuid newGuid : Uuid) (fileSize : Nat) (start : Cursor) : Prop where
  inside : ∀ cursor, Reachable (LoopStep originalGuid newGuid fileSize) start cursor →
    cursor.Enters fileSize → cursor.Inside fileSize
  increments : ∀ cursor, Reachable (LoopStep originalGuid newGuid fileSize) start cursor →
    cursor.Enters fileSize → cursor.Increments
  ends : ∃ cursor, Reachable (LoopStep originalGuid newGuid fileSize) start cursor ∧
    ¬ cursor.Enters fileSize

/-! ## One pass at a time -/

section Passes

variable {originalGuid newGuid : Uuid} {fileSize : Nat} {cursor : Cursor}

/-- A loop that is not entered is safe. -/
theorem loopSafe_of_not_enters (ended : ¬ cursor.Enters fileSize) :
    LoopSafe originalGuid newGuid fileSize cursor := by
  have only (other : Cursor)
      (reached : Reachable (LoopStep originalGuid newGuid fileSize) cursor other) :
      cursor = other := by
    rcases reached.cases_start with same | ⟨next, first, _⟩
    · exact same
    · cases first with
      | pass enters _ _ => exact absurd enters ended
  refine ⟨?_, ?_, cursor, .start _ _, ended⟩
  · intro other reached enters
    rw [only other reached] at ended
    exact absurd enters ended
  · intro other reached enters
    rw [only other reached] at ended
    exact absurd enters ended

/-- An entered loop is safe if this pass is defined and the rest is safe. -/
theorem loopSafe_iff_of_enters (enters : cursor.Enters fileSize) :
    LoopSafe originalGuid newGuid fileSize cursor ↔
      cursor.Inside fileSize ∧ cursor.Increments ∧
        LoopSafe originalGuid newGuid fileSize (cursor.next originalGuid newGuid) := by
  constructor
  · intro safe
    have inside := safe.inside cursor (.start _ _) enters
    have increments := safe.increments cursor (.start _ _) enters
    have first : LoopStep originalGuid newGuid fileSize cursor (cursor.next originalGuid newGuid) :=
      .pass enters inside increments
    refine ⟨inside, increments, fun other reached => safe.inside other (.prepend first reached),
      fun other reached => safe.increments other (.prepend first reached), ?_⟩
    obtain ⟨last, reached, ended⟩ := safe.ends
    rcases reached.cases_start with same | ⟨_, step, reached⟩
    · rw [same] at enters
      exact absurd enters ended
    · cases step with
      | pass _ _ _ => exact ⟨last, reached, ended⟩
  · rintro ⟨inside, increments, rest⟩
    refine ⟨?_, ?_, ?_⟩
    · intro other reached entersOther
      rcases reached.cases_start with same | ⟨_, step, reached⟩
      · rwa [← same]
      · cases step with
        | pass _ _ _ => exact rest.inside other reached entersOther
    · intro other reached entersOther
      rcases reached.cases_start with same | ⟨_, step, reached⟩
      · rwa [← same]
      · cases step with
        | pass _ _ _ => exact rest.increments other reached entersOther
    · obtain ⟨last, reached, ended⟩ := rest.ends
      exact ⟨last, .prepend (.pass enters inside increments) reached, ended⟩

end Passes

/-! ## The file sizes for which the arithmetic works -/

section Sizes

variable {originalGuid newGuid : Uuid} {fileSize : Nat} {cursor : Cursor}

/-- The conversion keeps a position that is not negative. -/
theorem sizeOfInt_eq {value : Int} (nonneg : 0 ≤ value) (upper : value < 2 ^ 31) :
    (sizeOfInt value : Int) = value := by
  unfold sizeOfInt
  omega

theorem enters_iff_lt (lower : 16 ≤ fileSize) (upper : fileSize < 2 ^ 64)
    (nonneg : 0 ≤ cursor.pos) (fits : cursor.pos < 2 ^ 31) :
    cursor.Enters fileSize ↔ cursor.pos + 16 < fileSize := by
  have bound : loopBound fileSize = fileSize - 16 := by
    unfold loopBound sizeofUuid
    omega
  have converted := sizeOfInt_eq nonneg fits
  rw [Cursor.Enters, bound]
  omega

/-- Below the size of a GUID the difference wraps, and the loop is entered. -/
theorem enters_of_short (short : fileSize < 16) (nonneg : 0 ≤ cursor.pos)
    (fits : cursor.pos < 2 ^ 31) : cursor.Enters fileSize := by
  have bound : loopBound fileSize = fileSize + 2 ^ 64 - 16 := by
    unfold loopBound sizeofUuid
    omega
  have converted := sizeOfInt_eq nonneg fits
  rw [Cursor.Enters, bound]
  omega

/-- By induction on the offsets left before the last GUID of the file. -/
theorem loopSafe_of_remaining (lower : 16 ≤ fileSize) (upper : fileSize < 2 ^ 31 + 16)
    (remaining : Nat) (nonneg : 0 ≤ cursor.pos)
    (total : cursor.pos + remaining + 16 = fileSize) :
    LoopSafe originalGuid newGuid fileSize cursor := by
  have enters_iff : cursor.Enters fileSize ↔ cursor.pos + 16 < fileSize :=
    enters_iff_lt lower (by omega) nonneg (by omega)
  induction remaining generalizing cursor with
  | zero =>
      apply loopSafe_of_not_enters
      rw [enters_iff]
      omega
  | succ remaining ih =>
      have enters : cursor.Enters fileSize := enters_iff.mpr (by omega)
      have inside : cursor.Inside fileSize := by
        unfold Cursor.Inside sizeofUuid
        omega
      have increments : cursor.Increments := by
        unfold Cursor.Increments
        omega
      have moved : (cursor.next originalGuid newGuid).pos = cursor.pos + 1 := rfl
      rw [loopSafe_iff_of_enters enters]
      refine ⟨inside, increments, ih (by omega) (by omega) ?_⟩
      exact enters_iff_lt lower (by omega) (by omega) (by omega)

/-- By induction on the increments left before the position overflows. -/
theorem not_loopSafe_of_remaining (lower : 2 ^ 31 + 16 ≤ fileSize) (upper : fileSize < 2 ^ 64)
    (remaining : Nat) (nonneg : 0 ≤ cursor.pos) (total : cursor.pos + remaining + 1 = 2 ^ 31) :
    ¬ LoopSafe originalGuid newGuid fileSize cursor := by
  have enters : cursor.Enters fileSize :=
    (enters_iff_lt (by omega) upper nonneg (by omega)).mpr (by omega)
  induction remaining generalizing cursor with
  | zero =>
      rw [loopSafe_iff_of_enters enters]
      rintro ⟨_, increments, _⟩
      unfold Cursor.Increments at increments
      omega
  | succ remaining ih =>
      have moved : (cursor.next originalGuid newGuid).pos = cursor.pos + 1 := rfl
      rw [loopSafe_iff_of_enters enters]
      rintro ⟨_, _, rest⟩
      refine ih (by omega) (by omega) ?_ rest
      exact (enters_iff_lt (by omega) upper (by omega) (by omega)).mpr (by omega)

end Sizes

/-! ## The recursive loop -/

theorem enters_natCast_iff {fileSize pos : Nat} (state : LoopState) (fits : pos < 2 ^ 31) :
    Cursor.Enters fileSize ⟨pos, state⟩ ↔ pos < loopBound fileSize := by
  have converted := sizeOfInt_eq (Int.natCast_nonneg pos) (by omega)
  rw [Cursor.Enters]
  dsimp only
  omega

theorem inside_natCast_iff {fileSize pos : Nat} (state : LoopState) :
    Cursor.Inside fileSize ⟨pos, state⟩ ↔ pos + sizeofUuid ≤ fileSize := by
  rw [Cursor.Inside]
  dsimp only
  omega

theorem increments_natCast_iff {pos : Nat} (state : LoopState) :
    Cursor.Increments ⟨pos, state⟩ ↔ pos + 1 < 2 ^ 31 := by
  rw [Cursor.Increments]
  dsimp only
  omega

/-- The recursive loop completes exactly if all its passes are defined. -/
theorem substitutionLoop_ok_iff {originalGuid newGuid : Uuid} {fileSize pos : Nat}
    {state : LoopState} (size : state.buffer.length = fileSize) (fits : pos < 2 ^ 31) :
    (∃ final, substitutionLoop originalGuid newGuid fileSize pos state = .ok final) ↔
      LoopSafe originalGuid newGuid fileSize ⟨pos, state⟩ := by
  fun_induction substitutionLoop originalGuid newGuid fileSize pos state with
  | case1 pos state below room body noOverflow ih =>
      have roomFile : pos + sizeofUuid ≤ fileSize := by rwa [← size]
      have enters := (enters_natCast_iff state fits).mpr below
      have inside := (inside_natCast_iff state).mpr roomFile
      have increments := (increments_natCast_iff state).mpr noOverflow
      have kept := (length_loopBody originalGuid newGuid room).trans size
      have moved : Cursor.next originalGuid newGuid ⟨pos, state⟩ = ⟨(pos + 1 : Nat), body⟩ := rfl
      rw [loopSafe_iff_of_enters enters, moved, ih kept noOverflow]
      exact ⟨fun safe => ⟨inside, increments, safe⟩, fun safe => safe.2.2⟩
  | case2 pos state below room overflow =>
      have enters := (enters_natCast_iff state fits).mpr below
      have stuck := mt (increments_natCast_iff state).mp overflow
      rw [loopSafe_iff_of_enters enters]
      simp [stuck]
  | case3 pos state below outside =>
      have outsideFile : ¬ pos + sizeofUuid ≤ fileSize := by rwa [← size]
      have enters := (enters_natCast_iff state fits).mpr below
      have stuck := mt (inside_natCast_iff state).mp outsideFile
      rw [loopSafe_iff_of_enters enters]
      simp [stuck]
  | case4 pos state ended =>
      have left := mt (enters_natCast_iff state fits).mp ended
      simp [loopSafe_of_not_enters left]

/-- The cursor with which `main` enters the loop. -/
def Cursor.first (file : List UInt8) : Cursor :=
  ⟨0, file, false, []⟩

theorem bounds_of_loopSafe {originalGuid newGuid : Uuid} {file : List UInt8}
    (size : file.length < 2 ^ 64)
    (safe : LoopSafe originalGuid newGuid file.length (.first file)) :
    16 ≤ file.length ∧ file.length < 2 ^ 31 + 16 := by
  have start : (Cursor.first file).pos = 0 := rfl
  by_contra outside
  rcases Nat.lt_or_ge file.length 16 with short | lower
  · have enters : (Cursor.first file).Enters file.length :=
      enters_of_short short (by omega) (by omega)
    have inside := ((loopSafe_iff_of_enters enters).mp safe).1
    unfold Cursor.Inside sizeofUuid at inside
    omega
  · exact not_loopSafe_of_remaining (by omega) size (2 ^ 31 - 1) (by omega) (by omega) safe

theorem loopSafe_of_bounds {originalGuid newGuid : Uuid} {file : List UInt8}
    (bounds : 16 ≤ file.length ∧ file.length < 2 ^ 31 + 16) :
    LoopSafe originalGuid newGuid file.length (.first file) := by
  have start : (Cursor.first file).pos = 0 := rfl
  exact loopSafe_of_remaining bounds.1 bounds.2 (file.length - 16) (by omega) (by omega)

/-- A run of the loop over a file completes exactly from one GUID up to 2^31 + 15 bytes. -/
theorem substitute_ok_iff (originalGuid newGuid : Uuid) (file : List UInt8)
    (size : file.length < 2 ^ 64) :
    (∃ final, substitute originalGuid newGuid file = .ok final) ↔
      16 ≤ file.length ∧ file.length < 2 ^ 31 + 16 := by
  have loop : (∃ final, substitute originalGuid newGuid file = .ok final) ↔
      LoopSafe originalGuid newGuid file.length (.first file) :=
    substitutionLoop_ok_iff rfl (by decide)
  exact loop.trans ⟨bounds_of_loopSafe size, loopSafe_of_bounds⟩

/--
For every file the loop compares and writes only inside the buffer, its position
never overflows and it ends, exactly from one GUID up to 2^31 + 15 bytes.
-/
theorem loopSafe_iff (originalGuid newGuid : Uuid) (file : List UInt8)
    (size : file.length < 2 ^ 64) :
    LoopSafe originalGuid newGuid file.length (.first file) ↔
      16 ≤ file.length ∧ file.length < 2 ^ 31 + 16 :=
  ⟨bounds_of_loopSafe size, loopSafe_of_bounds⟩

/-- A GUID with two bytes behind it, which takes the loop two passes. -/
def paddedGuid : List UInt8 :=
  efiDriverBindingProtocolGuid.bytes ++ [0, 0]

theorem loopSafe_at_one_guid :
    LoopSafe efiDriverBindingProtocolGuid driverBindingProtocolSubstituteGuid paddedGuid.length
        (.first paddedGuid) ↔
      16 ≤ paddedGuid.length ∧ paddedGuid.length < 2 ^ 31 + 16 :=
  loopSafe_iff _ _ paddedGuid (by decide)

/-- A file of one byte: the first pass compares sixteen bytes of an allocation of one. -/
theorem one_byte_file_unsafe :
    ¬ LoopSafe efiDriverBindingProtocolGuid driverBindingProtocolSubstituteGuid
      [(0 : UInt8)].length (.first [0]) := by
  intro safe
  have enters : (Cursor.first [0]).Enters [(0 : UInt8)].length :=
    enters_of_short (by decide) (by decide) (by decide)
  have inside := safe.inside (.first [0]) (.start _ _) enters
  exact absurd inside.2 (by decide)

end Thundermod.Guidsub
