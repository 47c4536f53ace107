import Thundermod.Guidsub.Main

/-!
# Exit code and file

The file is rewritten in place, without a copy to fall back on.  A failure
before the file is opened for writing leaves it alone; a failed write leaves a
proper prefix of the substituted buffer behind.  After a successful exit the file
holds the substituted buffer as far as the final flush went through.
-/

namespace Thundermod.Guidsub

open Words

/-! ## The loop keeps the length of the file -/

theorem length_substitutionLoop {originalGuid newGuid : Uuid} {fileSize pos : Nat}
    {state final : LoopState}
    (run : substitutionLoop originalGuid newGuid fileSize pos state = .ok final) :
    final.buffer.length = state.buffer.length := by
  fun_induction substitutionLoop originalGuid newGuid fileSize pos state with
  | case1 pos state below room body noOverflow ih =>
      exact (ih run).trans (length_loopBody originalGuid newGuid room)
  | case2 => cases run
  | case3 => cases run
  | case4 =>
      cases run
      rfl

theorem length_substitute {originalGuid newGuid : Uuid} {file : List UInt8} {state : LoopState}
    (run : substitute originalGuid newGuid file = .ok state) :
    state.buffer.length = file.length :=
  length_substitutionLoop run

/-! ## What each phase can leave -/

/-- A successful read delivers the file, which is not empty. -/
theorem readFile_some {libc : Libc} {disk buffer : List UInt8}
    (read : readFile libc disk = .ok (some buffer)) : buffer = disk ∧ disk ≠ [] := by
  unfold readFile at read
  split at read
  · cases read
  · split at read
    · next filled =>
        cases read
        exact ⟨rfl, filled.2.2⟩
    · cases read

/-- A run that got past reading either leaves the file alone or writes the loop's buffer. -/
theorem finishRun_cases {libc : Libc} {disk : List UInt8} {looped : Except Fault LoopState}
    {exit : Exit} (run : finishRun libc disk looped = .ok exit) :
    (exit.status = .failure ∧ exit.disk = disk) ∨
      ∃ state, looped = .ok state ∧ exit = writeFile libc disk state.buffer := by
  cases looped with
  | error fault => cases run
  | ok state =>
      by_cases found : state.substituted = true
      · have written : finishRun libc disk (.ok state) = .ok (writeFile libc disk state.buffer) :=
          if_pos found
        rw [written] at run
        cases run
        exact Or.inr ⟨state, rfl, rfl⟩
      · have missing : finishRun libc disk (.ok state) =
            .ok (fail disk "GUID not found in source file. Exiting.\n") := if_neg found
        rw [missing] at run
        cases run
        exact Or.inl ⟨rfl, rfl⟩

/-- A finished run either leaves the file alone and fails, or gets to write the loop's buffer. -/
theorem processFile_cases {libc : Libc} {originalGuid newGuid : Uuid} {disk : List UInt8}
    {exit : Exit} (run : processFile libc originalGuid newGuid disk = .ok exit) :
    (exit.status = .failure ∧ exit.disk = disk) ∨
      ∃ state, substitute originalGuid newGuid disk = .ok state ∧ state.buffer ≠ [] ∧
        exit = writeFile libc disk state.buffer := by
  unfold processFile at run
  split at run
  · cases run
    exact Or.inl ⟨rfl, rfl⟩
  · split at run
    · cases run
    · cases run
      exact Or.inl ⟨rfl, rfl⟩
    · next buffer read =>
        obtain ⟨rfl, nonempty⟩ := readFile_some read
        rcases finishRun_cases run with untouched | ⟨state, looped, written⟩
        · exact Or.inl untouched
        · refine Or.inr ⟨state, looped, ?_, written⟩
          rwa [← List.length_pos_iff, length_substitute looped, List.length_pos_iff]

theorem main_cases {libc : Libc} {argv0 : String} {argv : List GetoptResult} {disk : List UInt8}
    {exit : Exit} (run : main libc argv0 argv disk = .ok exit) :
    (exit.status = .failure ∧ exit.disk = disk) ∨
      ∃ originalGuid newGuid state, readArguments libc argv0 argv = .ok (originalGuid, newGuid) ∧
        substitute originalGuid newGuid disk = .ok state ∧ state.buffer ≠ [] ∧
        exit = writeFile libc disk state.buffer := by
  unfold main at run
  split at run
  · cases run
    exact Or.inl ⟨rfl, rfl⟩
  · next originalGuid newGuid arguments =>
      rcases processFile_cases run with untouched | ⟨state, looped, nonempty, written⟩
      · exact Or.inl untouched
      · exact Or.inr ⟨originalGuid, newGuid, state, arguments, looped, nonempty, written⟩

/-! ## Commitment -/

/-- The file holds a proper prefix of the buffer: opened for writing, not written completely. -/
def Torn (libc : Libc) (buffer : List UInt8) (exit : Exit) : Prop :=
  libc.fopenWrite = true ∧ libc.fwrite ≠ none ∧ exit.disk <+: buffer ∧
    exit.disk.length < buffer.length

theorem writeFile_failure {libc : Libc} {disk buffer : List UInt8} (nonempty : buffer ≠ [])
    (failed : (writeFile libc disk buffer).status = .failure) :
    (writeFile libc disk buffer).disk = disk ∨ Torn libc buffer (writeFile libc disk buffer) := by
  unfold writeFile at failed ⊢
  split
  · exact Or.inl rfl
  · next opened =>
      rw [if_neg opened] at failed
      cases hwrite : libc.fwrite with
      | none =>
          rw [hwrite] at failed
          cases failed
      | some accepted =>
          have positive := List.length_pos_iff.mpr nonempty
          refine Or.inr ⟨by simpa using opened, by simp [hwrite], List.take_prefix _ _, ?_⟩
          simp only [fail, List.length_take]
          omega

theorem writeFile_success {libc : Libc} {disk buffer : List UInt8} (flushed : libc.fclose = none)
    (succeeded : (writeFile libc disk buffer).status = .success) :
    (writeFile libc disk buffer).disk = buffer := by
  unfold writeFile at succeeded ⊢
  split
  · next closed =>
      rw [if_pos closed] at succeeded
      cases succeeded
  · next opened =>
      rw [if_neg opened] at succeeded
      cases hwrite : libc.fwrite with
      | none => simp [flushed]
      | some accepted =>
          rw [hwrite] at succeeded
          cases succeeded

/--
A failing run leaves the file alone unless it was already opened for writing and
`fwrite` failed; then a proper prefix of the substituted buffer is left.  A
successful run whose stream is flushed leaves exactly the substituted buffer.
-/
theorem main_commits {libc : Libc} {argv0 : String} {argv : List GetoptResult}
    {disk : List UInt8} {exit : Exit} (run : main libc argv0 argv disk = .ok exit) :
    (exit.status = .failure → exit.disk = disk ∨
      ∃ originalGuid newGuid state, readArguments libc argv0 argv = .ok (originalGuid, newGuid) ∧
        substitute originalGuid newGuid disk = .ok state ∧ Torn libc state.buffer exit) ∧
    (exit.status = .success → libc.fclose = none →
      ∃ originalGuid newGuid state, readArguments libc argv0 argv = .ok (originalGuid, newGuid) ∧
        substitute originalGuid newGuid disk = .ok state ∧ exit.disk = state.buffer) := by
  rcases main_cases run with ⟨failed, same⟩ | ⟨originalGuid, newGuid, state, arguments, looped,
    nonempty, rfl⟩
  · refine ⟨fun _ => Or.inl same, fun succeeded => ?_⟩
    rw [failed] at succeeded
    cases succeeded
  · constructor
    · intro failed
      rcases writeFile_failure nonempty failed with same | torn
      · exact Or.inl same
      · exact Or.inr ⟨originalGuid, newGuid, state, arguments, looped, torn⟩
    · intro succeeded flushed
      exact ⟨originalGuid, newGuid, state, arguments, looped, writeFile_success flushed succeeded⟩

/-- Library calls that all succeed, except for a `fwrite` that accepts five bytes. -/
def fullDisk : Libc where
  uuidParse := fun text =>
    if text = "original" then some (uuidFixEndianness efiDriverBindingProtocolGuid)
    else some (uuidFixEndianness driverBindingProtocolSubstituteGuid)
  fopenRead := true
  ftell := true
  malloc := true
  fread := none
  fopenWrite := true
  fwrite := some 5
  fclose := none

def fullDiskArguments : List GetoptResult :=
  [.f "image", .o "original", .n "new"]

/-- One GUID followed by a byte, so that the loop visits it. -/
def fullDiskImage : List UInt8 :=
  efiDriverBindingProtocolGuid.bytes ++ [0]

theorem readArguments_fullDisk : readArguments fullDisk "guidsub" fullDiskArguments =
    .ok (efiDriverBindingProtocolGuid, driverBindingProtocolSubstituteGuid) :=
  rfl

/-- The run ends with the first five bytes of the new GUID as the whole file. -/
theorem main_fullDisk : main fullDisk "guidsub" fullDiskArguments fullDiskImage =
    .ok (fail [0x38, 0x45, 0xAD, 0xE8, 0x8D] "Error: Failed to write updated file\n") := by
  unfold main
  rw [readArguments_fullDisk]
  change finishRun fullDisk fullDiskImage (substitute efiDriverBindingProtocolGuid
    driverBindingProtocolSubstituteGuid fullDiskImage) = _
  rw [substitute_eq_scanned _ _ (by decide) (by decide)]
  rfl

theorem main_commits_fullDisk :
    (ExitStatus.failure = .failure → [0x38, 0x45, 0xAD, 0xE8, 0x8D] = fullDiskImage ∨
      ∃ originalGuid newGuid state,
        readArguments fullDisk "guidsub" fullDiskArguments = .ok (originalGuid, newGuid) ∧
        substitute originalGuid newGuid fullDiskImage = .ok state ∧
        Torn fullDisk state.buffer
          (fail [0x38, 0x45, 0xAD, 0xE8, 0x8D] "Error: Failed to write updated file\n")) ∧
    (ExitStatus.failure = .success → fullDisk.fclose = none →
      ∃ originalGuid newGuid state,
        readArguments fullDisk "guidsub" fullDiskArguments = .ok (originalGuid, newGuid) ∧
        substitute originalGuid newGuid fullDiskImage = .ok state ∧
        [0x38, 0x45, 0xAD, 0xE8, 0x8D] = state.buffer) :=
  main_commits main_fullDisk

/-- A run that fails while writing has already destroyed the file. -/
theorem main_loses_file :
    ¬ ∀ (libc : Libc) (argv0 : String) (argv : List GetoptResult) (disk : List UInt8)
      (exit : Exit), main libc argv0 argv disk = .ok exit →
      (exit.status = .failure → exit.disk = disk) ∧
      (exit.status = .success → ∃ originalGuid newGuid state,
        readArguments libc argv0 argv = .ok (originalGuid, newGuid) ∧
        substitute originalGuid newGuid disk = .ok state ∧ exit.disk = state.buffer) := by
  intro commits
  have kept := (commits fullDisk "guidsub" fullDiskArguments fullDiskImage _ main_fullDisk).1 rfl
  revert kept
  decide

end Thundermod.Guidsub
