import Mathlib.Data.List.Permutation
import Thundermod.Control.Run
import Thundermod.Guidsub.Laws
import Thundermod.Guidsub.Main
import Thundermod.Words.Fusion

/-!
# The runs that prepare the driver image

The image of the PCI bus driver goes through one run for each protocol GUID.  Runs for
unrelated pairs can come in any order, and each of them reports what it would report on
the original file.
-/

namespace Thundermod.Guidsub

open Words

/-! ## Runs on a file -/

/-- Every library call of a run succeeds. -/
structure Libc.Works (libc : Libc) : Prop where
  fopenRead : libc.fopenRead = true
  ftell : libc.ftell = true
  malloc : libc.malloc = true
  fread : libc.fread = none
  fopenWrite : libc.fopenWrite = true
  fwrite : libc.fwrite = none
  fclose : libc.fclose = none

/-- A GUID and its substitute. -/
abbrev GuidPair := Uuid × Uuid

/-- What a run makes of a file of the given size. -/
def substituted (size : Nat) (file : List UInt8) (pair : GuidPair) : List UInt8 :=
  (scanned pair.1 pair.2 file (size - 16)).buffer

/-- What a run reports: whether the GUID is anywhere but at the very end of the file. -/
def report (size : Nat) (file : List UInt8) (pair : GuidPair) : ExitStatus :=
  if ∃ offset < size - 16, OccursAt pair.1.bytes file offset then .success else .failure

/-- The tool runs on one file for each pair in turn. -/
def runAll (libc : Libc) (pairs : List GuidPair) (file : List UInt8) :
    Except Fault (List UInt8 × List ExitStatus) :=
  Control.serve (fun file pair => (processFile libc pair.1 pair.2 file).map fun exit =>
    (exit.disk, exit.status)) file pairs

theorem length_substituted (size : Nat) (file : List UInt8) (pair : GuidPair) :
    (substituted size file pair).length = file.length :=
  length_scanned pair.1 pair.2 file (size - 16)

/-- A run does what its scan does, and reports whether the scan has found anything. -/
theorem processFile_of_works {libc : Libc} (works : libc.Works) (pair : GuidPair)
    {file : List UInt8} (lower : 16 ≤ file.length) (upper : file.length < 2 ^ 31) :
    ∃ exit, processFile libc pair.1 pair.2 file = .ok exit ∧
      exit.disk = substituted file.length file pair ∧
      exit.status = report file.length file pair := by
  have nonempty : file ≠ [] := List.ne_nil_of_length_pos (by omega)
  have reads : readFile libc file = .ok (some file) := by
    simp [readFile, works.malloc, works.ftell, works.fread, nonempty]
  have runs : processFile libc pair.1 pair.2 file = finishRun libc file
      (.ok (.ofScan (scanned pair.1 pair.2 file (file.length - 16)))) := by
    simp only [processFile, works.fopenRead, reads, substitute_eq_scanned pair.1 pair.2 lower upper]
    rfl
  have nothing : (scanned pair.1 pair.2 file (file.length - 16)).written = [] ↔
      ∀ offset < file.length - 16, ¬ OccursAt pair.1.bytes file offset := written_eq_nil_iff
  rw [runs, finishRun]
  by_cases found : ∃ offset < file.length - 16, OccursAt pair.1.bytes file offset
  · have written : (LoopState.ofScan
        (scanned pair.1 pair.2 file (file.length - 16))).substituted = true := by
      rw [ofScan_substituted, Ne, nothing]
      exact fun absent => found.elim fun offset ⟨below, occurs⟩ => absent offset below occurs
    rw [if_pos written, writeFile, works.fopenWrite, works.fwrite, works.fclose]
    exact ⟨_, rfl, rfl, (if_pos found).symm⟩
  · have unwritten : (scanned pair.1 pair.2 file (file.length - 16)).written = [] := by
      rw [nothing]
      exact fun offset below occurs => found ⟨offset, below, occurs⟩
    have idle : ¬ (LoopState.ofScan
        (scanned pair.1 pair.2 file (file.length - 16))).substituted = true := by
      rw [ofScan_substituted, unwritten]
      exact fun different => different rfl
    have same : substituted file.length file pair = file := by
      rw [substituted, scanned, scan_buffer]
      exact congrArg (replaceAt pair.2.bytes file) unwritten
    rw [if_neg idle, same]
    exact ⟨_, rfl, rfl, (if_neg found).symm⟩

/-- The reports of the runs, each on the file that the runs before it have left. -/
def reports (size : Nat) : List GuidPair → List UInt8 → List ExitStatus
  | [], _ => []
  | pair :: pairs, file => report size file pair :: reports size pairs (substituted size file pair)

section Sized

variable {libc : Libc} {size : Nat} (lower : 16 ≤ size) (upper : size < 2 ^ 31)

include lower upper in
theorem runAll_eq (works : libc.Works) (pairs : List GuidPair) {file : List UInt8}
    (length : file.length = size) :
    runAll libc pairs file =
      .ok (pairs.foldl (substituted size) file, reports size pairs file) := by
  induction pairs generalizing file with
  | nil => rfl
  | cons pair rest ih =>
      subst length
      obtain ⟨exit, runs, disk, status⟩ := processFile_of_works works pair lower upper
      have others := ih (length_substituted file.length file pair)
      refine Control.serve_cons_ok ?_ others
      rw [runs, ← disk, ← status]
      rfl

/-! ## Unrelated runs -/

/-- Two runs that cannot disturb one another. -/
def UnrelatedPairs (first second : GuidPair) : Prop :=
  UnrelatedGuids first.1 first.2 second.1 second.2

theorem UnrelatedPairs.symm {first second : GuidPair} (unrelated : UnrelatedPairs first second) :
    UnrelatedPairs second first :=
  Unrelated.symm unrelated

theorem substituted_comm {first second : GuidPair} (unrelated : UnrelatedPairs first second)
    (file : List UInt8) :
    substituted size (substituted size file first) second =
      substituted size (substituted size file second) first :=
  scan_comm first.1.length_pos (second.1.length_eq first.1) (first.2.length_eq first.1)
    (second.2.length_eq first.1) unrelated file (size - 16) (size - 16)

/-- A run for an unrelated pair does not change what is reported. -/
theorem report_substituted {first second : GuidPair} (unrelated : UnrelatedPairs first second)
    (file : List UInt8) :
    report size (substituted size file second) first = report size file first := by
  have same (offset : Nat) := occursAt_scan_iff first.1.length_pos (second.1.length_eq first.1)
    (second.2.length_eq first.1) unrelated file (size - 16) offset
  simp only [report, substituted, scanned, same]

theorem reports_of_unrelated {pairs : List GuidPair} (unrelated : pairs.Pairwise UnrelatedPairs)
    (file : List UInt8) : reports size pairs file = pairs.map (report size file) := by
  induction unrelated generalizing file with
  | nil => rfl
  | cons apart _ ih =>
      rw [reports, ih, List.map_cons, List.cons.injEq]
      refine ⟨rfl, List.map_congr_left fun other member => ?_⟩
      exact report_substituted (apart other member).symm file

/-- Unrelated runs can be made in any order. -/
theorem foldl_substituted_perm {pairs order : List GuidPair} (perm : order.Perm pairs)
    (unrelated : pairs.Pairwise UnrelatedPairs) (file : List UInt8) :
    order.foldl (substituted size) file = pairs.foldl (substituted size) file := by
  let Commute (first second : GuidPair) : Prop := ∀ file,
    substituted size (substituted size file first) second =
      substituted size (substituted size file second) first
  have symm : Std.Symm Commute := ⟨fun _ _ commute file => (commute file).symm⟩
  have commute : ∀ first ∈ pairs, ∀ second ∈ pairs, Commute first second :=
    List.Pairwise.forall_of_forall (fun _ _ _ => rfl)
      (unrelated.imp fun unrelated file => substituted_comm unrelated file)
  exact (perm.symm.foldl_eq' (fun first member second member' file =>
    commute first member second member' file) file).symm

end Sized

/--
Runs for pairwise unrelated pairs leave the same file in every order, and each of them
reports what it would report on the original file.
-/
theorem unrelated_runs_in_any_order (libc : Libc) (works : libc.Works) (pairs order : List GuidPair)
    (perm : order.Perm pairs) (unrelated : pairs.Pairwise UnrelatedPairs) (file : List UInt8)
    (lower : 16 ≤ file.length) (upper : file.length < 2 ^ 31) :
    ∃ image, runAll libc pairs file = .ok (image, pairs.map (report file.length file)) ∧
      runAll libc order file = .ok (image, order.map (report file.length file)) := by
  have unrelated' := perm.symm.pairwise unrelated fun unrelated => UnrelatedPairs.symm unrelated
  refine ⟨pairs.foldl (substituted file.length) file, ?_, ?_⟩
  · rw [runAll_eq lower upper works pairs rfl, reports_of_unrelated unrelated]
  · rw [runAll_eq lower upper works order rfl, reports_of_unrelated unrelated',
      foldl_substituted_perm perm unrelated]

/-- A library that never fails. -/
def workingLibc : Libc where
  uuidParse := fun _ => none
  fopenRead := true
  ftell := true
  malloc := true
  fread := none
  fopenWrite := true
  fwrite := none
  fclose := none

theorem workingLibc_works : workingLibc.Works :=
  ⟨rfl, rfl, rfl, rfl, rfl, rfl, rfl⟩

/-! ## Two unrelated pairs -/

def driverBindingPair : GuidPair :=
  (efiDriverBindingProtocolGuid, driverBindingProtocolSubstituteGuid)

def resourceAllocationPair : GuidPair :=
  (efiPciHostBridgeResourceAllocationProtocolGuid, pciHostBrgResAllocProtocolSubstituteGuid)

theorem unrelated_driverBinding : UnrelatedPairs driverBindingPair resourceAllocationPair := by
  unfold UnrelatedPairs
  decide

/-- The two runs on a file with only one of the GUIDs in it. -/
theorem unrelated_runs_in_any_order_two :
    ∃ image,
      runAll workingLibc [driverBindingPair, resourceAllocationPair]
        (efiDriverBindingProtocolGuid.bytes ++ [0]) = .ok (image, [.success, .failure]) ∧
      runAll workingLibc [resourceAllocationPair, driverBindingPair]
        (efiDriverBindingProtocolGuid.bytes ++ [0]) = .ok (image, [.failure, .success]) :=
  unrelated_runs_in_any_order workingLibc workingLibc_works _ _ (List.Perm.swap _ _ _)
    (List.pairwise_pair.mpr unrelated_driverBinding) (efiDriverBindingProtocolGuid.bytes ++ [0])
    (by decide) (by decide)

end Thundermod.Guidsub
