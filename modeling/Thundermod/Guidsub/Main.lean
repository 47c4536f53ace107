import Thundermod.Guidsub.Loop

/-!
# A run of guidsub against the file on disk

The run reads the whole file, substitutes in memory, and opens the same path for
writing only when something was substituted.  Opening for writing truncates the
file; the written bytes reach it when the stream accepts and flushes them.
`Libc` fixes the outcome of every library call of the run.
-/

namespace Thundermod.Guidsub

open Words

/-- The outcome of every library call of one run. -/
structure Libc where
  /-- `uuid_parse`: the sixteen big-endian bytes, or a parse error. -/
  uuidParse : String → Option Uuid
  fopenRead : Bool
  ftell : Bool
  malloc : Bool
  /-- `none` when everything that the file offers is stored, else how many bytes were. -/
  fread : Option Nat
  fopenWrite : Bool
  /-- `none` when all bytes are accepted, else how many were. -/
  fwrite : Option Nat
  /-- `none` when everything buffered is flushed, else how many bytes reach the file. -/
  fclose : Option Nat

/-- One result of `getopt` with the string `f:o:n:?`. -/
inductive GetoptResult where
  | f (optarg : String)
  | o (optarg : String)
  | n (optarg : String)
  | other
  deriving DecidableEq

structure Options where
  fileNameStr : Option String := none
  originalGuidStr : Option String := none
  newGuidStr : Option String := none
  deriving DecidableEq

inductive ExitStatus where
  | success
  | failure
  deriving DecidableEq

/-- What a finished run leaves: its exit code, the file, and the last message printed. -/
structure Exit where
  status : ExitStatus
  disk : List UInt8
  message : String
  deriving DecidableEq

/-- The `getopt` loop; the usage text ends it. -/
def parseOptions : List GetoptResult → Options → Option Options
  | [], options => some options
  | .f optarg :: rest, options => parseOptions rest { options with fileNameStr := some optarg }
  | .o optarg :: rest, options => parseOptions rest { options with originalGuidStr := some optarg }
  | .n optarg :: rest, options => parseOptions rest { options with newGuidStr := some optarg }
  | .other :: _, _ => none

def usage (argv0 : String) : String :=
  "\r\nUsage: " ++ argv0 ++ " -f <filename> -o <original GUID> -n <new GUID>\n\n"

/-- Lines 48 to 99: the two GUIDs to search for and to write, or the error printed. -/
def readArguments (libc : Libc) (argv0 : String) (argv : List GetoptResult) :
    Except String (Uuid × Uuid) :=
  match parseOptions argv {} with
  | none => .error (usage argv0)
  | some options =>
      match options.fileNameStr, options.originalGuidStr, options.newGuidStr with
      | none, _, _ => .error "Error: No filename specified\n"
      | some _, none, _ => .error "Error: Original GUID not specified\n"
      | some _, some _, none => .error "Error: New GUID not specified\n"
      | some _, some originalGuidStr, some newGuidStr =>
          match libc.uuidParse originalGuidStr with
          | none => .error "Error: Failed to parse original GUID\n"
          | some originalGuid =>
              match libc.uuidParse newGuidStr with
              | none => .error "Error: Failed to parse new GUID\n"
              | some newGuid =>
                  .ok (uuidFixEndianness originalGuid, uuidFixEndianness newGuid)

def fail (disk : List UInt8) (message : String) : Exit :=
  ⟨.failure, disk, message⟩

/-- How many bytes `fread` stores; when it fails, at least one byte of the file is missing. -/
def Libc.stored (libc : Libc) (disk : List UInt8) : Nat :=
  match libc.fread with
  | none => disk.length
  | some stored => min stored (disk.length - 1)

/--
`ftell`, `malloc` and `fread` on a file that could be opened.  `fileSize` is the
length of the file, or `(size_t)-1` after a failing `ftell`, a request that no
file can fill; an empty request is no item either.  The first byte stored through
a buffer that was not allocated is a fault; an `fread` that fails before that is
reported like any other.
-/
def readFile (libc : Libc) (disk : List UInt8) : Except Fault (Option (List UInt8)) :=
  if libc.malloc = false ∧ libc.stored disk ≠ 0 then
    .error .nullBuffer
  else if libc.ftell = true ∧ libc.fread = none ∧ disk ≠ [] then
    .ok (some disk)
  else
    .ok none

/-- Lines 139 to 164: truncate the file, write the buffer, and close the stream. -/
def writeFile (libc : Libc) (disk buffer : List UInt8) : Exit :=
  if libc.fopenWrite = false then
    fail disk "Error: Failed to open file for writing\n"
  else
    match libc.fwrite with
    | some accepted =>
        -- The item was not written completely, so at least one byte is missing.
        fail (buffer.take (min accepted (buffer.length - 1)))
          "Error: Failed to write updated file\n"
    | none =>
        -- The result of the final `fclose` is not looked at.
        { status := .success
          disk := match libc.fclose with
            | none => buffer
            | some flushed => buffer.take flushed
          message := "Successfully updated protocol GUID\n" }

/-- Lines 133 to 164: what the run does with the outcome of the loop. -/
def finishRun (libc : Libc) (disk : List UInt8) : Except Fault LoopState → Except Fault Exit
  | .error fault => .error fault
  | .ok state =>
      if state.substituted then
        .ok (writeFile libc disk state.buffer)
      else
        .ok (fail disk "GUID not found in source file. Exiting.\n")

/-- Lines 101 to 164: everything that concerns the file. -/
def processFile (libc : Libc) (originalGuid newGuid : Uuid) (disk : List UInt8) :
    Except Fault Exit :=
  if libc.fopenRead = false then
    .ok (fail disk "Error: Failed to open input file\n")
  else
    match readFile libc disk with
    | .error fault => .error fault
    | .ok none => .ok (fail disk "Error: Failed to read input file\n")
    | .ok (some buffer) => finishRun libc disk (substitute originalGuid newGuid buffer)

def main (libc : Libc) (argv0 : String) (argv : List GetoptResult) (disk : List UInt8) :
    Except Fault Exit :=
  match readArguments libc argv0 argv with
  | .error message => .ok (fail disk message)
  | .ok (originalGuid, newGuid) => processFile libc originalGuid newGuid disk

end Thundermod.Guidsub
