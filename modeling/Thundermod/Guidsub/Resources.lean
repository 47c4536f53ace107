import Thundermod.Guidsub.Commit

/-!
# The stream and the buffer of a run

A run has one stream and one buffer, and one label at its end that closes and frees what
is still held.  Whatever fails, every stream that was opened is closed once, and the
buffer is freed once; nothing is read or written through a stream that is not open.
Nothing checks the buffer: `fread` stores through NULL whenever `malloc` has failed and
there is something to store.
-/

namespace Thundermod.Guidsub

/-! ## Library calls -/

/-- The modes in which the file is opened. -/
inductive OpenMode
  | rb
  | wb
  deriving DecidableEq

/-- The library calls of `main` that concern the stream, the buffer or the user. -/
inductive LibcCall
  | fopen (mode : OpenMode) (opened : Bool)
  | fseek
  | ftell
  | malloc (allocated : Bool)
  | fread (stored : Nat)
  | fwrite
  | fclose
  | free
  | print (message : String)
  deriving DecidableEq

/-- The streams that are open and the blocks that are live, of which there is one at most. -/
structure Resources where
  stream : Bool
  block : Bool
  deriving DecidableEq

/-- What a call does to the resources; a call that misuses them has no result. -/
def Resources.after (resources : Resources) : LibcCall → Option Resources
  | .fopen _ opened => if resources.stream then none else some { resources with stream := opened }
  | .fseek | .ftell => if resources.stream then some resources else none
  | .malloc allocated =>
      if resources.block then none else some { resources with block := allocated }
  | .fread stored =>
      if resources.stream ∧ (resources.block ∨ stored = 0) then some resources else none
  | .fwrite => if resources.stream ∧ resources.block then some resources else none
  | .fclose => if resources.stream then some { resources with stream := false } else none
  | .free => if resources.block then some { resources with block := false } else none
  | .print _ => some resources

/-! ## The run -/

/-- The variables `f` and `buffer`, each NULL or not, and the calls made so far. -/
structure Locals where
  f : Bool := false
  buffer : Bool := false
  calls : List LibcCall := []

def Locals.call (made : LibcCall) (locals : Locals) : Locals :=
  { locals with calls := locals.calls ++ [made] }

/-- `f = fopen(fileNameStr, mode)`. -/
def Locals.openFile (mode : OpenMode) (opened : Bool) (locals : Locals) : Locals :=
  { locals with f := opened }.call (.fopen mode opened)

/-- `fclose(f); f = NULL`. -/
def Locals.closeFile (locals : Locals) : Locals :=
  { locals with f := false }.call .fclose

/-- `buffer = malloc(fileSize)`. -/
def Locals.allocate (allocated : Bool) (locals : Locals) : Locals :=
  { locals with buffer := allocated }.call (.malloc allocated)

/-- What a run leaves, and the calls that it has made. -/
structure Traced where
  exit : Exit
  calls : List LibcCall

/-- The label `fail`, which a successful run comes to as well. -/
def failLabel (locals : Locals) : List LibcCall :=
  let locals := if locals.f then locals.call .fclose else locals
  let locals := if locals.buffer then locals.call .free else locals
  locals.calls

/-- Print the message of the exit and go to the end. -/
def Locals.leave (exit : Exit) (locals : Locals) : Traced :=
  ⟨exit, failLabel (locals.call (.print exit.message))⟩

/-- Lines 139 to 164 with their calls. -/
def writeFileTraced (libc : Libc) (disk buffer : List UInt8) (locals : Locals) : Traced :=
  let locals := locals.openFile .wb libc.fopenWrite
  if libc.fopenWrite = false then
    locals.leave (fail disk "Error: Failed to open file for writing\n")
  else
    let locals := locals.call .fwrite
    match libc.fwrite with
    | some accepted =>
        locals.leave (fail (buffer.take (min accepted (buffer.length - 1)))
          "Error: Failed to write updated file\n")
    | none =>
        locals.leave
          { status := .success
            disk := match libc.fclose with
              | none => buffer
              | some flushed => buffer.take flushed
            message := "Successfully updated protocol GUID\n" }

/-- Lines 133 to 164 with their calls. -/
def finishRunTraced (libc : Libc) (disk : List UInt8) (locals : Locals) :
    Except Fault LoopState → Except Fault Traced
  | .error fault => .error fault
  | .ok state =>
      if state.substituted then
        .ok (writeFileTraced libc disk state.buffer locals)
      else
        .ok (locals.leave (fail disk "GUID not found in source file. Exiting.\n"))

/-- Lines 101 to 164 with their calls. -/
def processFileTraced (libc : Libc) (originalGuid newGuid : Uuid) (disk : List UInt8) :
    Except Fault Traced :=
  let locals : Locals := {}
  let locals := locals.openFile .rb libc.fopenRead
  if libc.fopenRead = false then
    .ok (locals.leave (fail disk "Error: Failed to open input file\n"))
  else
    let locals := ((locals.call .fseek).call .ftell).call .fseek
    let locals := (locals.allocate libc.malloc).call (.fread (libc.stored disk))
    match readFile libc disk with
    | .error fault => .error fault
    | .ok none => .ok (locals.leave (fail disk "Error: Failed to read input file\n"))
    | .ok (some buffer) =>
        finishRunTraced libc disk locals.closeFile (substitute originalGuid newGuid buffer)

/-- `main` with its calls. -/
def mainTraced (libc : Libc) (argv0 : String) (argv : List GetoptResult) (disk : List UInt8) :
    Except Fault Traced :=
  match readArguments libc argv0 argv with
  | .error message =>
      let locals : Locals := {}
      .ok (locals.leave (fail disk message))
  | .ok (originalGuid, newGuid) => processFileTraced libc originalGuid newGuid disk

/-! ## The calls are those of the run -/

theorem writeFileTraced_exit (libc : Libc) (disk buffer : List UInt8) (locals : Locals) :
    (writeFileTraced libc disk buffer locals).exit = writeFile libc disk buffer := by
  unfold writeFileTraced writeFile
  cases libc.fopenWrite
  · rfl
  · cases libc.fwrite <;> rfl

theorem finishRunTraced_exit (libc : Libc) (disk : List UInt8) (locals : Locals)
    (looped : Except Fault LoopState) :
    (finishRunTraced libc disk locals looped).map Traced.exit = finishRun libc disk looped := by
  cases looped with
  | error fault => rfl
  | ok state =>
      unfold finishRunTraced finishRun
      by_cases found : state.substituted = true
      · simp only [if_pos found, Except.map, writeFileTraced_exit]
      · simp only [if_neg found, Except.map, Locals.leave]

theorem processFileTraced_exit (libc : Libc) (originalGuid newGuid : Uuid) (disk : List UInt8) :
    (processFileTraced libc originalGuid newGuid disk).map Traced.exit =
      processFile libc originalGuid newGuid disk := by
  unfold processFileTraced processFile
  by_cases failed : libc.fopenRead = false
  · simp only [if_pos failed, Except.map, Locals.leave]
  · simp only [if_neg failed]
    cases readFile libc disk with
    | error fault => simp only [Except.map]
    | ok read =>
        cases read with
        | none => simp only [Except.map, Locals.leave]
        | some buffer => exact finishRunTraced_exit libc disk _ _

theorem mainTraced_exit (libc : Libc) (argv0 : String) (argv : List GetoptResult)
    (disk : List UInt8) :
    (mainTraced libc argv0 argv disk).map Traced.exit = main libc argv0 argv disk := by
  unfold mainTraced main
  cases readArguments libc argv0 argv with
  | error _ => rfl
  | ok guids => exact processFileTraced_exit libc guids.1 guids.2 disk

/-! ## What is held -/

/-- The calls are all in order, and leave these resources. -/
def Leaves (calls : List LibcCall) (resources : Resources) : Prop :=
  calls.foldlM Resources.after ⟨false, false⟩ = some resources

theorem Leaves.step {calls : List LibcCall} {resources next : Resources} {made : LibcCall}
    (leaves : Leaves calls resources) (allowed : resources.after made = some next) :
    Leaves (calls ++ [made]) next := by
  unfold Leaves at leaves ⊢
  rw [List.foldlM_append, leaves]
  simpa using allowed

namespace Locals

variable {locals : Locals}

/-- A pointer is NULL exactly if nothing is held through it. -/
def Sound (locals : Locals) : Prop :=
  Leaves locals.calls ⟨locals.f, locals.buffer⟩

theorem Sound.start : Sound {} :=
  rfl

theorem Sound.call (sound : locals.Sound) {made : LibcCall}
    (allowed : Resources.after ⟨locals.f, locals.buffer⟩ made =
      some ⟨locals.f, locals.buffer⟩) : (locals.call made).Sound :=
  Leaves.step sound allowed

theorem Sound.openFile (sound : locals.Sound) (closed : locals.f = false) (mode : OpenMode)
    (opened : Bool) : (locals.openFile mode opened).Sound :=
  Leaves.step sound (by rw [closed]; rfl)

theorem Sound.closeFile (sound : locals.Sound) (isOpen : locals.f = true) :
    locals.closeFile.Sound :=
  Leaves.step sound (by rw [isOpen]; rfl)

theorem Sound.allocate (sound : locals.Sound) (free : locals.buffer = false) (allocated : Bool) :
    (locals.allocate allocated).Sound :=
  Leaves.step sound (by rw [free]; rfl)

/-- The label releases whatever is held. -/
theorem Sound.failLabel (sound : locals.Sound) : Leaves (failLabel locals) ⟨false, false⟩ := by
  obtain ⟨f, buffer, calls⟩ := locals
  cases f <;> cases buffer
  · exact sound
  · exact Leaves.step sound rfl
  · exact Leaves.step sound rfl
  · have closed : Leaves (calls ++ [.fclose]) ⟨false, true⟩ := Leaves.step sound rfl
    exact Leaves.step closed rfl

theorem Sound.leave (sound : locals.Sound) (exit : Exit) :
    Leaves (locals.leave exit).calls ⟨false, false⟩ := by
  have printed : (locals.call (.print exit.message)).Sound := sound.call rfl
  exact printed.failLabel

end Locals

theorem writeFileTraced_leaves (libc : Libc) (disk buffer : List UInt8) {locals : Locals}
    (sound : locals.Sound) (closed : locals.f = false) (allocated : locals.buffer = true) :
    Leaves (writeFileTraced libc disk buffer locals).calls ⟨false, false⟩ := by
  have opened := sound.openFile closed .wb libc.fopenWrite
  unfold writeFileTraced
  by_cases failed : libc.fopenWrite = false
  · rw [if_pos failed]
    exact opened.leave _
  · have written : ((locals.openFile .wb libc.fopenWrite).call .fwrite).Sound := by
      refine opened.call ?_
      rw [show (locals.openFile .wb libc.fopenWrite).buffer = true from allocated,
        show (locals.openFile .wb libc.fopenWrite).f = true from eq_true_of_ne_false failed]
      rfl
    rw [if_neg failed]
    cases libc.fwrite with
    | none => exact written.leave _
    | some _ => exact written.leave _

theorem readFile_error_iff {libc : Libc} {disk : List UInt8} {fault : Fault} :
    readFile libc disk = .error fault ↔
      fault = .nullBuffer ∧ libc.malloc = false ∧ libc.stored disk ≠ 0 := by
  unfold readFile
  split
  · next unusable => simp [unusable, eq_comm]
  · next usable =>
      refine iff_of_false ?_ fun failed => usable failed.2
      split
      · exact nofun
      · exact nofun

/-- A read that fills the buffer stores the whole file. -/
theorem stored_of_readFile {libc : Libc} {disk buffer : List UInt8}
    (reads : readFile libc disk = .ok (some buffer)) : libc.stored disk = disk.length := by
  unfold readFile at reads
  split at reads
  · cases reads
  · split at reads
    · next filled => simp only [Libc.stored, filled.2.1]
    · cases reads

/-- Where the run goes on, there is a buffer or nothing has been stored. -/
theorem malloc_of_readFile {libc : Libc} {disk : List UInt8} {read : Option (List UInt8)}
    (reads : readFile libc disk = .ok read) :
    libc.malloc = true ∨ libc.stored disk = 0 := by
  by_contra unusable
  rw [not_or, Bool.not_eq_true] at unusable
  rw [readFile_error_iff.mpr ⟨rfl, unusable⟩] at reads
  cases reads

/-- The stream is open, and what is read goes to the buffer. -/
theorem Locals.Sound.fread {locals : Locals} (sound : locals.Sound) (isOpen : locals.f = true)
    (stored : Nat) (room : locals.buffer = true ∨ stored = 0) :
    (locals.call (.fread stored)).Sound := by
  refine sound.call ?_
  rw [Resources.after, if_pos ⟨isOpen, room⟩]

/-- `fseek` and `ftell`, and the buffer for what they have found. -/
theorem Locals.Sound.measure {locals : Locals} (sound : locals.Sound) (isOpen : locals.f = true)
    (free : locals.buffer = false) (allocated : Bool) :
    ((((locals.call .fseek).call .ftell).call .fseek).allocate allocated).Sound := by
  have first : (locals.call .fseek).Sound := sound.call (if_pos isOpen)
  have second : ((locals.call .fseek).call .ftell).Sound := first.call (if_pos isOpen)
  have third : (((locals.call .fseek).call .ftell).call .fseek).Sound :=
    second.call (if_pos isOpen)
  exact third.allocate free allocated

theorem finishRunTraced_leaves {libc : Libc} {disk : List UInt8} {locals : Locals}
    {looped : Except Fault LoopState} {traced : Traced} (sound : locals.Sound)
    (closed : locals.f = false) (allocated : locals.buffer = true)
    (run : finishRunTraced libc disk locals looped = .ok traced) :
    Leaves traced.calls ⟨false, false⟩ := by
  cases looped with
  | error fault => cases run
  | ok state =>
      by_cases found : state.substituted = true
      · have written : finishRunTraced libc disk locals (.ok state) =
            .ok (writeFileTraced libc disk state.buffer locals) := if_pos found
        rw [written] at run
        obtain rfl := Except.ok.inj run
        exact writeFileTraced_leaves libc disk state.buffer sound closed allocated
      · have missing : finishRunTraced libc disk locals (.ok state) =
            .ok (locals.leave (fail disk "GUID not found in source file. Exiting.\n")) :=
          if_neg found
        rw [missing] at run
        obtain rfl := Except.ok.inj run
        exact sound.leave _

theorem processFileTraced_leaves {libc : Libc} {originalGuid newGuid : Uuid} {disk : List UInt8}
    {traced : Traced} (run : processFileTraced libc originalGuid newGuid disk = .ok traced) :
    Leaves traced.calls ⟨false, false⟩ := by
  have opened : (Locals.openFile .rb libc.fopenRead {}).Sound :=
    Locals.Sound.start.openFile rfl .rb libc.fopenRead
  unfold processFileTraced at run
  by_cases failed : libc.fopenRead = false
  · rw [if_pos failed] at run
    obtain rfl := Except.ok.inj run
    exact opened.leave _
  · have isOpen : (Locals.openFile .rb libc.fopenRead {}).f = true := eq_true_of_ne_false failed
    have ready := opened.measure isOpen rfl libc.malloc
    rw [if_neg failed] at run
    cases reads : readFile libc disk with
    | error fault =>
        simp only [reads] at run
        cases run
    | ok read =>
        have room := malloc_of_readFile reads
        have filled := ready.fread isOpen (libc.stored disk) room
        cases read with
        | none =>
            simp only [reads] at run
            obtain rfl := Except.ok.inj run
            exact filled.leave _
        | some buffer =>
            have allocated : libc.malloc = true := by
              refine room.resolve_right ?_
              rw [stored_of_readFile reads]
              exact (List.length_pos_iff.mpr (readFile_some reads).2).ne'
            simp only [reads] at run
            exact finishRunTraced_leaves (filled.closeFile isOpen) rfl allocated run

/-! ## The buffer that is not there -/

/-- The loop has its own faults: the buffer that it works on has been read into. -/
theorem substitutionLoop_ne_nullBuffer {originalGuid newGuid : Uuid} {fileSize pos : Nat}
    {state : LoopState} :
    substitutionLoop originalGuid newGuid fileSize pos state ≠ .error .nullBuffer := by
  fun_induction substitutionLoop originalGuid newGuid fileSize pos state with
  | case1 pos state below room body noOverflow ih => exact ih
  | case2 => simp
  | case3 => simp
  | case4 => simp

theorem substitute_ne_nullBuffer {originalGuid newGuid : Uuid} {buffer : List UInt8} :
    substitute originalGuid newGuid buffer ≠ .error .nullBuffer :=
  substitutionLoop_ne_nullBuffer

theorem finishRun_ne_nullBuffer {libc : Libc} {disk : List UInt8}
    {looped : Except Fault LoopState} (other : looped ≠ .error .nullBuffer) :
    finishRun libc disk looped ≠ .error .nullBuffer := by
  cases looped with
  | error fault => exact fun same => other (congrArg Except.error (Except.error.inj same))
  | ok state =>
      by_cases found : state.substituted = true
      · simp [finishRun, found]
      · simp [finishRun, found]

theorem processFile_nullBuffer_iff {libc : Libc} {originalGuid newGuid : Uuid}
    {disk : List UInt8} :
    processFile libc originalGuid newGuid disk = .error .nullBuffer ↔
      libc.fopenRead = true ∧ libc.malloc = false ∧ libc.stored disk ≠ 0 := by
  unfold processFile
  cases opened : libc.fopenRead with
  | false => simp
  | true =>
      cases reads : readFile libc disk with
      | error fault =>
          obtain ⟨rfl, unusable⟩ := readFile_error_iff.mp reads
          simp [unusable]
      | ok read =>
          have usable : ¬ (libc.malloc = false ∧ libc.stored disk ≠ 0) := by
            intro unusable
            rw [readFile_error_iff.mpr ⟨rfl, unusable⟩] at reads
            cases reads
          refine iff_of_false ?_ fun failed => usable failed.2
          cases read with
          | none => simp
          | some buffer => simpa using finishRun_ne_nullBuffer substitute_ne_nullBuffer

/--
On every path of `main` that ends, the calls are in order: each stream is closed once,
none is opened over another one, the buffer is freed once if it was allocated, and
nothing is used that is not there.  What the run returns is what `main` returns.  It is
ended by a store through the missing buffer exactly if `malloc` has failed for a file that
`fread` then stores some byte of.
-/
theorem main_releases (libc : Libc) (argv0 : String) (argv : List GetoptResult)
    (disk : List UInt8) :
    (mainTraced libc argv0 argv disk).map Traced.exit = main libc argv0 argv disk ∧
      (∀ traced, mainTraced libc argv0 argv disk = .ok traced →
        Leaves traced.calls ⟨false, false⟩) ∧
      (main libc argv0 argv disk = .error .nullBuffer ↔
        (∃ guids, readArguments libc argv0 argv = .ok guids) ∧
          libc.fopenRead = true ∧ libc.malloc = false ∧ libc.stored disk ≠ 0) := by
  refine ⟨mainTraced_exit libc argv0 argv disk, fun traced run => ?_, ?_⟩
  · unfold mainTraced at run
    cases arguments : readArguments libc argv0 argv with
    | error message =>
        simp only [arguments] at run
        obtain rfl := Except.ok.inj run
        exact Locals.Sound.start.leave _
    | ok guids =>
        simp only [arguments] at run
        exact processFileTraced_leaves run
  · unfold main
    cases arguments : readArguments libc argv0 argv with
    | error message => simp
    | ok guids => simp [processFile_nullBuffer_iff]

/-- Library calls that fail for want of memory; nothing is stored through the missing buffer. -/
def exhausted : Libc :=
  { fullDisk with
    malloc := false
    fread := some 0 }

example : main exhausted "guidsub" fullDiskArguments fullDiskImage =
    .ok (fail fullDiskImage "Error: Failed to read input file\n") :=
  rfl

/-- The run on a full disk, which fails behind the second `fopen`. -/
theorem main_releases_fullDisk :
    ∃ traced, mainTraced fullDisk "guidsub" fullDiskArguments fullDiskImage = .ok traced ∧
      Leaves traced.calls ⟨false, false⟩ := by
  obtain ⟨same, released, _⟩ :=
    main_releases fullDisk "guidsub" fullDiskArguments fullDiskImage
  rw [main_fullDisk] at same
  cases run : mainTraced fullDisk "guidsub" fullDiskArguments fullDiskImage with
  | error _ =>
      rw [run] at same
      cases same
  | ok traced => exact ⟨traced, rfl, released traced run⟩

end Thundermod.Guidsub
