/-
# The display level only selects messages

Two command lines that differ in their level flags only make the program do the same: it
calls the compiler in the same way, if at all, and ends with the same code, the same output
and the same disk. The log is the same too, and of its messages the lower level shows those
that are its own among those of the higher one. No message of a run is as loud as level 0. A
corpus whose path leads to the standard error of the program comes there among the messages,
at every level.

Key definitions: `Harness.call?`, `Program.call?`, `Program.messages`, `Program.Ended.Hears`.
Key theorems: `Program.execute_congr_call?`, `Program.level_of_execute`,
`Program.level_selects`, `Program.corpus_among_errors`.
-/
import StressBench.Proofs.CommandLine.Levels
import StressBench.Proofs.Program.Ending

namespace StressBench

theorem Message.shown_of_le {level level' : Nat} (h : level ≤ level') (log : List Message) :
    shown level log = (shown level' log).filter fun m => m.level ≤ level := by
  unfold shown
  rw [List.filter_filter]
  refine List.filter_congr fun m _ => ?_
  by_cases hm : m.level ≤ level
  · have hm' : m.level ≤ level' := Nat.le_trans hm h
    simp [hm, hm']
  · simp [hm]

namespace Harness

variable (launch other : Launcher) (config : Config) (drawn : UInt64) (cwd : Location) (d : Disk)

/-! ### The call of the compiler -/

/-- The call of the compiler in a run, and the disk that the compiler finds. There is none
without a corpus. -/
def call? : Option (Disk × Invocation) :=
  let written := writeScratch config drawn cwd d
  match written.result with
  | .error _ => none
  | .ok _ => some (written.disk, invocation config)

variable {launch other config drawn cwd d}

theorem run_congr_call? (h : ∀ disk i, call? config drawn cwd d = some (disk, i) →
    other cwd disk i = launch cwd disk i) :
    run other config drawn cwd d = run launch config drawn cwd d := by
  unfold call? at h
  unfold run
  dsimp only at h ⊢
  rcases hresult : (writeScratch config drawn cwd d).result with e | written
  · rfl
  · rw [hresult] at h
    rw [h _ _ rfl]

/-! ### How loud the messages are -/

theorem level_of_writeScratch : ∀ m ∈ (writeScratch config drawn cwd d).log, 1 ≤ m.level := by
  unfold writeScratch
  split
  · intro m hm
    cases hm
  · simp

theorem level_of_generate : ∀ m ∈ (generate config drawn cwd d).log, 1 ≤ m.level := by
  have hwritten := @level_of_writeScratch config drawn cwd d
  unfold generate
  dsimp only
  split
  · exact hwritten
  · simpa [or_imp, forall_and] using hwritten

theorem level_of_run : ∀ m ∈ (run launch config drawn cwd d).log, 1 ≤ m.level := by
  have hwritten := @level_of_writeScratch config drawn cwd d
  unfold run
  dsimp only
  split
  · simpa using hwritten
  · unfold settle announce
    split <;> simpa [or_imp, forall_and] using hwritten

end Harness

namespace Program

open CommandLine

variable {launch other : Launcher} {s : Surroundings} {a a' : Args} {config : Config}
  {drawn : UInt64} {cwd : Location} {d : Disk}

/-! ### From the arguments -/

/-- The call of the compiler that the program makes, and the disk that the compiler finds. -/
def call? (s : Surroundings) (a : Args) (drawn : UInt64) (cwd : Location) (d : Disk) :
    Option (Disk × Invocation) :=
  match a.toConfig s with
  | .error _ => none
  | .ok c => if a.generateOnly then none else Harness.call? c drawn cwd d

/-- The messages that the program shows. -/
def messages (launch : Launcher) (s : Surroundings) (a : Args) (drawn : UInt64) (cwd : Location)
    (d : Disk) : List Message :=
  Message.shown a.displayLevel (execute launch s a drawn cwd d).log

/-- What the program does hangs on the compiler in this call only. -/
theorem execute_congr_call? (h : ∀ disk i, call? s a drawn cwd d = some (disk, i) →
    other cwd disk i = launch cwd disk i) :
    execute other s a drawn cwd d = execute launch s a drawn cwd d := by
  unfold call? at h
  unfold execute
  split
  · rfl
  · next c hconfig =>
    rw [hconfig] at h
    cases hmode : a.generateOnly with
    | true => rfl
    | false =>
      simp only [hmode, Bool.false_eq_true, if_false] at h ⊢
      unfold benchmark
      rw [Harness.run_congr_call? h]

theorem execute_bare : execute launch s a.bare drawn cwd d = execute launch s a drawn cwd d := rfl

theorem call?_bare : call? s a.bare drawn cwd d = call? s a drawn cwd d := rfl

/-! ### How loud the messages are -/

theorem level_of_generate : ∀ m ∈ (generate config drawn cwd d).log, 1 ≤ m.level := by
  have hmade := @Harness.level_of_generate config drawn cwd d
  unfold generate fatal
  dsimp only
  split <;> simpa [or_imp, forall_and] using hmade

theorem level_of_cleanupLog (r : Report) : ∀ m ∈ cleanupLog r, 1 ≤ m.level := by
  unfold cleanupLog
  split <;> simp

theorem level_of_outputLog (o : Output) : ∀ m ∈ outputLog o, 1 ≤ m.level := by
  unfold outputLog
  split <;> split <;> simp

theorem level_of_benchmark : ∀ m ∈ (benchmark launch config drawn cwd d).log, 1 ≤ m.level := by
  have hmade := @Harness.level_of_run launch config drawn cwd d
  have hfatal (f : Failure) : ∀ m ∈ [fatal f], 1 ≤ m.level := by simp [fatal]
  unfold benchmark
  dsimp only
  split
  · exact List.forall_mem_append.mpr ⟨hmade, hfatal _⟩
  · next report _ =>
    have hlog := List.forall_mem_append.mpr ⟨hmade, level_of_cleanupLog report⟩
    split
    · exact List.forall_mem_append.mpr ⟨hlog, hfatal _⟩
    · exact List.forall_mem_append.mpr ⟨hlog, level_of_outputLog _⟩

theorem level_of_execute (h : a.toConfig s = .ok config) :
    ∀ m ∈ (execute launch s a drawn cwd d).log, 1 ≤ m.level := by
  rw [execute_of_config h]
  split
  · exact level_of_generate
  · exact level_of_benchmark

theorem stderr_of_quiet {argv : List Bytes} (h : parse argv = .ok a) (hlevel : a.displayLevel = 0)
    (hconfig : a.toConfig s = .ok config) : (run launch s argv drawn cwd d).stderr = "" := by
  have hnone : Message.shown 0 (execute launch s a drawn cwd d).log = [] := by
    refine List.filter_eq_nil_iff.mpr fun m hm hle => ?_
    have hone := level_of_execute hconfig m hm
    simp at hle
    omega
  rw [run_of_parse h]
  show Message.render a.displayLevel _ = ""
  rw [hlevel, Message.render, hnone]
  rfl

/-! ### What comes to the standard error -/

theorem render_append (level : Nat) (log log' : List Message) :
    Message.render level (log ++ log') = Message.render level log ++ Message.render level log' := by
  unfold Message.render Message.shown
  rw [List.filter_append, List.map_append, String.join_append]

/-- What comes to the standard error is what the program prints there, with some bytes among
it that were passed on. -/
def Ended.Hears (e : Ended) (passed : Bytes) : Prop :=
  ∃ front back : String, e.stderr = front ++ back ∧
    e.errors = Utf8.encode front.toList ++ passed ++ Utf8.encode back.toList

theorem hears_of_parse {argv : List Bytes} (h : parse argv = .ok a) :
    (run launch s argv drawn cwd d).Hears ((execute launch s a drawn cwd d).passedTo 2) := by
  rw [run_of_parse h]
  refine ⟨_, _, ?_, rfl⟩
  rw [← render_append, List.take_append_drop]

/-- Where nothing is printed, nothing but what was passed on is heard. -/
theorem Ended.Hears.errors_eq {e : Ended} {passed : Bytes} (h : e.Hears passed)
    (hnone : e.stderr = "") : e.errors = passed := by
  obtain ⟨front, back, hprinted, herrors⟩ := h
  obtain ⟨rfl, rfl⟩ := String.append_eq_empty_iff.mp (hprinted.symm.trans hnone)
  simpa [Utf8.encode] using herrors

/-! ### Two levels -/

/-- Where the same is done, only the messages can be different. -/
theorem run_of_execute_eq {argv argv' : List Bytes} (h : parse argv = .ok a)
    (h' : parse argv' = .ok a')
    (hexecute : execute launch s a drawn cwd d = execute launch s a' drawn cwd d) :
    (run launch s argv drawn cwd d).exitCode = (run launch s argv' drawn cwd d).exitCode ∧
      (run launch s argv drawn cwd d).stdout = (run launch s argv' drawn cwd d).stdout ∧
      (run launch s argv drawn cwd d).disk = (run launch s argv' drawn cwd d).disk ∧
      (run launch s argv drawn cwd d).output = (run launch s argv' drawn cwd d).output := by
  rw [run_of_parse h, run_of_parse h', hexecute]
  exact ⟨rfl, rfl, rfl, rfl⟩

theorem stderr_of_parse {argv : List Bytes} (h : parse argv = .ok a) :
    (run launch s argv drawn cwd d).stderr =
      String.join ((messages launch s a drawn cwd d).map Message.text) := by
  rw [run_of_parse h]
  rfl

theorem messages_of_le
    (hexecute : execute launch s a drawn cwd d = execute launch s a' drawn cwd d)
    (hle : a.displayLevel ≤ a'.displayLevel) : messages launch s a drawn cwd d =
      (messages launch s a' drawn cwd d).filter fun m => m.level ≤ a.displayLevel := by
  unfold messages
  rw [hexecute]
  exact Message.shown_of_le hle _

/-- **The display level only selects messages.** The two command lines differ in their level
flags only. All that the program does hangs on what the compiler does in one call, which is the
same for both. What comes to the standard error besides the messages is the same too: nothing,
or the corpus if its path leads there. -/
theorem level_selects {argv argv' : List Bytes} (h : parse argv = .ok a)
    (h' : parse argv' = .ok a')
    (hflags : withoutLevelFlags argv.tail = withoutLevelFlags argv'.tail) (launch : Launcher)
    (s : Surroundings) (drawn : UInt64) (cwd : Location) (d : Disk) :
    let ended := run launch s argv drawn cwd d
    let ended' := run launch s argv' drawn cwd d
    let shown := messages launch s a drawn cwd d
    let shown' := messages launch s a' drawn cwd d
    ended.exitCode = ended'.exitCode ∧ ended.stdout = ended'.stdout ∧
    call? s a drawn cwd d = call? s a' drawn cwd d ∧ ended.disk = ended'.disk ∧
    ended.stderr = String.join (shown.map Message.text) ∧
    ended'.stderr = String.join (shown'.map Message.text) ∧
    (a.displayLevel ≤ a'.displayLevel →
      shown.Sublist shown' ∧ shown = shown'.filter fun m => m.level ≤ a.displayLevel) ∧
    (a.displayLevel = 0 → (∃ config, a.toConfig s = .ok config) → ended.stderr = "") ∧
    ended.output = ended'.output ∧
    (∃ passed, ended.Hears passed ∧ ended'.Hears passed ∧
      (∀ config, a.toConfig s = .ok config →
        (d.OpensDevice cwd config.scratchPath (.stream 2) →
          passed = (Harness.corpus config drawn).bytes) ∧
        (¬d.OpensDevice cwd config.scratchPath (.stream 2) → passed = [])) ∧
      (a.displayLevel = 0 → (∃ config, a.toConfig s = .ok config) → ended.errors = passed)) ∧
    ∀ other : Launcher,
      (∀ disk i, call? s a drawn cwd d = some (disk, i) →
        other cwd disk i = launch cwd disk i) →
      run other s argv drawn cwd d = ended ∧ run other s argv' drawn cwd d = ended' := by
  have hbare : a.bare = a'.bare := bare_eq_of_withoutLevelFlags h h' hflags
  have hexecute : execute launch s a drawn cwd d = execute launch s a' drawn cwd d := by
    rw [← execute_bare, hbare, execute_bare]
  have hcall : call? s a drawn cwd d = call? s a' drawn cwd d := by
    rw [← call?_bare, hbare, call?_bare]
  obtain ⟨hcode, hout, hdisk, houtput⟩ := run_of_execute_eq h h' hexecute
  have hshown := @messages_of_le launch s a a' drawn cwd d hexecute
  have hquiet : a.displayLevel = 0 → (∃ config, a.toConfig s = .ok config) →
      (run launch s argv drawn cwd d).stderr = "" := by
    rintro hlevel ⟨config, hconfig⟩
    exact stderr_of_quiet h hlevel hconfig
  have hhears := @hears_of_parse launch s a drawn cwd d argv h
  have hhears' := @hears_of_parse launch s a' drawn cwd d argv' h'
  rw [← hexecute] at hhears'
  have hpassed : ∀ config, a.toConfig s = .ok config →
      (d.OpensDevice cwd config.scratchPath (.stream 2) →
        (execute launch s a drawn cwd d).passedTo 2 = (Harness.corpus config drawn).bytes) ∧
      (¬d.OpensDevice cwd config.scratchPath (.stream 2) →
        (execute launch s a drawn cwd d).passedTo 2 = []) := by
    intro config hconfig
    exact passedTo_execute hconfig (minLines_le_of_toConfig h hconfig) 2
  refine ⟨hcode, hout, hcall, hdisk, stderr_of_parse h, stderr_of_parse h',
    fun hle => ⟨?_, hshown hle⟩, hquiet, houtput,
    ⟨_, hhears, hhears', hpassed, fun hlevel hconfig => hhears.errors_eq (hquiet hlevel hconfig)⟩,
    fun other hother => ⟨?_, ?_⟩⟩
  · rw [hshown hle]
    exact List.filter_sublist
  · rw [run_of_parse h, run_of_parse h, execute_congr_call? hother]
  · rw [run_of_parse h', run_of_parse h', execute_congr_call? (hcall ▸ hother)]

/-- Command lines for three lines, with the levels 0 and 3. -/
def quietArgv : List Bytes :=
  ["sasm-stress", "3", "-qq"].map fun arg => Utf8.encode arg.toList

def verboseArgv : List Bytes :=
  ["sasm-stress", "--verbose", "3"].map fun arg => Utf8.encode arg.toList

/-- The quiet one shows nothing, and ends as the other one does. -/
theorem quiet_selects : ∃ a a', parse quietArgv = .ok a ∧ parse verboseArgv = .ok a' ∧
    withoutLevelFlags quietArgv.tail = withoutLevelFlags verboseArgv.tail ∧
    a.displayLevel = 0 ∧ a'.displayLevel = 3 ∧
    (run Launch.call atRoot quietArgv 42 [] Harness.nullDisk).exitCode =
      (run Launch.call atRoot verboseArgv 42 [] Harness.nullDisk).exitCode ∧
    (run Launch.call atRoot quietArgv 42 [] Harness.nullDisk).stderr = "" := by
  have h : parse quietArgv =
      .ok ⟨3, none, none, none, none, none, false, false, 0, 2⟩ := rfl
  have h' : parse verboseArgv =
      .ok ⟨3, none, none, none, none, none, false, false, 1, 0⟩ := rfl
  have hflags : withoutLevelFlags quietArgv.tail = withoutLevelFlags verboseArgv.tail := rfl
  obtain ⟨hcode, -, -, -, -, -, -, hquiet, -⟩ :=
    level_selects h h' hflags Launch.call atRoot 42 [] Harness.nullDisk
  exact ⟨_, _, h, h', hflags, rfl, rfl, hcode, hquiet rfl ⟨_, rfl⟩⟩

/-- A disk on which `n` is the standard error of the program. -/
def errorsDisk : Disk where
  entries := [([[0x6E]], .device (.stream 2))]

/-- A command line for a corpus that is left at `/n`, with the level 0. -/
def silentArgv : List Bytes :=
  leavingArgv ++ [Utf8.encode "-qq".toList]

/-- **A corpus is heard at level 0.** It was to be written to the standard error. -/
theorem corpus_among_errors : ∃ a, parse silentArgv = .ok a ∧ a.displayLevel = 0 ∧
    a.toConfig atRoot = .ok deviceConfig ∧
    (run Launch.call atRoot silentArgv 42 [] errorsDisk).stderr = "" ∧
    (run Launch.call atRoot silentArgv 42 [] errorsDisk).errors ≠ [] := by
  have h : parse silentArgv =
      .ok ⟨3, some [Path.slash], none, some [0x6E], none, none, true, false, 0, 2⟩ := rfl
  have hconfig : Args.toConfig ⟨3, some [Path.slash], none, some [0x6E], none, none, true, false,
      0, 2⟩ atRoot = .ok deviceConfig := rfl
  have hopens : errorsDisk.OpensDevice [] deviceConfig.scratchPath (.stream 2) :=
    ⟨[[0x6E]], errorsDisk, open_device rfl rfl, rfl⟩
  have hquiet := @stderr_of_quiet Launch.call _ _ deviceConfig 42 [] errorsDisk _ h rfl hconfig
  refine ⟨_, h, rfl, hconfig, hquiet, ?_⟩
  rw [(hears_of_parse h).errors_eq hquiet, (passedTo_execute hconfig (by decide) 2).1 hopens,
    Corpus.bytes_eq_encode]
  exact encode_fileText_ne_nil _ _ _

end Program
end StressBench
