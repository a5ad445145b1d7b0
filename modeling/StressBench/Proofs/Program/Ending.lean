/-
# How the program ends

With arguments that are right and settings that are found, the program ends with the code 0
or 1. The code of wrong arguments is not met again, as a number of lines that was accepted is
never too few. The code is 0 when the corpus was left, or when the compiler came to an end,
whatever that end and the clean-up after it were; what the compiler printed is passed on, and
nothing else is printed. Only a corpus whose path leads to the output of the program itself
comes there as well, in front of it.

Key definitions: `Launcher.IsProper`, `Harness.printed?`.
Key theorems: `Launch.call_isProper`, `Harness.exitCode_of_run`, `Program.benchmark_ending`,
`Program.passedTo_execute`, `Program.ending`, `Program.nothing_left_on_device`.
-/
import StressBench.Launch
import StressBench.Program
import StressBench.Proofs.CommandLine.Scanning
import StressBench.Proofs.Harness.Course

namespace StressBench

/-! ### Failures of a call -/

/-- A call fails in two ways only: its program was not started, or it did not end in time. -/
def Launcher.IsProper (launch : Launcher) : Prop :=
  ∀ cwd d i f, (launch cwd d i).1 = .error f →
    (∃ e, f = .launch i.executable e) ∨ ∃ t, f = .timeout i.executable t

theorem Launcher.IsProper.exitCode {launch : Launcher} (h : launch.IsProper) {cwd : Location}
    {d : Disk} {i : Invocation} {f : Failure} (hf : (launch cwd d i).1 = .error f) :
    f.exitCode = 1 := by
  obtain ⟨e, rfl⟩ | ⟨t, rfl⟩ := h cwd d i f hf <;> rfl

theorem Launch.call_isProper : Launcher.IsProper Launch.call := by
  intro cwd d i f hf
  unfold Launch.call at hf
  split at hf
  · next e _ =>
    cases hf
    exact .inl ⟨e, rfl⟩
  · unfold Launch.outcome at hf
    dsimp only at hf
    split at hf
    · cases hf
    · cases hf
    · cases hf
      exact .inr ⟨_, rfl⟩

namespace Harness

/-- What the compiler printed in a run, if it came to an end. -/
def printed? : Except Failure Report → Option Text
  | .error _ => none
  | .ok report => report.result.toOption.map Output.stdout

variable {launch : Launcher} {config : Config} {drawn : UInt64} {cwd : Location} {d : Disk}

/-! ### Failures of a run -/

theorem generate_of_refused {e : IoError} (hmin : minLines ≤ config.numLines)
    (h : d.putFile cwd config.scratchPath (corpus config drawn).bytes = .error e) :
    (generate config drawn cwd d).result = .error (.corpusWrite config.scratchPath e) := by
  unfold generate
  simp only [writeScratch_of_refused drawn hmin h]

theorem generate_of_written {d₁ : Disk} (hmin : minLines ≤ config.numLines)
    (h : d.putFile cwd config.scratchPath (corpus config drawn).bytes = .ok d₁) :
    (generate config drawn cwd d).result =
        .ok ⟨config.scratchPath, config.numLines, config.seed.getD drawn⟩ ∧
      (generate config drawn cwd d).disk = d₁ := by
  obtain ⟨hresult, hdisk, -⟩ := writeScratch_of_written drawn hmin h
  unfold generate
  simp only [hresult, hdisk, Scratch.keep, and_self]

theorem exitCode_of_generate (hmin : minLines ≤ config.numLines) {f : Failure}
    (hf : (generate config drawn cwd d).result = .error f) : f.exitCode = 1 := by
  rcases h : d.putFile cwd config.scratchPath (corpus config drawn).bytes with e | d₁
  · cases (generate_of_refused hmin h).symm.trans hf
    rfl
  · cases (generate_of_written hmin h).1.symm.trans hf

/-- A corpus that is left is on the disk, unless a device took it. -/
theorem generate_leaves (hmin : minLines ≤ config.numLines) {g : Generated}
    (hg : (generate config drawn cwd d).result = .ok g) :
    d.Left cwd config.scratchPath (corpus config drawn).bytes (generate config drawn cwd d).disk
      ((generate config drawn cwd d).passage.map Passage.passed) := by
  rcases h : d.putFile cwd config.scratchPath (corpus config drawn).bytes with e | d₁
  · cases (generate_of_refused hmin h).symm.trans hg
  · rw [(generate_of_written hmin h).2, passage_generate]
    exact (writeScratch_of_written drawn hmin h).2.2

theorem exitCode_of_run (hproper : launch.IsProper) (hmin : minLines ≤ config.numLines) :
    (∀ f, (run launch config drawn cwd d).result = .error f → f.exitCode = 1) ∧
      ∀ r f, (run launch config drawn cwd d).result = .ok r → r.result = .error f →
        f.exitCode = 1 := by
  rcases hput : d.putFile cwd config.scratchPath (corpus config drawn).bytes with e | d₁
  · have hresult := (run_of_refused launch drawn hmin hput).1
    refine ⟨fun f hf => ?_, fun r f hr => ?_⟩
    · cases hresult.symm.trans hf
      rfl
    · cases hresult.symm.trans hr
  · have hresult := (run_of_written launch drawn hmin hput rfl).1
    refine ⟨fun f hf => ?_, fun r f hr hf => ?_⟩
    · cases hresult.symm.trans hf
    · cases hresult.symm.trans hr
      exact hproper.exitCode hf

/-- What is printed in a run hangs on what the call printed, and on nothing else that the
compiler does. -/
theorem printed?_run_congr (hmin : minLines ≤ config.numLines) {other : Launcher}
    (h : ∀ d₁, (other cwd d₁ (invocation config)).1.toOption.map Output.stdout =
      (launch cwd d₁ (invocation config)).1.toOption.map Output.stdout) :
    printed? (run other config drawn cwd d).result =
      printed? (run launch config drawn cwd d).result := by
  rcases hput : d.putFile cwd config.scratchPath (corpus config drawn).bytes with e | d₁
  · rw [(run_of_refused launch drawn hmin hput).2 other]
  · rw [(run_of_written launch drawn hmin hput rfl).1,
      (run_of_written other drawn hmin hput rfl).1]
    exact h d₁

theorem printed?_eq_some_iff {made : Except Failure Report} {text : Text} :
    printed? made = some text ↔
      ∃ r o, made = .ok r ∧ r.result = .ok o ∧ o.stdout = text := by
  rcases made with f | ⟨corpusPath, lineCount, seed, f | o, cleanup⟩
  · simp [printed?]
  · simp [printed?, Except.toOption]
  · simp [printed?, Except.toOption]

end Harness

/-! ### The end of the program -/

namespace Program

open CommandLine

theorem code_or (b : Bool) : (if b then 0 else 1) = 0 ∨ (if b then 0 else 1) = 1 := by
  cases b <;> decide

theorem code_eq_zero {b : Bool} : (if b then 0 else 1) = 0 ↔ b = true := by
  cases b <;> decide

theorem isOk_iff {ε α : Type} {x : Except ε α} : x.isOk = true ↔ ∃ a, x = .ok a := by
  cases x <;> simp [Except.isOk, Except.toBool]

variable {launch : Launcher} {config : Config} {drawn : UInt64} {cwd : Location} {d : Disk}

theorem generate_ending (hmin : minLines ≤ config.numLines) :
    (generate config drawn cwd d).exitCode =
        (if (Harness.generate config drawn cwd d).result.isOk then 0 else 1) ∧
      (generate config drawn cwd d).stdout = [] ∧
      (generate config drawn cwd d).disk = (Harness.generate config drawn cwd d).disk := by
  unfold generate
  dsimp only
  rcases h : (Harness.generate config drawn cwd d).result with f | g
  · exact ⟨Harness.exitCode_of_generate hmin h, rfl, rfl⟩
  · exact ⟨rfl, rfl, rfl⟩

theorem benchmark_ending (hproper : launch.IsProper) (hmin : minLines ≤ config.numLines) :
    (benchmark launch config drawn cwd d).exitCode =
        (if (Harness.printed? (Harness.run launch config drawn cwd d).result).isSome then 0
          else 1) ∧
      (benchmark launch config drawn cwd d).stdout =
        (Harness.printed? (Harness.run launch config drawn cwd d).result).getD [] := by
  obtain ⟨hrun, hcall⟩ := @Harness.exitCode_of_run launch config drawn cwd d hproper hmin
  unfold benchmark
  dsimp only
  rcases h : (Harness.run launch config drawn cwd d).result with f | r
  · exact ⟨hrun f h, rfl⟩
  · dsimp only
    rcases hr : r.result with f | o
    · simp only [Harness.printed?, hr]
      exact ⟨hcall r f h hr, rfl⟩
    · simp only [Harness.printed?, hr]
      exact ⟨rfl, rfl⟩

theorem exitCode_generate_iff (hmin : minLines ≤ config.numLines) :
    (generate config drawn cwd d).exitCode = 0 ↔
      ∃ g, (Harness.generate config drawn cwd d).result = .ok g := by
  rw [(generate_ending hmin).1, code_eq_zero, isOk_iff]

theorem exitCode_benchmark_iff (hproper : launch.IsProper) (hmin : minLines ≤ config.numLines) :
    (benchmark launch config drawn cwd d).exitCode = 0 ↔
      ∃ r o, (Harness.run launch config drawn cwd d).result = .ok r ∧ r.result = .ok o := by
  rw [(benchmark_ending hproper hmin).1, code_eq_zero, Option.isSome_iff_exists]
  constructor
  · rintro ⟨text, htext⟩
    obtain ⟨r, o, hr, ho, -⟩ := Harness.printed?_eq_some_iff.mp htext
    exact ⟨r, o, hr, ho⟩
  · rintro ⟨r, o, hr, ho⟩
    exact ⟨o.stdout, Harness.printed?_eq_some_iff.mpr ⟨r, o, hr, ho, rfl⟩⟩

theorem stdout_of_benchmark {r : Report} {o : Output}
    (hrun : (Harness.run launch config drawn cwd d).result = .ok r) (hend : r.result = .ok o) :
    (benchmark launch config drawn cwd d).stdout = o.stdout := by
  unfold benchmark
  simp only [hrun, hend]

/-- Nothing is printed in a run that fails. -/
theorem stdout_of_failed (hproper : launch.IsProper) (hmin : minLines ≤ config.numLines)
    (h : (benchmark launch config drawn cwd d).exitCode = 1) :
    (benchmark launch config drawn cwd d).stdout = [] := by
  obtain ⟨hcode, hout⟩ := @benchmark_ending launch config drawn cwd d hproper hmin
  rw [hout]
  rcases hp : Harness.printed? (Harness.run launch config drawn cwd d).result with _ | text
  · rfl
  · rw [hcode, hp] at h
    cases h

/-- Of the compiler, the end of a run has only what it printed. -/
theorem benchmark_congr {other : Launcher} (hproper : launch.IsProper) (hother : other.IsProper)
    (hmin : minLines ≤ config.numLines)
    (h : ∀ d₁, (other cwd d₁ (Harness.invocation config)).1.toOption.map Output.stdout =
      (launch cwd d₁ (Harness.invocation config)).1.toOption.map Output.stdout) :
    (benchmark other config drawn cwd d).exitCode =
        (benchmark launch config drawn cwd d).exitCode ∧
      (benchmark other config drawn cwd d).stdout =
        (benchmark launch config drawn cwd d).stdout := by
  rw [(benchmark_ending hproper hmin).1, (benchmark_ending hproper hmin).2,
    (benchmark_ending hother hmin).1, (benchmark_ending hother hmin).2,
    Harness.printed?_run_congr hmin h]
  exact ⟨rfl, rfl⟩

theorem run_of_parse {argv : List Bytes} {a : Args} (h : parse argv = .ok a)
    (launch : Launcher) (s : Surroundings) (drawn : UInt64) (cwd : Location) (d : Disk) :
    run launch s argv drawn cwd d =
      let f := execute launch s a drawn cwd d
      { exitCode := f.exitCode
        stdout := f.stdout
        stderr := Message.render a.displayLevel f.log
        disk := f.disk
        output := f.output
        errors := f.errors a.displayLevel } := by
  unfold run
  rw [h]

theorem execute_of_config {a : Args} {s : Surroundings} (h : a.toConfig s = .ok config)
    (launch : Launcher) (drawn : UInt64) (cwd : Location) (d : Disk) :
    execute launch s a drawn cwd d =
      if a.generateOnly then generate config drawn cwd d
      else benchmark launch config drawn cwd d := by
  unfold execute
  rw [h]

/-- Settings that are made of accepted arguments have room for the first and the last line. -/
theorem minLines_le_of_toConfig {argv : List Bytes} {a : Args} {s : Surroundings}
    (hargs : parse argv = .ok a) (h : a.toConfig s = .ok config) :
    minLines ≤ config.numLines := by
  have hlines := minLines_le_numLines hargs
  unfold Args.toConfig at h
  rcases hbase : a.base? s with e | base <;> rw [hbase] at h <;> cases h
  exact hlines

/-! ### What comes to a stream of the program -/

theorem passage_generate :
    (generate config drawn cwd d).passage = (Harness.generate config drawn cwd d).passage := by
  unfold generate
  dsimp only
  split <;> rfl

theorem passage_benchmark : (benchmark launch config drawn cwd d).passage =
    (Harness.run launch config drawn cwd d).passage := by
  unfold benchmark
  dsimp only
  split
  · rfl
  · split <;> rfl

theorem passed_execute {a : Args} {s : Surroundings} (h : a.toConfig s = .ok config) :
    (execute launch s a drawn cwd d).passage.map Passage.passed =
      (Harness.writeScratch config drawn cwd d).passage.map Passage.passed := by
  rw [execute_of_config h]
  split
  · rw [passage_generate, Harness.passage_generate]
  · rw [passage_benchmark, Harness.passed_run]

theorem passedTo_eq (f : Finished) (n : Nat) :
    f.passedTo n = match f.passage.map Passage.passed with
      | some p => if p.stream = n then p.bytes else []
      | none => [] := by
  unfold Finished.passedTo
  cases f.passage <;> rfl

/-- **What is passed on to a stream** of the program is the corpus if its path leads there, and
nothing else. -/
theorem passedTo_execute {a : Args} {s : Surroundings} (hconfig : a.toConfig s = .ok config)
    (hmin : minLines ≤ config.numLines) (n : Nat) :
    (d.OpensDevice cwd config.scratchPath (.stream n) →
      (execute launch s a drawn cwd d).passedTo n = (Harness.corpus config drawn).bytes) ∧
    (¬d.OpensDevice cwd config.scratchPath (.stream n) →
      (execute launch s a drawn cwd d).passedTo n = []) := by
  obtain ⟨hstream, hnone⟩ := @Harness.passed_writeScratch config drawn cwd d hmin
  rw [passedTo_eq, passed_execute hconfig]
  refine ⟨fun hn => ?_, fun hn => ?_⟩
  · rw [hstream n hn]
    simp only [if_true]
  · by_cases hother : ∃ m, d.OpensDevice cwd config.scratchPath (.stream m)
    · obtain ⟨m, hm⟩ := hother
      have hne : m ≠ n := fun heq => hn (heq ▸ hm)
      rw [hstream m hm]
      simp only [if_neg hne]
    · rw [hnone (not_exists.mp hother)]

/-- All that comes to the standard output. -/
theorem output_execute {a : Args} {s : Surroundings} (hconfig : a.toConfig s = .ok config)
    (hmin : minLines ≤ config.numLines) :
    (d.OpensDevice cwd config.scratchPath (.stream 1) →
      (execute launch s a drawn cwd d).output = (Harness.corpus config drawn).bytes ++
        Utf8.encode (execute launch s a drawn cwd d).stdout) ∧
    (¬d.OpensDevice cwd config.scratchPath (.stream 1) →
      (execute launch s a drawn cwd d).output =
        Utf8.encode (execute launch s a drawn cwd d).stdout) := by
  obtain ⟨hstream, hnone⟩ := @passedTo_execute launch config drawn cwd d a s hconfig hmin 1
  unfold Finished.output
  exact ⟨fun h => by rw [hstream h], fun h => by rw [hnone h, List.nil_append]⟩

/-! ### The whole program -/

/-- **How the program ends** with arguments that are right and settings that are found. What is
assumed of the launcher is true of the calls that are carried out. -/
theorem ending {argv : List Bytes} {a : Args} {s : Surroundings}
    (hargs : parse argv = .ok a) (hconfig : a.toConfig s = .ok config)
    (hproper : launch.IsProper) (drawn : UInt64) (cwd : Location) (d : Disk) :
    let ended := run launch s argv drawn cwd d
    (ended.exitCode = 0 ∨ ended.exitCode = 1) ∧
    (∀ n, (Harness.generate config drawn cwd d).result ≠ .error (.tooFewLines n) ∧
      (Harness.run launch config drawn cwd d).result ≠ .error (.tooFewLines n)) ∧
    (a.generateOnly = true →
      (ended.exitCode = 0 ↔ ∃ g, (Harness.generate config drawn cwd d).result = .ok g) ∧
      ended.stdout = [] ∧
      (∀ other : Launcher, run other s argv drawn cwd d = ended) ∧
      (ended.exitCode = 0 →
        d.Left cwd config.scratchPath (Harness.corpus config drawn).bytes ended.disk
          ((Harness.generate config drawn cwd d).passage.map Passage.passed))) ∧
    (a.generateOnly = false →
      (ended.exitCode = 0 ↔ ∃ r o,
        (Harness.run launch config drawn cwd d).result = .ok r ∧ r.result = .ok o) ∧
      (∀ r o, (Harness.run launch config drawn cwd d).result = .ok r → r.result = .ok o →
        ended.stdout = o.stdout) ∧
      (ended.exitCode = 1 → ended.stdout = []) ∧
      ∀ other : Launcher, other.IsProper →
        (∀ d₁, (other cwd d₁ (Harness.invocation config)).1.toOption.map Output.stdout =
          (launch cwd d₁ (Harness.invocation config)).1.toOption.map Output.stdout) →
        (run other s argv drawn cwd d).exitCode = ended.exitCode ∧
          (run other s argv drawn cwd d).stdout = ended.stdout ∧
          (run other s argv drawn cwd d).output = ended.output) ∧
    (d.OpensDevice cwd config.scratchPath (.stream 1) →
      ended.output = (Harness.corpus config drawn).bytes ++ Utf8.encode ended.stdout) ∧
    (¬d.OpensDevice cwd config.scratchPath (.stream 1) →
      ended.output = Utf8.encode ended.stdout) ∧
    Launcher.IsProper Launch.call := by
  have hmin := minLines_le_of_toConfig hargs hconfig
  have hfew : ∀ n, (Harness.generate config drawn cwd d).result ≠ .error (.tooFewLines n) ∧
      (Harness.run launch config drawn cwd d).result ≠ .error (.tooFewLines n) := by
    refine fun n => ⟨fun h => ?_, fun h => ?_⟩
    · cases Harness.exitCode_of_generate hmin h
    · cases (Harness.exitCode_of_run hproper hmin).1 _ h
  have houtput := fun launch => @output_execute launch config drawn cwd d a s hconfig hmin
  simp only [run_of_parse hargs]
  cases hmode : a.generateOnly with
  | true =>
    obtain ⟨hcode, hout, hdisk⟩ := @generate_ending config drawn cwd d hmin
    have hexecute : ∀ launch, execute launch s a drawn cwd d = generate config drawn cwd d := by
      intro launch
      rw [execute_of_config hconfig, hmode, if_pos rfl]
    simp only [hexecute] at houtput ⊢
    refine ⟨hcode ▸ code_or _, hfew, fun _ =>
      ⟨exitCode_generate_iff hmin, hout, fun _ => trivial, fun h => ?_⟩, nofun,
      (houtput launch).1, (houtput launch).2, Launch.call_isProper⟩
    obtain ⟨g, hg⟩ := (exitCode_generate_iff hmin).mp h
    rw [hdisk]
    exact Harness.generate_leaves hmin hg
  | false =>
    have hexecute : ∀ launch,
        execute launch s a drawn cwd d = benchmark launch config drawn cwd d := by
      intro launch
      rw [execute_of_config hconfig, hmode, if_neg Bool.false_ne_true]
    simp only [hexecute] at houtput ⊢
    refine ⟨(benchmark_ending hproper hmin).1 ▸ code_or _, hfew, nofun, fun _ =>
      ⟨exitCode_benchmark_iff hproper hmin, fun r o => stdout_of_benchmark,
        stdout_of_failed hproper hmin, fun other hother hcalls => ?_⟩,
      (houtput launch).1, (houtput launch).2, Launch.call_isProper⟩
    obtain ⟨hcode, hout⟩ := benchmark_congr hproper hother hmin hcalls
    refine ⟨hcode, hout, ?_⟩
    -- what is passed on does not come from the compiler
    by_cases hstream : d.OpensDevice cwd config.scratchPath (.stream 1)
    · rw [(houtput other).1 hstream, (houtput launch).1 hstream, hout]
    · rw [(houtput other).2 hstream, (houtput launch).2 hstream, hout]

/-! ### A device at the scratch path -/

/-- The surroundings of a program that lies in the root and is called there. -/
def atRoot : Surroundings :=
  ⟨.ok [Path.slash], .ok [Path.slash]⟩

/-- A command line for three lines at `/n`. -/
def deviceArgv : List Bytes :=
  ["sasm-stress", "3", "--base-dir", "/", "-o", "n"].map fun arg => Utf8.encode arg.toList

/-- The same, for a corpus that is left. -/
def leavingArgv : List Bytes :=
  deviceArgv ++ [Utf8.encode "--generate-only".toList]

/-- What the two command lines give. -/
def deviceArgs (generateOnly : Bool) : Args :=
  ⟨3, some [Path.slash], none, some [0x6E], none, none, generateOnly, false, 0, 0⟩

/-- And the settings of both. -/
def deviceConfig : Config :=
  { Config.ofBase 3 [Path.slash] with scratchPath := [Path.slash, 0x6E] }

/-- A compiler that prints a text, deletes everything and is killed. -/
def dies : Launcher := fun _ _ _ =>
  (.ok ⟨"killed".toList, [], .killed 9⟩, ⟨[], none⟩)

theorem resolve_device {k : Device} {follow : Follow} (hs : d.maySearch [] = true)
    (hk : d.get [[0x6E]] = some (.device k)) :
    d.resolve follow [] [Path.slash, 0x6E] = .ok (.name [] [0x6E] false) := by
  have hn : Disk.IsPlain [0x6E] := ⟨by decide, by decide, by decide⟩
  have hlink : ∀ target, d.get [[0x6E]] ≠ some (.link target) := by simp [hk]
  exact Disk.resolve_last ⟨rfl, rfl, by decide⟩ rfl hn hs hlink

theorem open_device {k : Device} (hs : d.maySearch [] = true)
    (hk : d.get [[0x6E]] = some (.device k)) :
    d.openForWriting [] [Path.slash, 0x6E] = .ok ([[0x6E]], d) := by
  unfold Disk.openForWriting
  rw [resolve_device hs hk]
  simp only [Bool.false_eq_true, if_false, hk]

theorem putFile_device (bytes : Bytes) :
    Harness.nullDisk.putFile [] [Path.slash, 0x6E] bytes = .ok Harness.nullDisk := by
  have hfits : (Harness.nullDisk.sinkFor [[0x6E]]).Fits bytes.length :=
    Sink.fits_of_unlimited rfl _
  rw [Disk.putFile_of_open (open_device rfl rfl), Sink.write_of_fits hfits]
  rfl

/-- The compiler prints, is killed, and clean-up finds nothing: what was printed is passed
on, with the code 0. -/
theorem killed_ending : parse deviceArgv = .ok (deviceArgs false) ∧
    (deviceArgs false).toConfig atRoot = .ok deviceConfig ∧ dies.IsProper ∧
    (run dies atRoot deviceArgv 42 [] Harness.nullDisk).exitCode = 0 ∧
    (run dies atRoot deviceArgv 42 [] Harness.nullDisk).stdout = "killed".toList := by
  have hargs : parse deviceArgv = .ok (deviceArgs false) := rfl
  have hconfig : (deviceArgs false).toConfig atRoot = .ok deviceConfig := rfl
  have hproper : dies.IsProper := fun cwd d i f hf => by cases hf
  have hmin : minLines ≤ deviceConfig.numLines := by decide
  have hrun := (Harness.run_of_written dies 42 hmin (putFile_device _) rfl).1
  obtain ⟨-, -, -, hending, -⟩ := ending hargs hconfig hproper 42 [] Harness.nullDisk
  obtain ⟨hcode, hout, -⟩ := hending rfl
  exact ⟨hargs, hconfig, hproper, hcode.mpr ⟨_, _, hrun, rfl⟩, hout _ _ hrun rfl⟩

/-- **A corpus that was to stay is nowhere.** It went to a device, without an error. -/
theorem nothing_left_on_device : parse leavingArgv = .ok (deviceArgs true) ∧
    (deviceArgs true).toConfig atRoot = .ok deviceConfig ∧
    (deviceArgs true).generateOnly = true ∧
    (run Launch.call atRoot leavingArgv 42 [] Harness.nullDisk).exitCode = 0 ∧
    ∀ bytes, ¬(run Launch.call atRoot leavingArgv 42 [] Harness.nullDisk).disk.Holds []
      deviceConfig.scratchPath bytes := by
  have hargs : parse leavingArgv = .ok (deviceArgs true) := rfl
  have hconfig : (deviceArgs true).toConfig atRoot = .ok deviceConfig := rfl
  have hmin : minLines ≤ deviceConfig.numLines := by decide
  obtain ⟨hresult, hdisk⟩ := Harness.generate_of_written hmin (putFile_device _)
  obtain ⟨hcode, -, hleft⟩ := @generate_ending deviceConfig 42 [] Harness.nullDisk hmin
  rw [run_of_parse hargs, execute_of_config hconfig]
  refine ⟨hargs, hconfig, rfl, ?_, ?_⟩
  · show (generate deviceConfig 42 [] Harness.nullDisk).exitCode = 0
    rw [hcode, hresult]
    rfl
  · show ∀ bytes, ¬(generate deviceConfig 42 [] Harness.nullDisk).disk.Holds [] _ bytes
    rw [hleft, hdisk]
    rintro bytes ⟨loc, mode, h⟩
    have hlookup : Harness.nullDisk.lookup [] [Path.slash, 0x6E] =
        .ok ([[0x6E]], .device .null) := by
      unfold Disk.lookup
      rw [resolve_device rfl rfl]
      rfl
    cases hlookup.symm.trans h

end Program
end StressBench
