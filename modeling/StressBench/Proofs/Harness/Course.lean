/-
# The course of a run

A run ends in one of three ways, whatever the compiler does. Too few lines end it
before anything is touched. A corpus that cannot be written ends it before the compiler
is called. Otherwise the compiler is called once, on the disk that has the corpus, and
the report has what the call brought, however the one deletion that comes after it
turned out; the disk that is left is the one of the compiler after this deletion, or as
it is if the corpus is to stay. A device at the path of the corpus, unless it is the full
one, takes it all and keeps nothing.

Key definitions: `Harness.corpus`, `Harness.prints`.
Key theorems: `Harness.run_of_tooFew`, `Harness.run_of_refused`, `Harness.run_of_written`,
`Harness.run_course`, `Harness.run_on_null_device`.
-/
import StressBench.Proofs.Harness.Agreement

namespace StressBench
namespace Harness

variable (launch : Launcher) (config : Config) (drawn : UInt64) (cwd : Location) (d : Disk)

/-- The corpus of a run. -/
def corpus (config : Config) (drawn : UInt64) : Corpus :=
  ⟨(Synthesis.instructions (config.numLines - minLines)
    (Keystream.ofSeed (config.seed.getD drawn))).1⟩

theorem lineCount_corpus {config : Config} (h : minLines ≤ config.numLines) :
    (corpus config drawn).lineCount = config.numLines := by
  have h2 : 2 ≤ config.numLines := h
  rw [Corpus.lineCount, corpus, Synthesis.length_instructions, minLines]
  omega

theorem fileBytes_feed : fileBytes headerLine
    (Synthesis.feed (config.numLines - minLines) (Keystream.ofSeed (config.seed.getD drawn))).lines
      terminatorLine = (corpus config drawn).bytes := by
  rw [Corpus.bytes_eq_encode, Synthesis.lines_feed]
  rfl

variable {config} {cwd} {d}

/-! ### The three ends -/

theorem run_of_tooFew (h : config.numLines < minLines) :
    run launch config drawn cwd d =
      { result := .error (.tooFewLines config.numLines)
        log := [⟨2, "Preparing test unit\n"⟩]
        disk := d } := by
  unfold run writeScratch
  simp only [bodyLength?_of_lt h, Option.map_none]

theorem writeScratch_of_refused {e : IoError} (hmin : minLines ≤ config.numLines)
    (h : d.putFile cwd config.scratchPath (corpus config drawn).bytes = .error e) :
    (writeScratch config drawn cwd d).result = .error (.corpusWrite config.scratchPath e) := by
  rw [← fileBytes_feed] at h
  rw [(writeScratch_eq_created hmin rfl cwd d).1, created, Scratch.create_of_refused h]
  rfl

theorem run_of_refused {e : IoError} (hmin : minLines ≤ config.numLines)
    (h : d.putFile cwd config.scratchPath (corpus config drawn).bytes = .error e) :
    (run launch config drawn cwd d).result = .error (.corpusWrite config.scratchPath e) ∧
      ∀ other, run other config drawn cwd d = run launch config drawn cwd d := by
  have hw := writeScratch_of_refused drawn hmin h
  unfold run
  simp only [hw, implies_true, and_self]

theorem writeScratch_of_written {d₁ : Disk} (hmin : minLines ≤ config.numLines)
    (h : d.putFile cwd config.scratchPath (corpus config drawn).bytes = .ok d₁) :
    (writeScratch config drawn cwd d).result =
        .ok (⟨config.scratchPath⟩, config.seed.getD drawn) ∧
      (writeScratch config drawn cwd d).disk = d₁ ∧
      d.Left cwd config.scratchPath (corpus config drawn).bytes d₁
        ((writeScratch config drawn cwd d).passage.map Passage.passed) := by
  rw [← fileBytes_feed] at h ⊢
  obtain ⟨hresult, hdisk, hpassed⟩ :=
    writeScratch_eq_created hmin (rfl : config.seed.getD drawn = _) cwd d
  obtain ⟨hok, hd₁⟩ := Scratch.create_of_putFile h
  have hleft := Scratch.left_of_putFile h
  rw [hresult, hdisk, hpassed, created, hok, hd₁]
  exact ⟨rfl, rfl, hleft⟩

/-- The corpus is passed on if its path leads to a stream of the process. -/
theorem passed_writeScratch (hmin : minLines ≤ config.numLines) :
    (∀ n, d.OpensDevice cwd config.scratchPath (.stream n) →
      (writeScratch config drawn cwd d).passage.map Passage.passed =
        some ⟨n, (corpus config drawn).bytes⟩) ∧
    ((∀ n, ¬d.OpensDevice cwd config.scratchPath (.stream n)) →
      (writeScratch config drawn cwd d).passage.map Passage.passed = none) := by
  rw [(writeScratch_eq_created hmin rfl cwd d).2.2, created]
  refine ⟨fun n hn => ?_, Scratch.passed_of_noStream⟩
  rw [Scratch.passed_of_device hn nofun, fileBytes_feed]
  rfl

theorem passed_run :
    (run launch config drawn cwd d).passage.map Passage.passed =
      (writeScratch config drawn cwd d).passage.map Passage.passed := by
  have hshift : ∀ passage : Option Passage,
      (passage.map fun p => (⟨p.passed, p.after + 1⟩ : Passage)).map Passage.passed =
        passage.map Passage.passed := fun passage => by cases passage <;> rfl
  unfold run
  simp only
  rcases (writeScratch config drawn cwd d).result with e | ⟨scratch, seed⟩ <;> exact hshift _

/-- The report and the disk of a run, from what the call of the compiler brought. -/
theorem run_of_written {d₁ d₂ : Disk} {result : Except Failure Output}
    (hmin : minLines ≤ config.numLines)
    (h : d.putFile cwd config.scratchPath (corpus config drawn).bytes = .ok d₁)
    (hcall : launch cwd d₁ (invocation config) = (result, d₂)) :
    (run launch config drawn cwd d).result = .ok {
        corpusPath := config.scratchPath
        lineCount := config.numLines
        seed := config.seed.getD drawn
        result
        cleanup := if config.keepScratch then none
          else some (.ofResult (d₂.removeFile cwd config.scratchPath).1) } ∧
      (run launch config drawn cwd d).disk =
        if config.keepScratch then d₂ else (d₂.removeFile cwd config.scratchPath).2 := by
  obtain ⟨hresult, hdisk, -⟩ := writeScratch_of_written drawn hmin h
  unfold run
  simp only [hresult, hdisk, hcall]
  unfold settle
  cases config.keepScratch <;> exact ⟨rfl, rfl⟩

/-- **The course of a run.** -/
theorem run_course (launch : Launcher) (config : Config) (drawn : UInt64) (cwd : Location)
    (d : Disk) :
    (config.numLines < minLines →
      (run launch config drawn cwd d).result = .error (.tooFewLines config.numLines) ∧
      (run launch config drawn cwd d).disk = d ∧
      ∀ other, run other config drawn cwd d = run launch config drawn cwd d) ∧
    (minLines ≤ config.numLines → ∀ e,
      d.putFile cwd config.scratchPath (corpus config drawn).bytes = .error e →
      (run launch config drawn cwd d).result = .error (.corpusWrite config.scratchPath e) ∧
      ∀ other, run other config drawn cwd d = run launch config drawn cwd d) ∧
    (minLines ≤ config.numLines → ∀ d₁,
      d.putFile cwd config.scratchPath (corpus config drawn).bytes = .ok d₁ →
      (corpus config drawn).lineCount = config.numLines ∧
      d.Left cwd config.scratchPath (corpus config drawn).bytes d₁
        ((run launch config drawn cwd d).passage.map Passage.passed) ∧
      (invocation config).executable = config.compiler ∧
      (invocation config).args = [compileCommand, config.scratchPath, timingsFlag] ∧
      (∀ other, other cwd d₁ (invocation config) = launch cwd d₁ (invocation config) →
        run other config drawn cwd d = run launch config drawn cwd d) ∧
      ∀ result d₂, launch cwd d₁ (invocation config) = (result, d₂) →
        (run launch config drawn cwd d).result = .ok {
            corpusPath := config.scratchPath
            lineCount := config.numLines
            seed := config.seed.getD drawn
            result
            cleanup := if config.keepScratch then none
              else some (.ofResult (d₂.removeFile cwd config.scratchPath).1) } ∧
          (run launch config drawn cwd d).disk =
            if config.keepScratch then d₂ else (d₂.removeFile cwd config.scratchPath).2) := by
  refine ⟨fun h => ?_, fun hmin e h => run_of_refused launch drawn hmin h,
    fun hmin d₁ h => ⟨lineCount_corpus drawn hmin, ?_, rfl, rfl, fun other hother => ?_,
      fun result d₂ hcall => run_of_written launch drawn hmin h hcall⟩⟩
  · rw [run_of_tooFew launch drawn h]
    exact ⟨rfl, rfl, fun other => run_of_tooFew other drawn h⟩
  · rw [passed_run]
    exact (writeScratch_of_written drawn hmin h).2.2
  · -- the run looks at the launcher nowhere else
    obtain ⟨hresult, hdisk, -⟩ := writeScratch_of_written drawn hmin h
    unfold run
    simp only [hresult, hdisk, hother]

/-! ### A corpus that nothing keeps -/

/-- A compiler that prints the corpus it is given. -/
def prints : Launcher := fun cwd d i =>
  match d.contentOf cwd (i.args.getD 1 []) with
  | .ok content => (.ok (.ofBytes content [] (.exited 0)), d)
  | .error e => (.error (.launch i.executable e), d)

/-- Settings that write a corpus of three lines to `l`. -/
def nullConfig : Config :=
  { Config.ofBase 3 [Path.slash] with scratchPath := [0x6C], keepScratch := true }

theorem putFile_nullDisk (bytes : Bytes) : nullDisk.putFile [] [0x6C] bytes = .ok nullDisk := by
  have hfits : (nullDisk.sinkFor [[0x6E]]).Fits bytes.length := Sink.fits_of_unlimited rfl _
  rw [Disk.putFile_of_open openForWriting_nullDisk, Sink.write_of_fits hfits]
  rfl

/-- **No corpus at the scratch path.** The link leads to a device: the corpus is written
without an error and the compiler is called, but what it finds is empty. -/
theorem run_on_null_device :
    nullDisk.putFile [] nullConfig.scratchPath (corpus nullConfig 42).bytes = .ok nullDisk ∧
      (corpus nullConfig 42).lineCount = 3 ∧
      (∀ bytes, ¬nullDisk.Holds [] nullConfig.scratchPath bytes) ∧
      (run prints nullConfig 42 [] nullDisk).result =
        .ok ⟨[0x6C], 3, 42, .ok ⟨[], [], .exited 0⟩, none⟩ := by
  have hcall : prints [] nullDisk (invocation nullConfig) =
      (.ok ⟨[], [], .exited 0⟩, nullDisk) := by
    have hcorpus : (invocation nullConfig).args.getD 1 [] = [0x6C] := rfl
    unfold prints
    rw [hcorpus, contentOf_nullDisk]
    rfl
  refine ⟨putFile_nullDisk _, lineCount_corpus 42 (by decide), ?_, ?_⟩
  · rintro bytes ⟨loc, mode, h⟩
    have h' := lookup_nullDisk.symm.trans h
    cases h'
  · exact (run_of_written prints 42 (by decide) (putFile_nullDisk _) hcall).1

end Harness
end StressBench
