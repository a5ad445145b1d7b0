/-
# One benchmark run

A run synthesises a corpus into the scratch file, calls the compiler on it and
deletes the file again, whatever the call brought. A corpus that cannot be
written ends the run before the compiler is called. Each step leaves messages
for the operator, each with the level from which on it is shown.

Key definitions: `Config`, `Message`, `Harness.generate`, `Harness.run`, `Report`.
-/
import StressBench.Invocation
import StressBench.Scratch

namespace StressBench

/-! ### Settings -/

/-- The name of the scratch file. -/
def scratchName : Text := "StressTest.sasm".toList

/-- The settings of a run. -/
structure Config where
  /-- Lines of the corpus, the first and the last included. -/
  numLines : Nat
  /-- Where relative paths start and the compiler runs. -/
  baseDir : Path
  compiler : Path
  scratchPath : Path
  /-- The seed; without one a seed is drawn. -/
  seed : Option UInt64
  timeout : Option Duration
  /-- Whether the scratch file stays after the run. -/
  keepScratch : Bool
  deriving DecidableEq, Repr

/-- The settings that follow from a size and a base directory. -/
def Config.ofBase (numLines : Nat) (baseDir : Path) : Config where
  numLines
  baseDir
  compiler := defaultCompiler baseDir
  scratchPath := Path.join baseDir (Path.ofText scratchName)
  seed := none
  timeout := none
  keepScratch := false

/-! ### Messages -/

/-- A message for the operator, shown from a display level on. -/
structure Message where
  level : Nat
  text : String
  deriving DecidableEq, Repr

/-- The messages that a display level shows. -/
def Message.shown (level : Nat) (log : List Message) : List Message :=
  log.filter fun m => m.level ≤ level

/-- The text of the messages that a display level shows. -/
def Message.render (level : Nat) (log : List Message) : String :=
  String.join ((shown level log).map Message.text)

/-! ### Runs -/

/-- What was passed on to a stream of the program when the corpus was written, and after
how many messages. -/
structure Passage where
  passed : Passed
  after : Nat
  deriving DecidableEq, Repr

/-- What a run has brought: its result, its messages, the disk it leaves, and what was
passed on if the scratch path led to a stream of the program. -/
structure Outcome (α : Type) where
  result : α
  log : List Message
  disk : Disk
  passage : Option Passage := none

/-- A corpus that was left on the disk. -/
structure Generated where
  path : Path
  lineCount : Nat
  seed : UInt64
  deriving DecidableEq, Repr

/-- A run that got as far as the call of the compiler. -/
structure Report where
  corpusPath : Path
  lineCount : Nat
  seed : UInt64
  /-- What the call brought. -/
  result : Except Failure Output
  /-- What came of deleting the scratch file; none if it was kept. -/
  cleanup : Option Cleanup

namespace Harness

/-- Writes the corpus to the scratch file, from the seed of the settings or else
the drawn one, and gives the seed. -/
def writeScratch (c : Config) (drawn : UInt64) (cwd : Location) (d : Disk) :
    Outcome (Except Failure (Scratch × UInt64)) :=
  match bodyLength? c.numLines with
  | none => { result := .error (.tooFewLines c.numLines), log := [], disk := d }
  | some count =>
    let seed := c.seed.getD drawn
    let log := [⟨4, "Synthesizing " ++ toString c.numLines ++ " lines (seed " ++
      toString seed.toNat ++ ")\n"⟩]
    let created := Scratch.create c.scratchPath (Synthesis.feed count (Keystream.ofSeed seed)) cwd d
    { result := match created.result with
        | .error e => .error e
        | .ok scratch => .ok (scratch, seed)
      log
      disk := created.disk
      passage := created.passed.map fun passed => ⟨passed, log.length⟩ }

/-- Writes the corpus and leaves it. -/
def generate (c : Config) (drawn : UInt64) (cwd : Location) (d : Disk) :
    Outcome (Except Failure Generated) :=
  let written := writeScratch c drawn cwd d
  match written.result with
  | .error e => ⟨.error e, written.log, written.disk, written.passage⟩
  | .ok (scratch, seed) =>
    let path := scratch.keep
    ⟨.ok ⟨path, c.numLines, seed⟩,
      written.log ++ [⟨3, "Corpus written to " ++ path.display ++ "\n"⟩], written.disk,
      written.passage⟩

/-- The call of the compiler that the settings ask for. -/
def invocation (c : Config) : Invocation :=
  { Invocation.compile c.compiler c.scratchPath with
    workingDir := some c.baseDir, timeout := c.timeout }

/-- The messages that show a call. -/
def announce (i : Invocation) : List Message :=
  [⟨3, "Compiler : " ++ i.executable.display ++ "\n"⟩,
    ⟨3, "Arguments : " ++ " ".intercalate (i.args.map Path.display) ++ "\n"⟩]

/-- Gives up the scratch file after the call, as the settings say. -/
def settle (c : Config) (scratch : Scratch) (cwd : Location) (d : Disk) :
    Outcome (Option Cleanup) :=
  if c.keepScratch then
    { result := none
      log := [⟨3, "Keeping stress test file " ++ scratch.keep.display ++ "\n"⟩]
      disk := d }
  else
    let (cleanup, d) := scratch.remove cwd d
    { result := some cleanup, log := [], disk := d }

/-- Writes the corpus, calls the compiler and cleans up. -/
def run (launch : Launcher) (c : Config) (drawn : UInt64) (cwd : Location) (d : Disk) :
    Outcome (Except Failure Report) :=
  let preparing : Message := ⟨2, "Preparing test unit\n"⟩
  let written := writeScratch c drawn cwd d
  let passage := written.passage.map fun p => ⟨p.passed, p.after + 1⟩
  match written.result with
  | .error e => ⟨.error e, preparing :: written.log, written.disk, passage⟩
  | .ok (scratch, seed) =>
    let call := invocation c
    let (result, d) := launch cwd written.disk call
    let settled := settle c scratch cwd d
    ⟨.ok ⟨c.scratchPath, c.numLines, seed, result, settled.result⟩,
      preparing :: written.log ++ ⟨2, "Starting benchmark\n"⟩ :: announce call ++ settled.log,
      settled.disk, passage⟩

end Harness
end StressBench
