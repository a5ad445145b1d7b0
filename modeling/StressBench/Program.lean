/-
# The program

The program reads its arguments, and then either writes a corpus and leaves it or
makes a run and passes on what the compiler printed. Its exit code is 0 when that
could be done, whatever the compiler made of the corpus, 1 when it could not, and
2 when the arguments are wrong. The display level only selects messages. A scratch
path may lead to a stream of the program itself, which has the corpus then, among
what is printed there.

Key definitions: `Program.Finished`, `Program.generate`, `Program.benchmark`, `Program.execute`,
`Program.Ended`, `Program.run`.
-/
import StressBench.CommandLine.Resolve

namespace StressBench
namespace Program

open CommandLine

/-! ### With the settings known -/

/-- What the program has brought when it ends. -/
structure Finished where
  exitCode : Nat
  stdout : Text
  log : List Message
  disk : Disk
  passage : Option Passage := none

namespace Finished

/-- What was passed on to the stream of this number. -/
def passedTo (f : Finished) (stream : Nat) : Bytes :=
  match f.passage with
  | some p => if p.passed.stream = stream then p.passed.bytes else []
  | none => []

/-- All that comes to the standard output: the compiler is heard after the corpus. -/
def output (f : Finished) : Bytes :=
  f.passedTo 1 ++ Utf8.encode f.stdout

/-- All that comes to the standard error: the messages that a level shows, and what was
passed on among them. -/
def errors (f : Finished) (level : Nat) : Bytes :=
  let before := (f.passage.map Passage.after).getD 0
  let shown (log : List Message) := Utf8.encode (Message.render level log).toList
  shown (f.log.take before) ++ f.passedTo 2 ++ shown (f.log.drop before)

end Finished

/-- The message of a failure that ends the program. -/
def fatal (f : Failure) : Message :=
  ⟨1, programName ++ ": " ++ f.message ++ "\n"⟩

/-- Writes a corpus and leaves it. -/
def generate (c : Config) (drawn : UInt64) (cwd : Location) (d : Disk) : Finished :=
  let made := Harness.generate c drawn cwd d
  match made.result with
  | .error f => ⟨f.exitCode, [], made.log ++ [fatal f], made.disk, made.passage⟩
  | .ok g =>
    ⟨0, [], made.log ++
      [⟨2, "Generated sample stress test at " ++ toString g.lineCount ++ " lines of code.\n"⟩,
        ⟨2, "Compile " ++ g.path.display ++
          " with the --timings flag to measure front-end performance.\n"⟩], made.disk,
      made.passage⟩

/-- The messages on the clean-up of a run. -/
def cleanupLog (r : Report) : List Message :=
  match r.cleanup.bind fun c => c.warning? r.corpusPath with
  | some warning => [⟨2, warning ++ "\n"⟩]
  | none => []

/-- The messages on the output of the compiler. -/
def outputLog (o : Output) : List Message :=
  (if o.stderr.isEmpty then [] else [⟨1, String.ofList o.stderr⟩]) ++
    if o.status.isSuccess then []
    else [⟨2, "warning: compiler exited with " ++ o.status.render ++ "\n"⟩]

/-- Makes a run and passes on what the compiler printed. -/
def benchmark (launch : Launcher) (c : Config) (drawn : UInt64) (cwd : Location) (d : Disk) :
    Finished :=
  let made := Harness.run launch c drawn cwd d
  match made.result with
  | .error f => ⟨f.exitCode, [], made.log ++ [fatal f], made.disk, made.passage⟩
  | .ok report =>
    let log := made.log ++ cleanupLog report
    match report.result with
    | .error f => ⟨f.exitCode, [], log ++ [fatal f], made.disk, made.passage⟩
    | .ok output => ⟨0, output.stdout, log ++ outputLog output, made.disk, made.passage⟩

/-! ### From the arguments -/

/-- What the program does for arguments that are right. -/
def execute (launch : Launcher) (s : Surroundings) (a : Args) (drawn : UInt64) (cwd : Location)
    (d : Disk) : Finished :=
  match a.toConfig s with
  | .error e =>
    { exitCode := 1, stdout := [], disk := d
      log := [⟨0, programName ++ ": " ++ e.message ++ "\n"⟩] }
  | .ok c => if a.generateOnly then generate c drawn cwd d else benchmark launch c drawn cwd d

/-- What is seen of the program when it has ended: what it prints itself, and all that has
come to its two outputs. -/
structure Ended where
  exitCode : Nat
  stdout : Text
  stderr : String
  disk : Disk
  output : Bytes := Utf8.encode stdout
  errors : Bytes := Utf8.encode stderr.toList

/-- The whole program, from the name it is called by and its arguments. -/
def run (launch : Launcher) (s : Surroundings) (argv : List Bytes) (drawn : UInt64)
    (cwd : Location) (d : Disk) : Ended :=
  match CommandLine.parse argv with
  | .error e =>
    let called := calledAs (argv.headD [])
    if e.isDisplay then
      { exitCode := e.exitCode, stdout := (e.message called).toList, stderr := "", disk := d }
    else { exitCode := e.exitCode, stdout := [], stderr := e.message called, disk := d }
  | .ok a =>
    let f := execute launch s a drawn cwd d
    { exitCode := f.exitCode
      stdout := f.stdout
      stderr := Message.render a.displayLevel f.log
      disk := f.disk
      output := f.output
      errors := f.errors a.displayLevel }

end Program
end StressBench
