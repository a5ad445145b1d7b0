/-
# What can go wrong in a run

A run fails over its size, over the corpus file, over the launch of the compiler
or over the time limit. A failed clean-up is no failure.

Key definitions: `Failure`, `Failure.message`, `Failure.category`, `Failure.exitCode`.
-/
import StressBench.Disk.Path
import StressBench.IoError
import StressBench.Number.Duration

namespace StressBench

/-- Why a run or a part of it failed. -/
inductive Failure
  /-- A corpus of so many lines has no room for its first and its last line. -/
  | tooFewLines (requested : Nat)
  /-- A corpus of so many lines does not fit into memory. -/
  | tooManyLines (requested : Nat)
  /-- The corpus file could not be opened or written. -/
  | corpusWrite (path : Path) (source : IoError)
  /-- The compiler could not be started. -/
  | launch (path : Path) (source : IoError)
  /-- The compiler did not end in time and was killed. -/
  | timeout (path : Path) (after : Duration)
  deriving DecidableEq, Repr

/-- The least number of lines of a corpus: its first and its last line. -/
def minLines : Nat := 2

namespace Failure

/-- The sentence that names the failure. -/
def message : Failure → String
  | .tooFewLines n =>
    "usage error: corpus size must be at least " ++ toString minLines ++ " lines, got " ++
      toString n
  | .tooManyLines n =>
    "usage error: a " ++ toString n ++
      "-line corpus does not fit in memory; write it to a file instead"
  | .corpusWrite p e => "corpus write error: " ++ p.display ++ ": " ++ e.message
  | .launch p e => "launch error: " ++ p.display ++ ": " ++ e.message
  | .timeout p d =>
    "timeout: " ++ p.display ++ " did not finish within " ++ String.ofList d.render ++ "s"

/-- The kind of failure, in a word. -/
def category : Failure → String
  | .tooFewLines _ | .tooManyLines _ => "usage"
  | .corpusWrite .. => "corpus-write"
  | .launch .. => "launch"
  | .timeout .. => "timeout"

/-- The exit code of the program after the failure. -/
def exitCode : Failure → Nat
  | .tooFewLines _ | .tooManyLines _ => 2
  | .corpusWrite .. | .launch .. | .timeout .. => 1

/-- The error behind the failure, if there is one. -/
def source? : Failure → Option IoError
  | .corpusWrite _ e | .launch _ e => some e
  | .tooFewLines _ | .tooManyLines _ | .timeout .. => none

end Failure
end StressBench
