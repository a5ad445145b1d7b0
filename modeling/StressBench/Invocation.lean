/-
# One call of the compiler

The compiler is a program that is run with a fixed list of arguments,
`compile <corpus> --timings`. What it prints is kept as text, its way of ending
as its status; neither is judged.

Key definitions: `Invocation`, `Invocation.compile`, `ExitStatus`, `Output`, `Launcher`.
-/
import StressBench.Disk.Basic
import StressBench.Failure

namespace StressBench

/-! ### Paths of a run -/

/-- The name of the compiler. -/
def compilerName : Text := ['s', 't', 'a', 'r', 't', 'a', 's', 'm']

/-- Where the compiler is expected: one directory above the base. -/
def defaultCompiler (base : Path) : Path :=
  Path.join (Path.join base Path.above) (Path.ofText compilerName)

/-- The first argument of the compiler. -/
def compileCommand : Bytes := Utf8.encode ['c', 'o', 'm', 'p', 'i', 'l', 'e']

/-- The last argument of the compiler. -/
def timingsFlag : Bytes := Utf8.encode ['-', '-', 't', 'i', 'm', 'i', 'n', 'g', 's']

/-- The arguments of the compiler for a corpus. -/
def compileArgs (corpus : Path) : List Bytes :=
  [compileCommand, corpus, timingsFlag]

/-! ### Calls and what they bring -/

/-- One call of a program: where it runs, if not where the harness does, and how
long it may take. -/
structure Invocation where
  executable : Path
  args : List Bytes
  workingDir : Option Path := none
  timeout : Option Duration := none
  deriving DecidableEq, Repr

/-- The call of a compiler on a corpus. -/
def Invocation.compile (executable corpus : Path) : Invocation :=
  { executable, args := compileArgs corpus }

/-- How a program ended: by itself with a code, or by a signal. -/
inductive ExitStatus
  | exited (code : Nat)
  | killed (signal : Nat)
  deriving DecidableEq, Repr

namespace ExitStatus

/-- The names of the signals. -/
def signalName? : Nat → Option String
  | 1 => some "SIGHUP"
  | 2 => some "SIGINT"
  | 3 => some "SIGQUIT"
  | 4 => some "SIGILL"
  | 5 => some "SIGTRAP"
  | 6 => some "SIGABRT"
  | 7 => some "SIGBUS"
  | 8 => some "SIGFPE"
  | 9 => some "SIGKILL"
  | 10 => some "SIGUSR1"
  | 11 => some "SIGSEGV"
  | 12 => some "SIGUSR2"
  | 13 => some "SIGPIPE"
  | 14 => some "SIGALRM"
  | 15 => some "SIGTERM"
  | 16 => some "SIGSTKFLT"
  | 17 => some "SIGCHLD"
  | 18 => some "SIGCONT"
  | 19 => some "SIGSTOP"
  | 20 => some "SIGTSTP"
  | 21 => some "SIGTTIN"
  | 22 => some "SIGTTOU"
  | 23 => some "SIGURG"
  | 24 => some "SIGXCPU"
  | 25 => some "SIGXFSZ"
  | 26 => some "SIGVTALRM"
  | 27 => some "SIGPROF"
  | 28 => some "SIGWINCH"
  | 29 => some "SIGIO"
  | 30 => some "SIGPWR"
  | 31 => some "SIGSYS"
  | _ => none

/-- The status in words. -/
def render : ExitStatus → String
  | .exited code => "exit status: " ++ toString code
  | .killed signal =>
    match signalName? signal with
    | some name => "signal: " ++ toString signal ++ " (" ++ name ++ ")"
    | none => "signal: " ++ toString signal

/-- Whether the program ended by itself with code 0. -/
def isSuccess : ExitStatus → Bool
  | .exited 0 => true
  | _ => false

/-- The code of a program that ended by itself. -/
def code? : ExitStatus → Option Nat
  | .exited code => some code
  | .killed _ => none

end ExitStatus

/-- What a program printed, and how it ended. -/
structure Output where
  stdout : Text
  stderr : Text
  status : ExitStatus
  deriving DecidableEq, Repr

/-- The output of a program from the bytes that it printed. -/
def Output.ofBytes (stdout stderr : Bytes) (status : ExitStatus) : Output :=
  ⟨Utf8.decodeLossy stdout, Utf8.decodeLossy stderr, status⟩

/-- A way to carry out calls: from the current directory and the disk to what the
call brings and the disk it leaves. -/
abbrev Launcher := Location → Disk → Invocation → Except Failure Output × Disk

end StressBench
