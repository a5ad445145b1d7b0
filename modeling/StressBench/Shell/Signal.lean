/-
# Signals

The shell knows signals by their numbers and by names without `SIG`; 0 stands for
the end of the shell. A process that was ended by a signal is told of in words.

Key definitions: `Signal.ofText?`, `Signal.nameOf`, `Signal.description`.
-/
import StressBench.Invocation
import StressBench.Shell.Variable

namespace StressBench
namespace Shell
namespace Signal

/-- The greatest number of a signal. -/
def greatest : Nat := 64

/-- The name of a signal. Some have none but their number. -/
def nameOf (n : Nat) : String :=
  if n == 0 then "EXIT"
  else if n == 16 then "16"
  else
    match ExitStatus.signalName? n with
    | some name => String.ofList (name.toList.drop 3)
    | none =>
      if n < 34 then toString n
      else if n == 34 then "RTMIN"
      else if n == greatest then "RTMAX"
      else if n < 50 then "RTMIN+" ++ toString (n - 34)
      else "RTMAX-" ++ toString (greatest - n)

/-- The signal that a text names, by its number or its name. -/
def ofText? (least : Nat) (s : Text) : Option Nat :=
  match natural? s with
  | some n => if n ≤ greatest then some n else none
  | none =>
    let name := s.map Char.toUpper
    (List.range (greatest + 1)).find? fun n => least ≤ n && (nameOf n).toList == name

/-- What is said of a process that was ended by a signal. -/
def description : Nat → String
  | 1 => "Hangup"
  | 2 => "Interrupt"
  | 3 => "Quit"
  | 4 => "Illegal instruction"
  | 5 => "Trace/breakpoint trap"
  | 6 => "Aborted"
  | 7 => "Bus error"
  | 8 => "Floating point exception"
  | 9 => "Killed"
  | 10 => "User defined signal 1"
  | 11 => "Segmentation fault"
  | 12 => "User defined signal 2"
  | 13 => "Broken pipe"
  | 14 => "Alarm clock"
  | 15 => "Terminated"
  | 16 => "Stack fault"
  | 24 => "CPU time limit exceeded"
  | 25 => "File size limit exceeded"
  | 26 => "Virtual timer expired"
  | 27 => "Profiling timer expired"
  | 29 => "I/O possible"
  | 30 => "Power failure"
  | 31 => "Bad system call"
  | n => if 34 ≤ n then "Real-time signal " ++ toString (n - 34) else "Unknown signal " ++
      toString n

/-- Whether the shell tells of a command that was ended by a signal. -/
def isTold (n : Nat) : Bool :=
  n != 2 && n != 13

end Signal
end Shell
end StressBench
