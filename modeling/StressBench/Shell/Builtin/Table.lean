/-
# The commands of the shell by their names

The commands that the shell carries out without running other commands. A command that
leaves a loop, a named command or the script does so as a failure, which goes up to
what is left.

Key definitions: `Builtin.named?`.
-/
import StressBench.Shell.Builtin.Directory
import StressBench.Shell.Builtin.Jobs
import StressBench.Shell.Builtin.Meaning
import StressBench.Shell.Builtin.Variables
import StressBench.Shell.Tool.Condition
import StressBench.Shell.Tool.Printing

namespace StressBench
namespace Shell
namespace Builtin

/-- The status that an argument asks for, or the one of the last command. -/
def statusArgument (args : List Text) : Action Nat := do
  match args with
  | [] => return (← Action.own).status
  | a :: _ => numberOrGiveUp a

/-- Leaves loops, if the command is in any. -/
def leaveLoops (leaving : Nat → Ending) (args : List Text) : Action Nat := do
  let count ← match args with
    | [] => pure 1
    | a :: _ => numberOrGiveUp a
  if count == 0 then giveUpWith ("Illegal number: ".toList ++ args.headD [])
  let count := min count (← Action.own).loops
  if count == 0 then return 0
  Action.change fun p => { p with status := 0 }
  throw (leaving count)

/-- Prints the times that the shell and its children have worked, which is none. -/
def times : Action Nat := do
  let line := "0m0.000000s 0m0.000000s".toList
  Action.printLine line
  Action.printLine line
  return 0

/-- Refuses to bring a job to the front. -/
def noJobControl (args : List Text) : Action Nat := do
  let _ ← jobNamed (args.headD ['%'])
  giveUpWith ("job ".toList ++ args.headD "(null)".toList ++
    " not created under job control".toList)

/-- The command of the shell of a name. -/
def named? (name : String) : Option (List Text → Action Nat) :=
  match name with
  | ":" | "true" => some fun _ => return 0
  | "false" => some fun _ => return 1
  | "[" => some (Tool.shellTest true [])
  | "test" => some (Tool.shellTest false [])
  | "echo" => some (Tool.shellEcho [])
  | "printf" => some (Tool.shellPrintf [])
  | "read" => some read
  | "set" => some set
  | "shift" => some shift
  | "export" => some (declare false)
  | "readonly" => some (declare true)
  | "local" => some makeLocal
  | "unset" => some unset
  | "getopts" => some getopts
  | "cd" | "chdir" => some cd
  | "pwd" => some pwd
  | "kill" => some kill
  | "trap" => some trap
  | "wait" => some wait
  | "jobs" => some jobs
  | "fg" | "bg" => some noJobControl
  | "umask" => some umask
  | "ulimit" => some ulimit
  | "alias" => some setAlias
  | "unalias" => some clearAlias
  | "type" => some tellNames
  | "hash" => some hash
  | "times" => some fun _ => times
  | "break" => some (leaveLoops .leave)
  | "continue" => some (leaveLoops .proceed)
  | "return" => some fun args => do throw (.back (← statusArgument args))
  | "exit" => some fun args => do
    match args, (← Action.own).resting with
    | [], some status => throw (.exit status)
    | args, _ => throw (.exit (← statusArgument args))
  | _ => none

end Builtin
end Shell
end StressBench
