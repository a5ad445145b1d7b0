/-
# Processes

A process has a current directory, numbered streams, variables and a clock of its
own. The disk, the pipes and the open files belong to the system, in which all
processes of a call live. A process may also be a shell that runs a command
within it, so that streams which are only set aside are still held.

Key definitions: `Shell.Channel`, `Shell.Pipe`, `Shell.Handle`, `Shell.Ending`, `Shell.Variable`,
`Shell.Process`, `Shell.System`, `Shell.Machine`.
-/
import StressBench.Disk.Files
import StressBench.Shell.Command

namespace StressBench
namespace Shell

/-! ### What streams lead to -/

/-- Where a stream leads. -/
inductive Channel
  /-- Bytes written are put into a pipe. -/
  | gather (pipe : Nat)
  /-- Bytes read are taken from a pipe, or from the content of a file. -/
  | feed (pipe : Nat)
  /-- Bytes written go to an open file. -/
  | file (handle : Nat)
  | device (kind : Device)
  deriving DecidableEq, Repr

/-- A queue of bytes, each as its character. What has been put in last is kept in
pieces, latest first. -/
structure Pipe where
  front : Text := []
  back : List Text := []
  size : Nat := 0
  /-- A writer waits when so many bytes are held, if there is a limit. -/
  limit : Option Nat := none
  /-- The size of the file that the bytes come from. -/
  fileSize : Option Nat := none

namespace Pipe

/-- A pipe with the content of a file. -/
def ofFile (s : Text) : Pipe where
  front := s
  size := s.length
  fileSize := some s.length

/-- A pipe between two processes. -/
def between : Pipe where
  limit := some 65536

/-- All that is held. -/
def content (p : Pipe) : Text :=
  if p.back.isEmpty then p.front else p.front ++ p.back.reverse.flatten

/-- The pipe after bytes have been put in. -/
def put (p : Pipe) (s : Text) : Pipe :=
  { p with back := s :: p.back, size := p.size + s.length }

/-- The pipe with other bytes in it. -/
def holding (p : Pipe) (s : Text) (size : Nat) : Pipe :=
  { p with front := s, back := [], size }

end Pipe

/-- A file that is open for writing. -/
structure Handle where
  loc : Location
  position : Nat := 0
  /-- Whether each write goes to the end of the file. -/
  append : Bool := false
  deriving DecidableEq, Repr

/-! ### Endings -/

/-- How a process comes to an end, or leaves the command it is in. -/
inductive Ending
  | exit (status : Nat)
  | killed (signal : Nat)
  /-- The deadline has come, or it is sure to come. -/
  | stopped
  /-- A command of the shell was refused. -/
  | refused
  /-- The output could not be written. -/
  | unwritten (error : Nat)
  /-- The command that has a name, or the script, is left. -/
  | back (status : Nat)
  /-- So many loops are left. -/
  | leave (loops : Nat)
  /-- So many loops but one are left, and that one goes on with its next turn. -/
  | proceed (loops : Nat)
  deriving DecidableEq, Repr

/-! ### Processes and the system -/

/-- A variable of a shell. It may be declared without a value. -/
structure Variable where
  value : Option Text := none
  exported : Bool := false
  readOnly : Bool := false
  deriving DecidableEq, Repr

/-- A command that has a name, and the line in which it was given it. -/
structure Definition where
  line : Nat
  body : Command

/-- The streams of a process by their numbers. -/
abbrev Streams := List (Nat × Channel)

/-- What has been put in the background: its number among such, and its last process. -/
structure Job where
  number : Nat
  process : Nat
  /-- Whether the script has waited for its end. -/
  waited : Bool := false
  /-- Whether the shell knows of its end. -/
  noticed : Bool := false
  deriving DecidableEq, Repr

/-- The state of a process. -/
structure Process where
  id : Nat := 1000
  /-- The processes that wait for this one within it, the nearest first. -/
  waiting : List Nat := []
  /-- The number of the group of processes that it belongs to. -/
  group : Nat := 1000
  /-- The process in which the script was started. -/
  shellId : Nat := 1000
  cwd : Location
  /-- The path by which the current directory was reached. -/
  directory : Text := []
  streams : Streams
  /-- Streams that are set aside while a command has others. -/
  shelved : List Streams := []
  /-- Nanoseconds since the first process was started. -/
  clock : Nat := 0
  /-- How many commands have been run. -/
  commands : Nat := 0
  mask : Nat := 0o022
  /-- The name of the script. -/
  name : Text := []
  /-- The arguments after the name. -/
  args : List Text := []
  vars : List (Text × Variable) := []
  /-- For each named command that is run, what its local variables stand in place of. -/
  locals : List (List (Text × Option Variable)) := []
  definitions : List (Text × Definition) := []
  aliases : List (Text × Text) := []
  /-- The names of programs that have been found in the search path, and whether the current
  directory has been changed since. -/
  known : List (Text × Bool) := []
  /-- The letters of the options that are set. -/
  options : Text := []
  /-- The status of the last command. -/
  status : Nat := 0
  /-- The status of the last command whose output was taken. -/
  inner : Nat := 0
  /-- The line of the command that is run. -/
  line : Nat := 1
  /-- The line up to which the script has been read. -/
  readLine : Nat := 1
  /-- The command of the shell that is run. -/
  inside : Option Text := none
  /-- How many loops the command is in. -/
  loops : Nat := 0
  /-- What is done when a signal comes; 0 stands for the end. No text means nothing. -/
  traps : List (Nat × Text) := []
  /-- The signals that have come and are still to be dealt with. -/
  caught : List Nat := []
  /-- The status of the last command before what is done because a signal has come. -/
  resting : Option Nat := none
  /-- What has been put in the background, the latest first. -/
  jobs : List Job := []
  lastJob : Option Nat := none
  /-- How far the letters of an argument have been read as options. -/
  optionOffset : Nat := 0
  /-- Whether signals are dealt with by the script. -/
  isShell : Bool := false

/-- What all processes share. -/
structure System where
  disk : Disk
  pipes : Array Pipe
  handles : Array Handle := #[]
  /-- The signals on their way, each with the process it is sent to. -/
  signals : List (Nat × Nat) := []
  /-- The processes that have ended. -/
  ended : List (Nat × Ending) := []
  /-- The processes that are about to start, latest first. -/
  spawned : List (Process × Command) := []
  nextId : Nat := 1001
  deadline : Option Nat := none
  /-- What the streams of the other processes lead to. -/
  held : List Channel := []
  /-- The processes that have not ended, each with its group. -/
  alive : List (Nat × Nat) := []

/-- A process that runs in a system. -/
structure Machine where
  process : Process
  system : System

/-- The status that an ending gives. -/
def Ending.status : Ending → Nat
  | .exit status | .back status => status
  | .killed signal => 128 + signal
  | .refused => 2
  | .unwritten _ | .stopped | .leave _ | .proceed _ => 1

/-- The process and those that wait for it within it. -/
def Process.ids (p : Process) : List Nat :=
  p.id :: p.waiting

/-- Where the streams of a process lead, those that are set aside too. -/
def Process.channels (p : Process) : List Channel :=
  (p.streams :: p.shelved).flatMap fun s => s.map Prod.snd

end Shell
end StressBench
