/-
# Processes of their own

What a subshell does, or a command whose output is taken, leaves the variables and
the streams of the shell as they were. While it runs the shell waits, so it takes the
place of the shell and gives it back. The stages of a pipeline and what is put in the
background run beside the shell and are handed to the system to be started.

Key definitions: `Child.ofShell`, `Child.within`, `Child.spawn`, `Child.spawnStages`,
`Child.awaitAll`, `Child.gathered`.
-/
import StressBench.Shell.Builtin.Jobs

namespace StressBench
namespace Shell
namespace Child

/-- The time that it takes to start a process. -/
def forkCost : Nat := 300000

/-- The time that it takes to start a program. -/
def startCost : Nat := 1000000

/-- How many commands take little time. -/
def briefCommands : Nat := 200000

/-- The time that a command takes. A script that runs very many is taken to run for long. -/
def commandCost (commands : Nat) : Nat :=
  if commands < briefCommands then 1000 else 20000

/-- The process of a shell that goes on as a subshell: what it does when signals come is no
longer done, and what is in the background is not its own. -/
def asSubshell (p : Process) : Process :=
  { p with
    jobs := []
    traps := p.traps.filter fun t => t.2.isEmpty
    caught := [] }

/-- A new process that goes on as a subshell of another one. -/
def ofShell (p : Process) (id : Nat) : Process :=
  { asSubshell p with id, clock := p.clock + forkCost }

/-- A number for a new process. -/
def newId : Action Nat := do
  let id := (← Action.system).nextId
  Action.changeSystem fun s => { s with nextId := id + 1 }
  return id

/-- Makes room among the jobs for a process that the shell waits for. -/
def reserve : Action Unit := do
  unless (← Action.own).jobs.isEmpty do
    Action.change fun p => { p with jobs := (Builtin.claim p.jobs).2 }

/-- Runs an action in a process of its own, for which the shell waits. Gives how it ended. -/
def within (act : Action Nat) : Action Ending := do
  reserve
  let parent ← Action.own
  let id ← newId
  Action.change fun p =>
    { ofShell p id with waiting := parent.ids, shelved := parent.streams :: parent.shelved }
  let ending ← Action.ending act
  let child ← Action.own
  Action.change fun _ =>
    { parent with clock := max parent.clock child.clock, commands := child.commands }
  if ending == .stopped then throw .stopped
  Builtin.notice
  Action.attend
  return ending

/-- Has a command run beside the shell, in a process that is changed first. Gives its
number. -/
def spawn (change : Process → Process) (command : Command) : Action Nat := do
  let p ← Action.own
  let id ← newId
  let child := change { ofShell p id with waiting := [], shelved := [] }
  Action.changeSystem fun s => { s with spawned := (child, command) :: s.spawned }
  return id

/-- Has the stages of a pipeline run beside the shell, each reading what the one before
writes. Gives their numbers. Something may be done before each is started. -/
def spawnStages (before : Command → Action Unit) (change : Process → Process) :
    Option Channel → List Command → Action (List Nat)
  | _, [] => return []
  | input, stage :: rest => do
    before stage
    let fed (s : Streams) := (input.map fun c => Action.led 0 c s).getD s
    if rest.isEmpty then
      return [← spawn (fun p => change { p with streams := fed p.streams }) stage]
    else
      let pipe ← Action.newPipe Pipe.between
      let id ← spawn
        (fun p => change { p with streams := Action.led 1 (.gather pipe) (fed p.streams) }) stage
      return id :: (← spawnStages before change (some (.feed pipe)) rest)

/-- Waits until processes have ended and gives how. -/
def awaitAll (ids : List Nat) : Action (List Ending) :=
  Action.repeatUntil Action.turnMax do
    let ended := (← Action.system).ended
    let endings := ids.filterMap fun id => ended.lookup id
    if endings.length == ids.length then return some endings
    Action.await (.ended ids none)
    return none

/-- The text that is put into a pipe by an action and by all that it leaves behind, and how
the action ended. -/
def gathered (act : Action Nat) : Action (Text × Ending) := do
  let pipe ← Action.newPipe ({} : Pipe)
  let ending ← within do
    Action.change fun p => { p with streams := Action.led 1 (.gather pipe) p.streams }
    act
  Action.repeatTurns Action.turnMax do
    if ← Action.isHeld (.gather pipe) then
      Action.await (.released pipe)
      return true
    else return false
  let text := (← Action.pipeAt pipe).content
  Action.changePipe pipe fun _ => {}
  return (text, ending)

/-- Keeps the numbers of the processes that have been put in the background. -/
def remember (id : Nat) : Action Unit :=
  Action.change fun p =>
    let (number, others) := Builtin.claim p.jobs
    { p with jobs := ⟨number, id, false, false⟩ :: others, lastJob := some id }

/-- The process of what is put in the background: some signals have no effect on it. -/
def inBackground (p : Process) : Process :=
  { p with traps := [(2, []), (3, [])] ++ p.traps.filter fun t => t.1 != 2 && t.1 != 3 }

/-- The process when another program takes its place: only what is handed on is kept. -/
def replaced (p : Process) : Process :=
  { p with
    vars := imported (environment p)
    locals := []
    definitions := []
    aliases := []
    known := []
    options := []
    status := 0
    inside := none
    loops := 0
    traps := p.traps.filter fun t => t.2.isEmpty
    caught := []
    resting := none
    jobs := []
    lastJob := none
    optionOffset := 0
    isShell := false }

end Child
end Shell
end StressBench
