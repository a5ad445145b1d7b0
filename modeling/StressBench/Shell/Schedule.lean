/-
# Processes side by side

Each process has a clock. Of those that can go on, the one whose clock is behind goes
on until it waits again or ends. A process whose condition is met by what another does
goes on at the time of that. When the first process has ended the others go on as long
as one of them may still write to its outputs.

Key definitions: `Schedule.Task`, `Schedule`, `Schedule.step`, `Schedule.complete`.
-/
import StressBench.Shell.Evaluate

namespace StressBench
namespace Shell

/-- A process that waits, and how it goes on. -/
structure Task where
  process : Process
  condition : Condition
  /-- Whether what it waits for has come. -/
  ready : Bool := false
  next : Machine → Flow Nat

/-- Processes side by side, the first of which is looked at. -/
structure Schedule where
  tasks : List Task
  system : System
  /-- How the first process has ended. -/
  ending : Option Ending := none
  /-- The time of what has been done last. -/
  clock : Nat := 0

namespace Schedule

/-- The number of the first process. -/
def firstId : Nat := 1000

/-- Whether one of some processes has a stream that leads somewhere. -/
def holds (tasks : List Task) (channel : Channel) : Bool :=
  tasks.any fun t => t.process.channels.contains channel

/-- Whether a condition is met, other processes being what they are. -/
def isMet (others : List Task) (system : System) : Condition → Bool
  | .time _ | .signal => false
  | .input pipe =>
    (system.pipes[pipe]?.getD {}).size != 0 || !holds others (.gather pipe)
  | .space pipe =>
    let p := system.pipes[pipe]?.getD {}
    p.size < p.limit.getD (p.size + 1) || !holds others (.feed pipe)
  | .released pipe => !holds others (.gather pipe)
  | .ended ids _ => ids.all fun id => (system.ended.lookup id).isSome

/-- The time at which a process goes on, if that is known. -/
def timeOf? (t : Task) : Option Nat :=
  if t.ready then some t.process.clock
  else
    match t.condition with
    | .time at_ => some (max at_ t.process.clock)
    | .ended _ (some limit) => some (max limit t.process.clock)
    | _ => none

/-- A process that goes on from a time at the earliest if what it waits for has come. -/
def awakened (tasks : List Task) (system : System) (clock : Nat) (t : Task) : Task :=
  if t.ready then t
  else
    let others := tasks.filter fun u => u.process.id != t.process.id
    if isMet others system t.condition || system.signals.any (·.1 == t.process.id) then
      { t with ready := true, process := { t.process with clock := max clock t.process.clock } }
    else t

/-- The process that goes on next, and when. -/
def next? (tasks : List Task) : Option (Task × Nat) :=
  tasks.foldl (fun best t =>
    match timeOf? t, best with
    | none, best => best
    | some time, none => some (t, time)
    | some time, some (u, least) => if time < least then some (t, time) else some (u, least)) none

/-- The process of a command that has been handed to the system. -/
def started (p : Process × Command) : Task where
  process := p.1
  condition := .time p.1.clock
  next := Evaluate.runSpawned p.2

/-- An ending with the status that the system keeps of it. -/
def kept : Ending → Ending
  | .killed signal => .killed signal
  | .stopped => .stopped
  | ending => .exit (ending.status % 256)

/-- What is there after a process has gone on. -/
def after (s : Schedule) (others : List Task) : Flow Nat → Schedule
  | .done status m => closed m (.exit status)
  | .fail e m => closed m e
  | .wait condition m next =>
    settled m [{ process := m.process, condition, next }]
where
  /-- The others, and those that have been started. -/
  settled (m : Machine) (own : List Task) : Schedule :=
    let tasks := others ++ own ++ m.system.spawned.reverse.map started
    let system := { m.system with spawned := [] }
    let clock := max s.clock m.process.clock
    { s with tasks := tasks.map (awakened tasks system clock), system, clock }
  /-- The others, one process having ended. -/
  closed (m : Machine) (ending : Ending) : Schedule :=
    let ending := kept ending
    let id := m.process.id
    let ended := (id, ending) :: m.system.ended
    let s := settled { m with system := { m.system with ended } } []
    if id == firstId then { s with ending := some ending } else s

/-- Whether time is up at a time. -/
def isLate (s : Schedule) (time : Nat) : Bool :=
  match s.system.deadline with
  | some limit => limit ≤ time
  | none => false

/-- One process goes on, if any can in time. -/
def step (s : Schedule) : Option Schedule :=
  match next? s.tasks with
  | none => none
  | some (t, time) =>
    if s.isLate time then none
    else
      let others := s.tasks.filter fun u => u.process.id != t.process.id
      let system :=
        { s.system with
          held := others.flatMap fun u => u.process.channels
          alive := others.flatMap fun u => u.process.ids.map fun id => (id, u.process.group) }
      some (s.after others (t.next ⟨{ t.process with clock := time }, system⟩))

/-- Whether the first process has ended and nobody can write to its outputs. -/
def isComplete (s : Schedule) : Bool :=
  s.ending.isSome && !holds s.tasks (.gather 0) && !holds s.tasks (.gather 1)

/-- Goes on until all is done that is looked at, at most so many steps. -/
def complete : Nat → Schedule → Schedule
  | 0, s => s
  | n + 1, s =>
    if s.isComplete then s
    else
      match s.step with
      | some s => complete n s
      | none => { s with ending := some .stopped }

/-- The schedule of a program that is started. -/
def ofStart (start : Start) (p : Process) (system : System) : Schedule where
  tasks := [{ process := p, condition := .time p.clock, next := Evaluate.begin start }]
  system

/-- Runs a program to its end. -/
def run (start : Start) (p : Process) (system : System) : Schedule :=
  complete Action.turnMax (ofStart start p system)

end Schedule
end Shell
end StressBench
