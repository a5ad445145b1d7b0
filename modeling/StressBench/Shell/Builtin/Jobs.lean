/-
# Commands of the shell on processes

Signals are sent and taken care of, processes in the background are waited for and
listed, and what new files may be used for is set.

Key definitions: `Builtin.kill`, `Builtin.wait`, `Builtin.claim`, `Builtin.trap`, `Builtin.jobs`,
`Builtin.umask`.
-/
import StressBench.Shell.Builtin.Basic
import StressBench.Shell.Mode
import StressBench.Shell.Signal

namespace StressBench
namespace Shell
namespace Builtin

/-! ### Signals -/

/-- Whether a process has not ended. -/
def isAlive (id : Nat) : Action Bool := do
  let p ← Action.own
  let s ← Action.system
  return p.ids.contains id || s.alive.any (·.1 == id) || s.spawned.any fun q => q.1.id == id

/-- Sends a signal to a process. -/
def send (signal id : Nat) : Action Unit := do
  let p ← Action.own
  if p.id == id then Action.receive signal
  else if signal != 0 then
    Action.changeSystem fun s => { s with signals := s.signals ++ [(id, signal)] }

/-- The job that a text names: by its number behind a percent sign, or as the latest one or the
one before that. -/
def jobNamed (s : Text) : Action Job := do
  let jobs := (← Action.own).jobs
  let found (job : Option Job) (complaint : Text) : Action Job :=
    match job with
    | some job => return job
    | none => giveUpWith complaint
  match s with
  | ['%'] | ['%', '%'] | ['%', '+'] => found jobs.head? "No current job".toList
  | ['%', '-'] => found (jobs.drop 1).head? "No previous job".toList
  | s =>
    let number := if s.head? == some '%' then natural? (s.drop 1) else none
    found (number.bind fun n => jobs.find? fun j => j.number == n) ("No such job: ".toList ++ s)

/-- Complains that there is no such process. -/
def noSuchProcess : Action Unit :=
  complainHere "No such process\n"

/-- Sends a signal to the processes that arguments name. -/
def sendAll (signal : Nat) (targets : List Text) : Action Nat := do
  let mut status := 0
  for target in targets do
    let ids ←
      match target with
      | '%' :: _ => do
        let job ← jobNamed target
        membersOf job.process
      | '-' :: group => do membersOf (← numberOrGiveUp group)
      | target => do
        let id ← numberOrGiveUp target
        pure (if ← isAlive id then [id] else [])
    if ids.isEmpty then
      noSuchProcess
      status := 1
    for id in ids do
      send signal id
  return status
where
  /-- The processes of a group that was made by one of them. -/
  membersOf (group : Nat) : Action (List Nat) := do
    if group == (← Action.own).group then return []
    else return ((← Action.system).alive.filter fun p => p.2 == group).map Prod.fst

/-- Lists the names of signals, or names the one of a status. -/
def listSignals (args : List Text) : Action Nat := do
  match args with
  | [] =>
    Action.print ((List.range (Signal.greatest + 1)).flatMap fun n =>
      (if n == 0 then "0" else Signal.nameOf n).toList ++ ['\n'])
  | a :: _ =>
    let n ← numberOrGiveUp a
    let signal := if 128 < n then n - 128 else n
    if signal == 0 || Signal.greatest < signal then
      giveUpWith ("invalid signal number or exit status: ".toList ++ a)
    Action.printLine (Signal.nameOf signal).toList
  return 0

/-- Complains of how the command was used. -/
def killUsage : Action Nat :=
  giveUp "Usage: kill [-s sigspec | -signum | -sigspec] [pid | job]... or\nkill -l [exitstatus]"

/-- Sends a signal, or lists signals. -/
def kill (args : List Text) : Action Nat := do
  match args with
  | ('-' :: c :: cs) :: rest =>
    match Signal.ofText? 1 (c :: cs) with
    | some signal => if rest.isEmpty then killUsage else sendAll signal rest
    | none =>
      let (given, rest) ← options "l" "s" args
      if given.any fun g => g.1 == 'l' then listSignals rest
      else
        let signal ←
          match given.getLast? with
          | some (_, name) =>
            match Signal.ofText? 1 name with
            | some signal => pure signal
            | none => giveUpWith ("invalid signal number or name: ".toList ++ name)
          | none => pure 15
        if rest.isEmpty then killUsage else sendAll signal rest
  | [] => killUsage
  | targets => sendAll 15 targets

/-- Lists what is done when signals come. -/
def listTraps : Action Unit := do
  let p ← Action.own
  let set := p.traps.mergeSort fun a b => a.1 ≤ b.1
  Action.print (set.flatMap fun (signal, action) =>
    "trap -- ".toList ++ quotedText action ++ ' ' :: (Signal.nameOf signal).toList ++ ['\n'])

/-- Says what is to be done when signals come. -/
def trap (args : List Text) : Action Nat := do
  let (_, args) ← options "" "" args
  match args with
  | [] =>
    listTraps
    return 0
  | first :: rest =>
    let bare := rest.isEmpty || (natural? first).isSome
    let action := if bare || first == ['-'] then none else some first
    for name in (if bare then args else rest) do
      match Signal.ofText? 0 name with
      | none =>
        Action.write 2 ("trap: ".toList ++ name ++ ": bad trap\n".toList)
        return 1
      | some signal =>
        Action.change fun p =>
          let others := p.traps.filter fun t => t.1 != signal
          { p with traps := (action.map fun a => (signal, a)).toList ++ others }
    return 0

/-! ### Processes in the background -/

/-- How a process has ended, if it has. -/
def endingOf? (id : Nat) : Action (Option Ending) := do
  return (← Action.system).ended.lookup id

/-- Tells of a process that was ended by a signal. -/
def tellOf (ending : Ending) : Action Unit := do
  match ending with
  | .killed signal => if Signal.isTold signal then Action.complain (Signal.description signal)
  | _ => pure ()

/-- Waits until processes have ended, or until a signal has come that the script takes
care of; gives that. -/
def waitFor (ids : List Nat) : Action (Option Nat) :=
  Action.repeatUntil Action.turnMax do
    match (← Action.own).caught with
    | signal :: _ => return some (some signal)
    | [] =>
      let ended := (← Action.system).ended
      if ids.all fun id => (ended.lookup id).isSome then return some none
      Action.await (.ended ids none)
      return none

/-- Notes which jobs have ended, so that the shell knows of it. -/
def notice : Action Unit := do
  unless (← Action.own).jobs.isEmpty do
    let ended := (← Action.system).ended
    Action.change fun p => { p with
      jobs := p.jobs.map fun j =>
        { j with noticed := j.noticed || (ended.lookup j.process).isSome } }

/-- Waits for processes in the background. -/
def wait (args : List Text) : Action Nat := do
  let (_, args) ← options "" "" args
  if args.isEmpty then
    match ← waitFor ((← Action.own).jobs.map Job.process) with
    | some signal => return 128 + signal
    | none =>
      notice
      Action.change fun p => { p with jobs := p.jobs.map fun j => { j with waited := true } }
      return 0
  else
    let mut status := 0
    for a in args do
      let job ←
        if a.head? == some '%' then do pure (some (← jobNamed a))
        else do
          let id ← numberOrGiveUp a
          pure ((← Action.own).jobs.find? fun j => j.process == id)
      match job with
      | none => status := 127
      | some job =>
        match ← waitFor [job.process] with
        | some signal => return 128 + signal
        | none =>
          let ending := (← endingOf? job.process).getD (.exit 127)
          unless job.noticed do tellOf ending
          notice
          Action.change fun p => { p with
            jobs := p.jobs.map fun j =>
              if j.number == job.number then { j with waited := true } else j }
          status := ending.status
    return status

/-- The number of a new job, and the jobs that are left: the first number that is free, or that
of a job which the script has waited for. -/
def claim (jobs : List Job) : Nat × List Job :=
  let isTaken (n : Nat) : Bool := jobs.any fun j => j.number == n && !j.waited
  let number := ((List.range (jobs.length + 1)).find? fun n => !isTaken (n + 1)).getD 0 + 1
  (number, jobs.filter fun j => j.number != number)

/-- The state of a job as it is told. -/
def stateOf (ending : Option Ending) : String :=
  match ending with
  | none => "Running"
  | some (.exit 0) => "Done"
  | some (.killed signal) => Signal.description signal
  | some e => "Done(" ++ toString e.status ++ ")"

/-- Tells of a job. One that has ended is told of once. -/
def tellJob (form : Option Char) (job : Job) : Action Unit := do
  let jobs := (← Action.own).jobs
  let ending ← endingOf? job.process
  if form == some 'p' then Action.printLine (numeral job.process)
  else
    let sign := if jobs.head? == some job then '+'
      else if (jobs.drop 1).head? == some job then '-' else ' '
    let id := if form == some 'l' then numeral job.process ++ [' '] else []
    let head := '[' :: numeral job.number ++ ']' :: ' ' :: sign :: ' ' ::
      id ++ (stateOf ending).toList
    Action.printLine (head ++ List.replicate (33 - head.length) ' ')
  if ending.isSome then
    Action.change fun p => { p with jobs := p.jobs.filter fun j => j.number != job.number }

/-- Lists what is in the background, or tells of some of it. -/
def jobs (args : List Text) : Action Nat := do
  let (given, args) ← options "lp" "" args
  let form := given.getLast?.map Prod.fst
  notice
  if args.isEmpty then
    for job in (← Action.own).jobs do
      tellJob form job
  else
    for a in args do
      tellJob form (← jobNamed a)
  return 0

/-! ### Limits -/

/-- Shows or sets what new files may not be used for. -/
def umask (args : List Text) : Action Nat := do
  let (given, args) ← options "S" "" args
  let mask := (← Action.own).mask
  match args with
  | [] =>
    if given.isEmpty then
      let digits := Nat.toDigits 8 mask
      Action.printLine (List.replicate (4 - digits.length) '0' ++ digits)
    else
      let rights (shift : Nat) := Mode.rightsOf (7 ^^^ ((mask >>> shift) &&& 7))
      Action.printLine ("u=".toList ++ rights 6 ++ ",g=".toList ++ rights 3 ++ ",o=".toList ++
        rights 0)
  | a :: _ =>
    if (a.head?.map Char.isDigit).getD false then
      match Mode.ofOctal? a with
      | some mask => Action.change fun p => { p with mask := mask &&& 0o777 }
      | none => giveUpWith ("Illegal number: ".toList ++ a)
    else
      match Mode.changedBy? 0 true a (0o777 ^^^ mask) with
      | some mode => Action.change fun p => { p with mask := 0o777 ^^^ (mode &&& 0o777) }
      | none => giveUpWith ("Illegal mode: ".toList ++ a)
  return 0

/-- Shows limits of the system, of which there are none but for memory images. -/
def ulimit (args : List Text) : Action Nat := do
  let (given, args) ← options "HSatfdscmlpnvwr" "" args
  let wanted := (given.map Prod.fst).filter fun c => c != 'H' && c != 'S'
  if args.isEmpty then
    Action.printLine (if wanted.getLast? == some 'c' then ['0'] else "unlimited".toList)
  return 0

/-! ### Words that stand for other text -/

/-- Gives words another text, or shows it. -/
def setAlias (args : List Text) : Action Nat := do
  let p ← Action.own
  let line (a : Text × Text) := a.1 ++ '=' :: quotedText a.2 ++ ['\n']
  if args.isEmpty then
    Action.print (p.aliases.flatMap line)
    return 0
  else
    let mut status := 0
    for a in args do
      let name := a.takeWhile (· != '=')
      if !name.isEmpty && name.length < a.length then
        Action.change fun p =>
          { p with
            aliases := (name, a.drop (name.length + 1)) :: p.aliases.filter fun b => b.1 != name }
      else
        match (← Action.own).aliases.lookup a with
        | some text => Action.print (line (a, text))
        | none =>
          Action.write 2 ("alias: ".toList ++ a ++ " not found\n".toList)
          status := 1
    return status

/-- Takes the text of words away. -/
def clearAlias (args : List Text) : Action Nat := do
  let (given, args) ← options "a" "" args
  if !given.isEmpty then Action.change fun p => { p with aliases := [] }
  let mut status := 0
  for a in args do
    if ((← Action.own).aliases.lookup a).isNone then
      Action.write 2 ("unalias: ".toList ++ a ++ " not found\n".toList)
      status := 1
    Action.change fun p => { p with aliases := p.aliases.filter fun b => b.1 != a }
  return status

end Builtin
end Shell
end StressBench
