/-
# Tools that start programs

`env` runs a program with other variables, `timeout` until a time is up, `xargs` with
arguments that it reads; `nice`, `nohup` and their like just run it. `sleep` starts
nothing and lets time pass.

Key definitions: `Tool.interval?`, `Tool.sleep`, `Tool.env`, `Tool.printenv`, `Tool.timeout`,
`ArgumentStyle`, `Tool.argumentsIn`, `Tool.xargs`.
-/
import StressBench.Number.Duration
import StressBench.Shell.Builtin.Jobs
import StressBench.Shell.Tool.Numeral
import StressBench.Shell.Tool.Options

namespace StressBench
namespace Shell
namespace Tool

/-! ### Spans of time -/

/-- The nanoseconds that a text writes: a number of seconds, or of what the letter behind it
stands for. A number without end gives none. -/
def interval? (s : Text) : Option (Option Nat) :=
  if ["inf", "infinity"].contains (String.ofList (s.map Char.toLower)) then some none
  else
    match Numeral.realAt? s with
    | none => none
    | some (q, unit) =>
      let seconds : Option Nat :=
        match unit with
        | [] | ['s'] => some 1
        | ['m'] => some 60
        | ['h'] => some 3600
        | ['d'] => some 86400
        | _ => none
      if q < 0 then none
      else seconds.map fun k => some (q * (k : Rat) * (Duration.perSecond : Rat)).floor.toNat

/-- Lets time pass. -/
def sleep : Tool := withOptions "" 1 fun name o => do
  let bad := o.operands.filter fun s => (interval? s).isNone
  if o.operands.isEmpty then missingOperand name "operand"
  else if bad.isEmpty then
    let spans := o.operands.filterMap interval?
    if spans.any Option.isNone then Action.forever
    Action.sleep ((spans.filterMap id).foldl (· + ·) 0)
    return 0
  else
    let messages := bad.map fun s => "invalid time interval " ++ inQuotes s
    misuse name (("\n" ++ shown name ++ ": ").intercalate messages) 1

/-! ### Running a program in place of the tool -/

/-- Runs a program in place of the tool, or complains that it cannot be run. -/
def becoming (r : Runner) (name : Text) (words : String) (command : List Text) : Action Nat := do
  match command with
  | [] => return 0
  | program :: args =>
    match ← r.replace program args with
    | .ok status => return status
    | .error e =>
      fault name (words ++ inQuotes program ++ ": " ++ Errno.text e)
      return if e == Errno.noEntry then 127 else 126

/-- Takes a variable away, whatever its name. -/
def dropVariable (name : Text) : Action Unit :=
  Action.change fun p => { p with vars := p.vars.filter fun v => v.1 != name }

/-- Puts the variables that arguments write in place, and gives the other arguments. -/
def setVariables : List Text → Action (List Text)
  | [] => return []
  | a :: rest => do
    if a.contains '=' then
      let name := a.takeWhile (· != '=')
      setVariable name { value := some (a.drop (name.length + 1)), exported := true }
      setVariables rest
    else return a :: rest

/-- Runs a program with other variables, or prints the variables. -/
def env (r : Runner) : Tool := fun name args => do
  let forms := OptionForm.listOfText ("i/ignore-environment 0/null u/unset= C/chdir= v/debug " ++
    "S/split-string=")
  let blanks (s : Text) := (s.splitOnP isSpace).filter (!·.isEmpty)
  let args :=
    match args with
    | ('-' :: 'S' :: s) :: rest => blanks s ++ rest
    | args => args
  match Options.read forms false args with
  | .error message => misuse name message 125
  | .ok o =>
    let split := ((o.last? "S").map blanks).getD []
    let operands := split ++ o.operands
    let dash := operands.head? == some ['-']
    if o.has "i" || dash then Action.change fun p => { p with vars := [] }
    for (key, value) in o.given do
      if key == "u" then dropVariable value
    let entered ←
      match o.last? "C" with
      | none => pure none
      | some dir =>
        match (← Action.disk).directoryAt (← Action.own).cwd (toBytes dir) with
        | .ok loc => do
          Action.change fun p => { p with cwd := loc }
          pure none
        | .error e => pure (some (dir, Action.errorNumber e))
    match entered with
    | some (dir, e) =>
      withWords name "cannot change directory to" dir e
      return 125
    | none =>
      let command ← setVariables (if dash then operands.drop 1 else operands)
      if command.isEmpty then
        let mark := if o.has "0" then [Char.ofNat 0] else ['\n']
        for (given, value) in (← Action.own).vars.filterMap fun v =>
            v.2.value.map fun s => (v.1, s) do
          Action.print (given ++ '=' :: value ++ mark)
        return 0
      else if o.has "0" then misuse name "cannot specify --null (-0) with command" 125
      else becoming r name "" command

/-- Prints variables that were handed on. -/
def printenv : Tool := withLeadingOptions "0/null" 2 fun _ o => do
  let mark := if o.has "0" then [Char.ofNat 0] else ['\n']
  let p ← Action.own
  if o.operands.isEmpty then
    for (given, v) in p.vars do
      Action.print (given ++ '=' :: v.value.getD [] ++ mark)
    return 0
  else
    let found := o.operands.filterMap fun n => (p.vars.lookup n).bind Variable.value
    for value in found do
      Action.print (value ++ mark)
    return if found.length == o.operands.length then 0 else 1

/-- Runs a program with a change of how much of the processor it may have, which is of no
account. -/
def nice (r : Runner) : Tool := withLeadingOptions "n/adjustment=" 125 fun name o => do
  match o.last? "n" with
  | some n =>
    if (integer? n).isNone then refuse name ("invalid adjustment " ++ inQuotes n) 125
    else if o.operands.isEmpty then misuse name "a command must be given with an adjustment" 125
    else becoming r name "" o.operands
  | none =>
    if o.operands.isEmpty then
      Action.print ['0', '\n']
      return 0
    else becoming r name "" o.operands

/-- Runs a program that is not ended when its terminal goes away. -/
def nohup (r : Runner) : Tool := withLeadingOptions "" 125 fun name o => do
  if o.operands.isEmpty then misuse name "missing operand" 125
  else
    Action.change fun p => { p with traps := (1, []) :: p.traps.filter fun t => t.1 != 1 }
    becoming r name "failed to run command " o.operands

/-- Runs a program whose streams are buffered in another way, which is of no account. -/
def stdbuf (r : Runner) : Tool := withLeadingOptions "i/input= o/output= e/error=" 125
    fun name o => do
  if o.operands.isEmpty then misuse name "missing operand" 125
  else if o.given.isEmpty then misuse name "you must specify a buffering mode option" 125
  else becoming r name "failed to run command " o.operands

/-- Runs a program in a group of its own. -/
def setsid (r : Runner) : Tool := withLeadingOptions "c/ctty f/fork w/wait" 1 fun name o => do
  if o.operands.isEmpty then misuse name "no command specified" 1
  else
    Action.change fun p => { p with group := p.id }
    becoming r name "failed to execute " o.operands

/-! ### Running a program for a time -/

/-- Waits until a process has ended, or until a time. -/
def awaitUntil (id : Nat) (limit : Option Nat) : Action (Option Ending) :=
  Action.repeatUntil Action.turnMax do
    match (← Action.system).ended.lookup id with
    | some ending => return some (some ending)
    | none =>
      let now := (← Action.own).clock
      if (limit.map fun t => decide (t ≤ now)).getD false then return some none
      Action.await (.ended [id] limit)
      return none

/-- Sends a signal to a process and to all in the group, but to the tool itself only if
nothing can be done about the signal. -/
def sendGroup (signal id : Nat) : Action Unit := do
  let group := (← Action.own).group
  let own := (← Action.own).id
  let members := ((← Action.system).alive.filter fun p => p.2 == group).map Prod.fst
  for member in id :: members.filter fun m => m != id && m != own do
    Builtin.send signal member
  if signal == 9 then throw (.killed 9)

/-- The time that an option gives a program, if it is given. -/
def spanOf? (o : Options) (key : String) : Option (Option (Option Nat)) :=
  (o.last? key).map interval?

/-- Runs a program and ends it when its time is up. -/
def timeout (r : Runner) : Tool := withLeadingOptions
    "s/signal= k/kill-after= /preserve-status /foreground v/verbose" 125 fun name o => do
  let badInterval (s : Text) := misuse name ("invalid time interval " ++ inQuotes s) 125
  let signalText := (o.last? "s").getD ['T', 'E', 'R', 'M']
  let plainSignal := signalText.map Char.toUpper
  let plainSignal :=
    if "SIG".toList.isPrefixOf plainSignal then plainSignal.drop 3 else plainSignal
  match spanOf? o "k", Signal.ofText? 0 plainSignal, o.operands with
  | some none, _, _ => badInterval ((o.last? "k").getD [])
  | _, none, _ => misuse name (inQuotes signalText ++ ": invalid signal") 125
  | killAfter, some signal, span :: program :: args =>
    match interval? span with
    | none => badInterval span
    | some time =>
      let start := (← Action.own).clock
      let time := time.bind fun t => if t == 0 then none else some t
      unless o.has "foreground" do Action.change fun p => { p with group := p.id }
      match ← r.launch program args with
      | .error e =>
        fault name ("failed to run command " ++ inQuotes program ++ ": " ++ Errno.text e)
        return if e == Errno.noEntry then 127 else 126
      | .ok id =>
        let told (signal : Nat) : Action Unit := do
          if o.has "v" then
            fault name ("sending signal " ++ Signal.nameOf signal ++ " to command " ++
              inQuotes program)
        match ← awaitUntil id (time.map (start + ·)) with
        | some (.killed signal) => throw (.killed signal)
        | some ending => return ending.status
        | none =>
          told signal
          sendGroup signal id
          let grace := killAfter.bind fun t => t.bind fun t => t
          let sent := (← Action.own).clock
          let ending ←
            match ← awaitUntil id (grace.map (sent + ·)) with
            | some ending => pure ending
            | none =>
              told 9
              sendGroup 9 id
              pure ((← awaitUntil id none).getD (.killed 9))
          return if o.has "preserve-status" || ending == .killed 9 then ending.status else 124
  | _, _, _ => misuse name "missing operand" 125

/-! ### Arguments that are read -/

/-- How arguments are told apart. -/
inductive ArgumentStyle
  /-- At blanks and line ends, which may be quoted. -/
  | words
  /-- At line ends, where quotes count. -/
  | lines
  /-- At a character. -/
  | marked (mark : Char)
  deriving DecidableEq, Repr

/-- What has been read of arguments: those that are complete, latest first and each with
the line it ends in, and the characters of one that has begun. -/
structure ArgumentState where
  done : List (Nat × Text) := []
  begun : Option Text := none
  quote : Option Char := none
  escaped : Bool := false
  line : Nat := 0

namespace ArgumentState

/-- Completes the argument that has begun. -/
def close (a : ArgumentState) : ArgumentState :=
  match a.begun with
  | some s => { a with done := (a.line, s.reverse) :: a.done, begun := none }
  | none => a

/-- Adds a character to the argument. -/
def add (a : ArgumentState) (c : Char) : ArgumentState :=
  { a with begun := some (c :: a.begun.getD []) }

/-- Reads a character. A quoted text may not go on in the next line. -/
def next (style : ArgumentStyle) (a : ArgumentState) (c : Char) : Except Char ArgumentState :=
  match style with
  | .marked mark => .ok (if c == mark then { a with begun := some (a.begun.getD []) }.close
      else a.add c)
  | style =>
    if a.escaped then .ok { a.add c with escaped := false }
    else
      match a.quote with
      | some q =>
        if c == q then .ok { a with quote := none }
        else if c == '\n' then .error q
        else .ok (a.add c)
      | none =>
        if c == '\\' then .ok { a with escaped := true, begun := some (a.begun.getD []) }
        else if c == '\'' || c == '"' then
          .ok { a with quote := some c, begun := some (a.begun.getD []) }
        else if c == '\n' then
          let a := a.close
          .ok { a with line := a.line + 1 }
        else if isSpace c && (style == .words || a.begun.isNone) then
          .ok (if style == .words then a.close else a)
        else .ok (a.add c)

/-- Reads all characters of a text. -/
def run (style : ArgumentStyle) : ArgumentState → Text → Except Char ArgumentState
  | a, [] => match a.quote with
    | some q => .error q
    | none => .ok a.close
  | a, c :: s =>
    match a.next style c with
    | .error q => .error q
    | .ok a => run style a s

end ArgumentState

/-- The arguments in a text, each with its line; the quote of one that is not closed. -/
def argumentsIn (style : ArgumentStyle) (s : Text) : Except Char (List (Nat × Text)) :=
  (ArgumentState.run style {} s).map fun a => a.done.reverse

/-- The size of arguments. -/
def sizeOfArguments (args : List Text) : Nat :=
  args.foldl (fun n a => n + a.length + 1) 0

/-- The arguments for one run, and those that are left: at most so many, of so many lines, and
with so many characters. -/
def batch (count lines size : Nat) : List (Nat × Text) → List Text × List (Nat × Text)
  | [] => ([], [])
  | (line, a) :: rest =>
    if count == 0 || lines ≤ line || size < a.length + 1 then ([], (line, a) :: rest)
    else
      let (taken, left) := batch (count - 1) lines (size - (a.length + 1)) rest
      (a :: taken, left)

/-- The arguments for all runs, at most so many runs. -/
def batches (count lines size : Nat) : Nat → List (Nat × Text) → List (List Text)
  | 0, _ => []
  | _, [] => []
  | n + 1, (line, a) :: rest =>
    let (taken, left) := batch (count - 1) (line + lines) (size - (a.length + 1)) rest
    (a :: taken) :: batches count lines size n left

/-- A text with each place of another replaced. -/
def substituted (mark value : Text) : Nat → Text → Text
  | 0, s => s
  | _, [] => []
  | n + 1, c :: s =>
    if mark.isPrefixOf (c :: s) && !mark.isEmpty then
      value ++ substituted mark value n ((c :: s).drop mark.length)
    else c :: substituted mark value n s

/-- The character that a text for an option names. -/
def delimiterOf (s : Text) : Char :=
  ((unescaped s).head?).getD (Char.ofNat 0)
where
  /-- The text with an escape at its beginning replaced. -/
  unescaped : Text → Text
    | ['\\', 'n'] => ['\n']
    | ['\\', 't'] => ['\t']
    | ['\\', '0'] => [Char.ofNat 0]
    | ['\\', '\\'] => ['\\']
    | s => s

/-- Runs a program with one batch of arguments; its status, and whether that is the last. -/
def runBatch (r : Runner) (name : Text) (traced : Bool) (command : List Text) :
    Action (Nat × Bool) := do
  let program := command.headD []
  if traced then Action.write 2 ([' '].intercalate command ++ ['\n'])
  let started ← Action.withStreams (Action.led 0 (.device .null)) (r.start program (command.drop 1))
  match started with
  | .error e =>
    plainComplaint name program e
    return (if e == Errno.noEntry then 127 else 126, true)
  | .ok (.killed signal) =>
    fault name (shown program ++ ": terminated by signal " ++ toString signal)
    return (125, true)
  | .ok ending =>
    if ending.status == 255 then
      fault name (shown program ++ ": exited with status 255; aborting")
      return (124, true)
    else return (if ending.status == 0 then 0 else 123, false)

/-- Runs a program with arguments that are read. -/
def xargs (r : Runner) : Tool := withLeadingOptions ("0/null a/arg-file= d/delimiter= I= i? " ++
    "L/max-lines= l? n/max-args= P/max-procs= p/interactive r/no-run-if-empty s/max-chars= " ++
    "t/verbose x/exit E= e?") 1 fun name o => do
  let number (key : String) : Except Text (Option Nat) :=
    match o.last? key with
    | none => .ok none
    | some s => match natural? s with
      | some n => .ok (some n)
      | none => .error s
  match number "n", number "L", number "s", o.last? "I" with
  | .error s, _, _, _ => refuse name ("invalid number \"" ++ shown s ++ "\" for -n option") 1
  | _, .error s, _, _ => refuse name ("invalid number \"" ++ shown s ++ "\" for -L option") 1
  | _, _, .error s, _ => refuse name ("invalid number \"" ++ shown s ++ "\" for -s option") 1
  | .ok count, .ok lines, .ok size, mark =>
    let command := if o.operands.isEmpty then ["echo".toList] else o.operands
    let style : ArgumentStyle :=
      if o.has "0" then .marked (Char.ofNat 0)
      else
        match o.last? "d" with
        | some s => .marked (delimiterOf s)
        | none => if mark.isSome then .lines else .words
    let text ←
      match o.last? "a" with
      | none => pure (.ok (← Action.readAll))
      | some path => withInput path Action.readAll
    match text with
    | .error e =>
      fault name ("Cannot open input file " ++ inQuotes (((o.last? "a").getD [])) ++ ": " ++
        Errno.text e)
      return 1
    | .ok text =>
      match argumentsIn style text with
      | .error q =>
        let kind := if q == '"' then "double" else "single"
        refuse name ("unmatched " ++ kind ++ " quote; by default quotes are special to xargs " ++
          "unless you use the -0 option") 1
      | .ok args =>
        let commands :=
          match mark with
          | some mark =>
            args.map fun a => command.map fun w => substituted mark a.2 (w.length + 1) w
          | none =>
            let room := (size.getD 131072) - sizeOfArguments command
            if args.isEmpty then (if o.has "r" then [] else [command])
            else
              (batches (count.getD (args.length + 1)) (lines.getD (text.length + 2)) room
                (args.length + 1) args).map fun batch => command ++ batch
        Action.loop Action.turnMax (commands, 0) fun (commands, status) => do
          match commands with
          | [] => return .inr status
          | command :: rest =>
            let (code, last) ← runBatch r name (o.has "t") command
            let status := if code == 0 then status else code
            return if last then .inr status else .inl (rest, status)

end Tool
end Shell
end StressBench
