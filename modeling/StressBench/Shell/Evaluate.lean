/-
# Running scripts

Commands act on a process. A failure goes up to where it is caught: a loop that is left,
a named command, or the shell, which does what the script wants at its end and then
ends. Recursion is bounded by the nesting of commands; a script that nests more deeply
is ended as the system does that.

Key definitions: `Manner`, `Evaluate.run`, `Evaluate.runText`, `Evaluate.runProgram`,
`Evaluate.runStart`, `Evaluate.runSpawned`.
-/
import StressBench.Shell.Builtin.Table
import StressBench.Shell.Child
import StressBench.Shell.Redirection
import StressBench.Shell.Tool.Standard

namespace StressBench
namespace Shell

/-- How a command is run. -/
structure Manner where
  /-- Its failure is looked at. -/
  tested : Bool := false
  /-- The process has nothing to do after it. -/
  last : Bool := false

/-- The manner of a command whose failure is looked at. -/
def Manner.asTest : Manner := ⟨true, false⟩

/-- The manner of a command that is not the last. -/
def Manner.within (m : Manner) : Manner := ⟨m.tested, false⟩

namespace Evaluate

/-! ### Statuses and failures -/

/-- Sets the status of the last command. -/
def setStatus (status : Nat) : Action Unit :=
  Action.change fun p => { p with status }

/-- The status of the last command. -/
def lastStatus : Action Nat := do
  return (← Action.own).status

/-- Ends a script that is to end when a command fails and nobody looks at that. -/
def insist (m : Manner) : Action Unit := do
  let p ← Action.own
  if p.status != 0 && !m.tested && p.options.contains 'e' then throw (.exit p.status)

/-- The end of nesting. -/
def tooDeep {α : Type} : Action α :=
  throw (.killed 11)

/-- Runs a turn of a loop, and says whether the loop goes on. -/
def turn (body : Action Bool) : Action Bool := do
  try body
  catch e =>
    match e with
    | .leave (n + 2) => throw (.leave (n + 1))
    | .leave _ => return false
    | .proceed (n + 2) => throw (.proceed (n + 1))
    | .proceed _ => return true
    | e => throw e

/-- Runs an action within a loop. -/
def inLoop (act : Action Unit) : Action Unit := do
  let loops := (← Action.own).loops
  Action.change fun p => { p with loops := loops + 1 }
  try act
  catch e =>
    Action.change fun p => { p with loops }
    throw e
  Action.change fun p => { p with loops }

/-- Runs an action with streams that it may lead elsewhere for the time being. Says whether
they are to stay so. -/
def withOwnStreams (act : Action Bool) : Action Unit := do
  let saved := (← Action.own).streams
  Action.change fun p => { p with shelved := saved :: p.shelved }
  let back (keep : Bool) := Action.change fun p =>
    { p with streams := if keep then p.streams else saved, shelved := p.shelved.drop 1 }
  try back (← act)
  catch e =>
    back false
    throw e

/-- Runs an action as a command of the shell with a name. What it complains of names it. -/
def named (name : Text) (act : Action Nat) : Action Nat := do
  let before := (← Action.own).inside
  Action.change fun p => { p with inside := some name }
  let back := Action.change fun p => { p with inside := before }
  try
    let status ← act
    back
    return status
  catch e =>
    match e with
    | .unwritten _ =>
      complainWith (name ++ ": I/O error".toList)
      back
      return 1
    | e =>
      back
      throw e

/-- Runs an action with variables of its own, which are put back after it. -/
def withLocals (act : Action Nat) : Action Nat := do
  Action.change fun p => { p with locals := [] :: p.locals }
  try
    let status ← act
    Builtin.dropLocals
    return status
  catch e =>
    Builtin.dropLocals
    throw e

/-- Gives a variable a value for the time of one command, and hands it on. -/
def assignLocal (name value : Text) : Action Unit := do
  let before := variableOf? (← Action.own) name
  let v ← requireWritable name
  Action.change fun p =>
    { p with
      locals :=
        match p.locals with
        | frame :: frames => ((name, before) :: frame) :: frames
        | [] => [] }
  setVariable name { v with value := some value, exported := true }

/-- Shows a command before it is run, where the standard error led before its
redirections. -/
def trace (before : Streams) (words : List Text) : Action Unit := do
  let p ← Action.own
  if p.options.contains 'x' then
    Action.withStreams (fun _ => before) do
      Action.write 2 (valueOf p "PS4" ++ [' '].intercalate words ++ ['\n'])

/-! ### Names of commands -/

/-- A command without the names in front that only say how it is to be looked up, and whether
there were any. A question about a name is left as it is. -/
def lookedThrough : Nat → List Text → Bool × List Text
  | 0, words => (false, words)
  | n + 1, words =>
    match words with
    | name :: rest =>
      if name == "command".toList then
        match rest.dropWhile fun a => a == ['-', 'p'] with
        | [] => (true, [":".toList])
        | ['-', '-'] :: rest => (true, (lookedThrough n rest).2)
        | ('-' :: c :: cs) :: more => (true, name :: ('-' :: c :: cs) :: more)
        | rest => (true, (lookedThrough n rest).2)
      else (false, words)
    | [] => (false, [])

/-- Tells what names stand for, as the option wants it. -/
def tellCommand (args : List Text) : Action Nat := do
  let (given, names) ← Builtin.options "pvV" "" args
  if given.any fun g => g.1 == 'V' then Builtin.tellNames names else Builtin.writeNames names

/-- The status of a program that could not be started. -/
def startStatus (error : Nat) : Nat :=
  if error == Errno.noEntry || error == Errno.notDirectory || error == Errno.nameTooLong ||
    error == Errno.tooManyLinks then 127 else 126

/-- Complains of a program that could not be started. -/
def startComplaint (name : Text) (error : Nat) : Action Unit :=
  complainWith (name ++ ':' :: ' ' :: Redirection.reasonFor "not found" error)

/-- What is to be started for a name. A file that is no program is given to the shell. -/
def startOf (name : Text) (args : List Text) : Action (Except Nat Start) := do
  let p ← Action.own
  let d ← Action.disk
  let dirs := Builtin.directories p
  match startNamed d p.cwd dirs name args with
  | .ok start => return .ok start
  | .error e =>
    if e == Errno.execFormat then
      match findProgram d p.cwd dirs (toBytes name) with
      | .ok path => return .ok ⟨Tool.shellName, "/bin/sh".toList, ofBytes path :: args⟩
      | .error e => return .error e
    else return .error e

/-- Looks a program up before its command is run in a process of its own, so that the shell
remembers it. -/
def lookAhead (command : Command) : Action Unit := do
  match command with
  | .simple _ _ ([.text name false] :: _) _ =>
    if isName name && (← Builtin.meaningOf name) matches .program _ then Builtin.note name
  | _ => pure ()

/-- Where the file of a script is looked for that is to be run by the shell itself. -/
def sourceOf? (name : Text) : Action (Option Text) := do
  if name.contains '/' then return some name
  else
    let p ← Action.own
    let d ← Action.disk
    let found := (Builtin.directories p).find? fun dir =>
      match d.lookup p.cwd (Path.join dir (toBytes name)) with
      | .ok (_, .file _ mode) => mode.canRead
      | _ => false
    return found.map fun dir => ofBytes (Path.join dir (toBytes name))

/-! ### The options of the shell -/

/-- What the arguments of the shell ask for: a script in an argument, and what is left. -/
structure ShellOptions where
  inArgument : Bool := false
  rest : List Text

/-- Reads the options of the shell. -/
def shellOptions : Nat → Bool → List Text → Action ShellOptions
  | 0, inArgument, args => return ⟨inArgument, args⟩
  | n + 1, inArgument, args => do
    match args with
    | ['-', '-'] :: rest | ['-'] :: rest => return ⟨inArgument, rest⟩
    | (sign :: c :: cs) :: rest => do
      if sign == '-' || sign == '+' then
        let letters := (c :: cs).filter fun c => c != 'c' && c != 'l'
        let rest ← Builtin.putLetters (sign == '-') letters rest
        shellOptions n (inArgument || (c :: cs).contains 'c') rest
      else return ⟨inArgument, args⟩
    | args => return ⟨inArgument, args⟩

/-- Puts the variables in place that a shell has from the beginning. -/
def initialVariables : Action Unit := do
  let p ← Action.own
  let put (name : String) (value : Text) : Action Unit :=
    setVariable name.toList { value := some value }
  put "IFS" [' ', '\t', '\n']
  put "OPTIND" ['1']
  if (variableOf? p "PATH".toList).isNone then
    put "PATH" ([':'].intercalate (searchPath.map ofBytes))
  put "PPID" (numeral ((p.waiting.head?).getD (p.id - 1)))
  put "PS1" ['$', ' ']
  put "PS2" ['>', ' ']
  put "PS4" ['+', ' ']
  let given := valueOf p "PWD"
  let same := given.head? == some '/' &&
    (match (← Action.disk).directoryAt p.cwd (toBytes given) with
    | .ok loc => loc == p.cwd
    | .error _ => false)
  let directory := if same then given else ofBytes (Location.path p.cwd)
  setVariable "PWD".toList { value := some directory, exported := true }
  Action.change fun p => { p with directory }

mutual

/-- Runs a command and takes what it prints, without the line ends at its end. -/
def take : Nat → Command → Action Text
  | 0, _ => tooDeep
  | n + 1, command => do
    let (text, ending) ← Child.gathered (closing n (run n ⟨false, true⟩ command))
    Builtin.tellOf ending
    Action.change fun p => { p with inner := ending.status }
    let text := if text.any (·.toNat == 0) then text.filter (·.toNat != 0) else text
    return (text.reverse.dropWhile (· == '\n')).reverse

/-- Runs an action as all that a shell does: at its end comes what the script wants then. -/
def closing : Nat → Action Unit → Action Nat
  | 0, _ => tooDeep
  | n + 1, act => do
    let ending ← Action.ending do
      act
      lastStatus
    let status ←
      match ending with
      | .stopped | .killed _ => throw ending
      | .leave _ | .proceed _ => lastStatus
      | ending => pure ending.status
    match (← Action.own).traps.lookup 0 with
    | none | some [] => return status
    | some action => do
      Action.change fun p => { p with
        traps := p.traps.filter (·.1 != 0), status, resting := some status, inside := none }
      match ← Action.ending (do runText n {} action; return status) with
      | .stopped => throw .stopped
      | .killed signal => throw (.killed signal)
      | .exit status => return status
      | _ => return status

/-- Does what is to be done because signals have come. -/
def runTraps : Nat → Action Unit
  | 0 => tooDeep
  | n + 1 => do
    let p ← Action.own
    let signals := p.caught.mergeSort fun a b => a ≤ b
    Action.change fun p => { p with caught := [] }
    for signal in signals do
      match (← Action.own).traps.lookup signal with
      | none | some [] => pure ()
      | some action => do
        let q ← Action.own
        Action.change fun p => { p with resting := some (q.resting.getD q.status) }
        runText n {} action
        Action.change fun p => { p with resting := q.resting, status := q.status }

/-- Runs a program in the process. -/
def runStart : Nat → Start → Action Nat
  | 0, _ => tooDeep
  | n + 1, start => do
    Action.change Child.replaced
    Action.spend Child.startCost
    if start.program == Tool.shellName then runShell n start.called start.args
    else
      match Tool.standard.lookup start.program with
      | none => return 127
      | some tool =>
        try tool (runner n) start.called start.args
        catch e =>
          match e with
          | .unwritten e =>
            Tool.fault start.called ("write error: " ++ Errno.text e)
            return 1
          | e => throw e

/-- The ways in which a tool runs programs. -/
def runner : Nat → Runner
  | 0 => ⟨fun _ _ => tooDeep, fun _ _ => tooDeep, fun _ _ => tooDeep⟩
  | n + 1 =>
    { replace := fun name args => do
        match ← startOf name args with
        | .error e => return .error e
        | .ok start => return .ok (← runStart n start)
      start := fun name args => do
        match ← startOf name args with
        | .error e => return .error e
        | .ok start => return .ok (← Child.within (runStart n start))
      launch := fun name args => do
        match ← startOf name args with
        | .error e => return .error e
        | .ok _ =>
          let words := ("exec".toList :: name :: args).map fun a => [Part.text a true]
          return .ok (← Child.spawn id (.simple 1 [] words [])) }

/-- Runs the shell with a name and arguments. -/
def runShell : Nat → Text → List Text → Action Nat
  | 0, _, _ => tooDeep
  | n + 1, called, args => do
    Action.change fun p => { p with
      name := called, args := [], line := 0, readLine := 1, isShell := true, shellId := p.id }
    initialVariables
    closing n do
      let o ← shellOptions (args.length + 1) false args
      let start (name : Text) (args : List Text) := Action.change fun p => { p with name, args }
      if o.inArgument then
        match o.rest with
        | [] => giveUp "-c requires an argument"
        | source :: rest =>
          start (rest.headD called) (rest.drop 1)
          runText n ⟨false, true⟩ source
      else if o.rest.isEmpty || (← Action.own).options.contains 's' then
        start called o.rest
        runText n {} (← Action.readAll)
      else
        let path := o.rest.headD []
        match ← Action.openForReading path with
        | .error e =>
          complainWith ("cannot open ".toList ++ path ++ ':' :: ' ' ::
            Redirection.reasonFor "No such file" e)
          throw (.exit 2)
        | .ok channel =>
          start path (o.rest.drop 1)
          let source ← Action.withStreams (Action.led 0 channel) Action.readAll
          runText n {} source

/-- Runs a program in a process of its own, or in place of the shell if it has nothing to do
after that. -/
def runProgram : Nat → Manner → Text → List Text → Action Nat
  | 0, _, _, _ => tooDeep
  | n + 1, m, name, args => do
    match ← startOf name args with
    | .error e => do
      startComplaint name e
      return startStatus e
    | .ok start => do
      Builtin.note name
      if m.last && (← Action.own).traps.all (·.2.isEmpty) then throw (.exit (← runStart n start))
      else
        let ending ← Child.within (runStart n start)
        Builtin.tellOf ending
        return ending.status

/-- Runs a command that has a name, with arguments of its own. -/
def runDefined : Nat → Manner → List Text → Definition → Action Nat
  | 0, _, _, _ => tooDeep
  | n + 1, m, args, d => do
    let before ← Action.own
    Action.change fun p => { p with args, loops := 0, optionOffset := 0 }
    let back := Action.change fun p =>
      { p with args := before.args, loops := before.loops, optionOffset := before.optionOffset }
    try run n m.within d.body
    catch e =>
      back
      match e with
      | .back status => setStatus status
      | e => throw e
    back
    lastStatus

/-- Runs a command of the shell that runs others, or none if it is no such command. -/
def runSpecial : Nat → Manner → Text → List Text → Action (Option Nat)
  | 0, _, _, _ => tooDeep
  | n + 1, m, name, args => do
    match String.ofList name with
    | "eval" => do
      let text := [' '].intercalate args
      setStatus 0
      runText n m.within text
      return some (← lastStatus)
    | "exec" =>
      match args with
      | [] => return some 0
      | target :: args => do
        match ← startOf target args with
        | .ok start => throw (.exit (← runStart n start))
        | .error e => do
          startComplaint target e
          Action.change fun p => { p with traps := p.traps.filter (·.1 != 0) }
          throw (.exit (startStatus e))
    | "." =>
      match args with
      | [] => return some 0
      | name :: _ => do
        match ← sourceOf? name with
        | none => giveUpWith (name ++ ": not found".toList)
        | some path =>
          match ← Action.openForReading path with
          | .error e =>
            giveUpWith ("cannot open ".toList ++ path ++ ':' :: ' ' ::
              Redirection.reasonFor "No such file" e)
          | .ok channel => do
            let source ← Action.withStreams (Action.led 0 channel) Action.readAll
            Action.change fun p => { p with inside := some path }
            setStatus 0
            try runText n m.within source
            catch e =>
              match e with
              | .back status => setStatus status
              | e => throw e
            return some (← lastStatus)
    | "command" => return some (← tellCommand args)
    | word =>
      match Builtin.named? word with
      | some act => return some (← act args)
      | none => return none

/-- Runs the command of a name and gives its status. -/
def runNamed : Nat → Manner → Bool → Text → List Text → Action Nat
  | 0, _, _, _, _ => tooDeep
  | n + 1, m, plain, name, args => do
    let word := String.ofList name
    let special := plain && specialBuiltins.contains word
    let known := (← Action.own).definitions.lookup name
    match (if special || !plain then none else known) with
    | some d => runDefined n m args d
    | none =>
      if Builtin.isBuiltin word then
        try
          named name (return (← runSpecial n m name args).getD 127)
        catch e =>
          match e with
          | .refused => if special then throw .refused else return 2
          | e => throw e
      else runProgram n m name args

/-- Runs a simple command. -/
def runSimple : Nat → Manner → Nat → List (Text × Word) → List Word → List (Redirect Word) →
    Action Unit
  | 0, _, _, _, _, _ => tooDeep
  | n + 1, m, line, assignments, words, redirects => do
    Action.change fun p => { p with line, inner := 0, commands := p.commands + 1 }
    Action.spend (Child.commandCost (← Action.own).commands)
    let given ← Expansion.commandFields (take n) words
    let (through, names) := lookedThrough (given.length + 1) given
    let targets ← Redirection.targets (take n) redirects
    let before := (← Action.own).streams
    let isSpecial := !through && (names.head?.map fun w =>
      specialBuiltins.contains (String.ofList w)).getD false
    let act : Action Bool := do
      if ← Redirection.lead targets then
        let status ←
          match names with
          | [] => do
            let shown ← assignAll n false assignments
            trace before shown
            pure (← Action.own).inner
          | name :: args =>
            if isSpecial then do
              let shown ← assignAll n false assignments
              trace before (shown ++ given)
              runNamed n m true name args
            else do
              let defined := ((← Action.own).definitions.lookup name).isSome
              if assignments.isEmpty && !defined then
                trace before given
                runNamed n m (!through) name args
              else
                withLocals do
                  let shown ← assignAll n true assignments
                  trace before (shown ++ given)
                  runNamed n m (!through) name args
        setStatus status
        return names.head? == some "exec".toList
      else
        setStatus 2
        if isSpecial then throw .refused
        return false
    if redirects.isEmpty then discard act else withOwnStreams act
    insist m

/-- Gives variables their values, from left to right, for good or for the time of one
command, and gives the assignments as text. -/
def assignAll : Nat → Bool → List (Text × Word) → Action (List Text)
  | 0, _, _ => tooDeep
  | _, _, [] => return []
  | n + 1, forNow, (name, word) :: rest => do
    let value ← Expansion.text (take n) true word
    if forNow then assignLocal name value else assign name value
    return (name ++ '=' :: value) :: (← assignAll n forNow rest)

/-- Runs commands one after the other. -/
def runAll : Nat → Manner → List Command → Action Unit
  | 0, _, _ => tooDeep
  | _, _, [] => pure ()
  | n + 1, m, [c] => run n m c
  | n + 1, m, c :: cs => do
    run n m.within c
    runAll n m cs

/-- Runs the stages of a pipeline beside the shell and waits for them. -/
def runPipeline : Nat → Manner → List Command → Action Unit
  | 0, _, _ => tooDeep
  | _ + 1, m, stages => do
    let change (p : Process) : Process :=
      if m.tested then { p with options := p.options.filter (· != 'e') } else p
    Child.reserve
    let ids ← Child.spawnStages lookAhead change none stages
    let endings ← Child.awaitAll ids
    Builtin.notice
    for ending in endings do
      Builtin.tellOf ending
    setStatus ((endings.getLast?.map Ending.status).getD 0)

/-- Runs a loop. -/
def runLoop : Nat → Manner → Bool → Command → Command → Action Unit
  | 0, _, _, _, _ => tooDeep
  | n + 1, m, outcome, test, body => do
    inLoop do
      Action.iterate Action.turnMax 0 fun status => do
        let goesOn ← turn do
          run n .asTest test
          if ((← lastStatus) == 0) == outcome then
            run n m.within body
            return true
          else
            setStatus status
            return false
        let status ← lastStatus
        return if goesOn then some status else none

/-- Runs the body of a loop for each of some texts. -/
def runEach : Nat → Manner → Text → Command → List Text → Action Unit
  | 0, _, _, _, _ => tooDeep
  | n + 1, m, name, body, texts => do
    if texts.isEmpty then setStatus 0
    inLoop do
      Action.iterate Action.turnMax texts fun texts => do
        match texts with
        | [] => return none
        | t :: rest => do
          assign name t
          let goesOn ← turn do
            run n m.within body
            return true
          return if goesOn then some rest else none

/-- Runs the first arm that has a pattern for a text. -/
def runArms : Nat → Manner → Text → List (List Word × Command) → Action Unit
  | 0, _, _, _ => tooDeep
  | _, _, _, [] => setStatus 0
  | n + 1, m, subject, (patterns, body) :: rest => do
    let mut matched := false
    for pattern in patterns do
      unless matched do
        let gs ← Expansion.unsplit (take n) false pattern
        matched := matchesPattern (marksOf (patternOfGlyphs gs)) subject
    if matched then runOr n m body else runArms n m subject rest

/-- Runs a command that may be missing, in which case it does well. -/
def runOr : Nat → Manner → Command → Action Unit
  | 0, _, _ => tooDeep
  | n + 1, m, command =>
    match command with
    | .sequence [] => setStatus 0
    | command => run n m command

/-- Runs a command in a subshell. -/
def runSubshell : Nat → Manner → Command → List (Redirect Word) → Action Unit
  | 0, _, _, _ => tooDeep
  | n + 1, m, body, redirects => do
    let targets ← Redirection.targets (take n) redirects
    let act : Action Nat := do
      if ← Redirection.lead targets then closing n (run n ⟨m.tested, true⟩ body) else return 2
    if m.last && (← Action.own).traps.all (·.2.isEmpty) then
      Action.change Child.asSubshell
      throw (.exit (← act))
    else
      let ending ← Child.within act
      Builtin.tellOf ending
      setStatus ending.status

/-- Runs a command. -/
def run : Nat → Manner → Command → Action Unit
  | 0, _, _ => tooDeep
  | n + 1, m, command => do
    unless (← Action.own).caught.isEmpty do runTraps n
    if (← Action.own).options.contains 'n' then return
    match command with
    | .simple line assignments words redirects => runSimple n m line assignments words redirects
    | .pipeline stages => do
      runPipeline n m stages
      insist m
    | .negation c => do
      run n .asTest c
      setStatus (if (← lastStatus) == 0 then 1 else 0)
    | .both a b => do
      run n .asTest a
      if (← lastStatus) == 0 then run n m b
    | .either a b => do
      run n .asTest a
      if (← lastStatus) != 0 then run n m b
    | .sequence cs => runAll n m cs
    | .background c => do
      let closed (p : Process) : Process := Child.inBackground p
      let input := some (Channel.device .null)
      let ids ← match c with
        | .pipeline stages => Child.spawnStages lookAhead closed input stages
        | c => Child.spawnStages (fun _ => pure ()) closed input [c]
      Child.remember (ids.getLast?.getD 0)
      setStatus 0
    | .branch test yes no => do
      run n .asTest test
      if (← lastStatus) == 0 then run n m yes else runOr n m no
    | .loop outcome test body => runLoop n m outcome test body
    | .each line name words body => do
      Action.change fun p => { p with line }
      let texts ← Expansion.fields (take n) words
      runEach n m name body texts
    | .choice line subject arms => do
      Action.change fun p => { p with line }
      let text ← Expansion.text (take n) false subject
      runArms n m text arms
    | .subshell body => do
      runSubshell n m body []
      insist m
    | .definition line name body =>
      Action.change fun p =>
        { p with
          status := 0
          definitions := (name, ⟨line, body⟩) :: p.definitions.filter fun d => d.1 != name }
    | .redirected line (.subshell body) redirects => do
      Action.change fun p => { p with line }
      runSubshell n m body redirects
      insist m
    | .redirected line body redirects => do
      Action.change fun p => { p with line }
      let targets ← Redirection.targets (take n) redirects
      withOwnStreams do
        if ← Redirection.lead targets then run n m.within body else setStatus 2
        return false
    unless (← Action.own).caught.isEmpty do runTraps n

/-- Runs the commands of a text. -/
def runText : Nat → Manner → Text → Action Unit
  | 0, _, _ => tooDeep
  | n + 1, m, s => do
    let before := (← Action.own).readLine
    Action.iterate Action.turnMax { rest := s } fun (cursor : Cursor) => do
      let aliases := (← Action.own).aliases
      match readCommand { cursor with aliases } with
      | .error fault => do
        Action.change fun p => { p with line := fault.line }
        giveUp ("Syntax error: " ++ fault.reason)
      | .ok none => return none
      | .ok (some (command, after)) => do
        Action.change fun p => { p with readLine := after.line }
        if (← Action.own).options.contains 'v' then
          Action.write 2 (cursor.rest.take (cursor.rest.length - after.rest.length))
        unless (← Action.own).options.contains 'n' do
          run n (if after.rest.isEmpty then m else m.within) command
        return some after
    Action.change fun p => { p with readLine := before }

end

/-- A bound on the nesting of commands that are run. -/
def nestingMax : Nat := 20000

/-- Runs a program that is started for the first time. -/
def begin (start : Start) : Action Nat := do
  Action.spend 0
  runStart nestingMax start

/-- Runs a command in a process that the shell has handed to the system. -/
def runSpawned (command : Command) : Action Nat :=
  closing nestingMax (run nestingMax ⟨false, true⟩ command)

end Evaluate
end Shell
end StressBench
