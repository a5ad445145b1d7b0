/-
# Editing lines: running scripts

A cycle takes a line, carries out the commands that are for it, and prints what has become
of it. What is to come behind a line is kept until the cycle ends or the next line is
taken.

Key definitions: `Edit.Style`, `Edit.Editor`, `Edit.takeLine`, `Edit.selects`, `Edit.carryOut`,
`Edit.run`.
-/
import StressBench.Shell.Edit.Reader
import StressBench.Shell.Tool.Entries

namespace StressBench
namespace Shell
namespace Edit

/-- How an editor is used. -/
structure Style where
  script : Script
  /-- Lines are printed only by commands. -/
  quiet : Bool := false
  /-- Each file is edited for itself. -/
  separate : Bool := false
  /-- Files are changed, and kept under a name with this ending unless it is empty. -/
  inPlace : Option Text := none
  width : Nat := 70
  mark : Char := '\n'
  /-- The files that are written to, with the streams that lead to them. -/
  outputs : List (Text × Nat) := []

/-- What is to come behind a line. -/
inductive Queued
  | text (s : Text)
  | file (path : Text)

/-- What is known of a range of lines. -/
inductive RangeState
  | idle
  /-- It has begun, and ends with a line if that is known. -/
  | active (stop : Option Nat)
  deriving DecidableEq, Repr

/-- The state of an editor. -/
structure Editor where
  line : Text := []
  /-- Whether the line has an end. -/
  ended : Bool := true
  aside : Text := []
  /-- Whether the text that is put aside has an end. -/
  asideEnded : Bool := true
  number : Nat := 0
  /-- The next line, if it has been looked at. -/
  ahead : Option (Text × Bool) := none
  files : List Text := []
  /-- The file that is read, if one is open. -/
  current : Option Text := none
  /-- Latest first. -/
  queue : List Queued := []
  replaced : Bool := false
  last : Option Matcher := none
  ranges : Array RangeState := #[]
  /-- The streams on which the end of a line is still to be written. -/
  owing : List Nat := []
  /-- The lines that are left of files that are read line by line. -/
  sources : List (Text × List Text) := []
  status : Nat := 0
  /-- The stream that lines are printed on. -/
  out : Nat := 1

/-- What an editor does. -/
abbrev Run (α : Type) := StateT Editor Shell.Action α

/-- The stream that lines are read from. -/
def inputStream : Nat := 90

/-- The stream on which a changed file is printed. -/
def changedStream : Nat := 91

/-- The first of the streams that lead to other files. -/
def firstOutput : Nat := 200

/-! ### Printing -/

/-- Writes a text on a stream, behind the end of a line if that is owed. -/
def put (stream : Nat) (s : Text) : Run Unit := do
  let e ← get
  let owed := e.owing.contains stream
  if owed then set { e with owing := e.owing.filter (· != stream) }
  let s := if owed then '\n' :: s else s
  unless s.isEmpty do
    match ← Action.tryWrite stream s with
    | some error => if stream == 1 then throw (.unwritten error)
    | none => pure ()

/-- Prints a line on a stream, with its end if it has one. -/
def putLine (style : Style) (stream : Nat) (s : Text) : Run Unit := do
  let ended := (← get).ended
  put stream (s ++ if ended then [style.mark] else [])
  unless ended do modify fun e => { e with owing := stream :: e.owing }

/-- The stream on which a file is written. -/
def streamOf (style : Style) (path : Text) : Nat :=
  (style.outputs.lookup path).getD 2

/-- Writes what is to come behind the line. -/
def flush : Run Unit := do
  let e ← get
  set { e with queue := [] }
  for q in e.queue.reverse do
    match q with
    | .text s => put e.out s
    | .file path =>
      match ← Action.openForReading path with
      | .ok channel => put e.out (← Action.withStreams (Action.led 0 channel) Action.readAll)
      | .error error =>
        if error == Errno.isDirectory then
          Tool.fault "sed".toList ("read error on " ++ shown path ++ ": " ++ Errno.text error)
          throw (.exit 4)

/-! ### Taking lines -/

/-- Puts what has been printed of a file in its place. -/
def finishFile (style : Style) : Run Unit := do
  match style.inPlace, (← get).current with
  | some ending, some path =>
    match ← Action.channel changedStream with
    | some (.gather n) =>
      let content := toBytes (← Action.pipeAt n).content
      match ← leadsToFile path with
      | some (loc, old, mode) =>
        unless ending.isEmpty do
          discard (Action.openForWriting false (path ++ ending))
          match ← leadsToFile (path ++ ending) with
          | some (kept, _, _) =>
            Action.changeSystem fun s => { s with disk := s.disk.put kept (.file old mode) }
          | none => pure ()
        Action.changeSystem fun s => { s with disk := s.disk.put loc (.file content mode) }
      | none => pure ()
    | _ => pure ()
  | _, _ => pure ()
  modify fun e => { e with current := none }
where
  /-- The file that a path leads to. -/
  leadsToFile (path : Text) : Run (Option (Location × Bytes × Mode)) := do
    match ← Tool.leadsTo path with
    | .ok (loc, .file content mode) => return some (loc, content, mode)
    | _ => return none

/-- Leads a stream somewhere. -/
def lead (stream : Nat) (channel : Channel) : Run Unit :=
  Action.change fun p => { p with streams := Action.led stream channel p.streams }

/-- Opens the next of the files that can be read. Says whether there is one. -/
def openNext (style : Style) : Nat → Run Bool
  | 0 => return false
  | n + 1 => do
    let e ← get
    match e.files with
    | [] => return false
    | path :: files =>
      set { e with files }
      let failed (message : String) (status : Nat) : Run Bool := do
        Tool.fault "sed".toList message
        modify fun e => { e with status }
        openNext style n
      let begun (channel : Channel) : Run Bool := do
        lead inputStream channel
        modify fun e => { e with
          current := some path, number := if style.separate then 0 else e.number }
        if style.inPlace.isSome then
          lead changedStream (.gather (← Action.newPipe {}))
          modify fun e => { e with out := changedStream, owing := [] }
        return true
      if path == ['-'] && style.inPlace.isNone then
        match ← Action.channel 0 with
        | some channel => begun channel
        | none => failed "couldn't read stdin" 2
      else
        match ← Action.openForReading path with
        | .ok channel => begun channel
        | .error error =>
          if error == Errno.isDirectory then
            if style.inPlace.isSome then
              failed ("couldn't edit " ++ shown path ++ ": not a regular file") 4
            else
              Tool.fault "sed".toList ("read error on " ++ shown path ++ ": " ++ Errno.text error)
              throw (.exit 4)
          else failed ("can't read " ++ shown path ++ ": " ++ Errno.text error) 2

/-- The next line, which is looked at. With `across` it may come from another file. -/
def peekLine (style : Style) (across : Bool) : Nat → Run (Option (Text × Bool))
  | 0 => return none
  | n + 1 => do
    let e ← get
    match e.ahead with
    | some line => return some line
    | none =>
      if e.current.isNone then
        if across then
          if ← openNext style (e.files.length + 1) then peekLine style across n else return none
        else return none
      else
        let line ← Action.readLineFrom inputStream style.mark
        match line.getLast? with
        | some c =>
          let ahead := if c == style.mark then (line.dropLast, true) else (line, false)
          modify fun e => { e with ahead := some ahead }
          return some ahead
        | none =>
          if across then
            finishFile style
            peekLine style across n
          else return none

/-- Whether the line is the last one. -/
def isLast (style : Style) : Run Bool := do
  return (← peekLine style (!style.separate) (2 * (← get).files.length + 3)).isNone

/-- Takes the next line. -/
def takeLine (style : Style) : Run (Option (Text × Bool)) := do
  flush
  match ← peekLine style true (2 * (← get).files.length + 3) with
  | none => return none
  | some line =>
    modify fun e => { e with ahead := none, number := e.number + 1, replaced := false }
    return some line

/-! ### Selecting lines -/

/-- The expression that is meant, which is then the one used last. -/
def used (matcher : Option Matcher) : Run Matcher := do
  match matcher.or (← get).last with
  | some m =>
    modify fun e => { e with last := some m }
    return m
  | none =>
    Tool.fault "sed".toList "-e expression #1, char 0: no previous regular expression"
    throw (.exit 1)

/-- Whether the line is at an address. -/
def isAt (style : Style) : Address → Run Bool
  | .line n => return (← get).number == n
  | .last => isLast style
  | .every first step => do
    let n := (← get).number
    return first ≤ n && (n - first) % step == 0
  | .holding matcher => do
    let m ← used matcher
    return m.isIn (← get).line

/-- Sets what is known of the range of a command. -/
def setRange (i : Nat) (r : RangeState) : Run Unit :=
  modify fun e => { e with ranges := e.ranges.set! i r }

/-- Whether a command is for the line. -/
def selects (style : Style) (i : Nat) : Selection → Run Bool
  | .all => return true
  | .one a => isAt style a
  | .range first stop => do
    let e ← get
    let n := e.number
    match e.ranges[i]?.getD .idle with
    | .active (some last) => do
      if last ≤ n then setRange i .idle
      return n ≤ last || (← isAt style first)
    | .active none => do
      let ends ←
        match stop with
        | .address a => isAt style a
        | _ => pure true
      if ends then setRange i .idle
      return true
    | .idle => do
      if !(← isAt style first) then return false
      else
        let last : Option Nat :=
          match stop with
          | .address (.line m) => some m
          | .further k => some (n + k)
          | .multiple k => some (if k == 0 then n else (n / k + 1) * k)
          | .address _ => none
        match last with
        | some m => if n < m then setRange i (.active (some m))
        | none => setRange i (.active none)
        return true

/-! ### Carrying commands out -/

/-- What comes after a command. -/
inductive After
  | goOn
  | jump
  /-- The cycle ends, and the line is printed. -/
  | done
  /-- The cycle ends without the line being printed. -/
  | dropped
  /-- The cycle begins anew with what is left of the line. -/
  | again
  | stop (status : Nat)
  deriving DecidableEq, Repr

/-- The line up to its first line end. -/
def firstOf (s : Text) : Text :=
  s.takeWhile (· != '\n')

/-- The next line of a file that is read line by line. -/
def sourceLine (path : Text) : Run (Option Text) := do
  let e ← get
  let lines ←
    match e.sources.lookup path with
    | some lines => pure lines
    | none =>
      match ← Action.openForReading path with
      | .ok channel =>
        pure (Tool.linesOf (← Action.withStreams (Action.led 0 channel) Action.readAll))
      | .error _ => pure []
  modify fun e =>
    { e with sources := (path, lines.drop 1) :: e.sources.filter fun s => s.1 != path }
  return lines.head?

/-- Prints the line unless it is printed only by commands. -/
def printOwn (style : Style) : Run Unit := do
  let e ← get
  unless style.quiet do putLine style e.out e.line

/-- Replaces matches in the line. -/
def substituteIn (style : Style) (s : Substitution) : Run Unit := do
  let m ← used s.matcher
  let e ← get
  let (line, changed) := s.apply m e.line
  if changed then
    set { e with line, replaced := true }
    if s.prints then putLine style e.out line
    match s.file with
    | some path => putLine style (streamOf style path) line
    | none => pure ()

/-- Carries a command out. -/
def carryOut (style : Style) (i : Nat) (c : Command) : Run After := do
  let e ← get
  match c.deed with
  | .block | .close | .label _ => return .goOn
  | .lineNumber =>
    put e.out (numeral e.number ++ ['\n'])
    return .goOn
  | .append s =>
    set { e with queue := .text s :: e.queue }
    return .goOn
  | .insert s =>
    put e.out s
    return .goOn
  | .change s =>
    let within := match e.ranges[i]?.getD .idle with
      | .active _ => !c.inverted
      | .idle => false
    unless within do put e.out s
    return .dropped
  | .jump _ => return .jump
  | .jumpIfDone _ =>
    set { e with replaced := false }
    return if e.replaced then .jump else .goOn
  | .jumpUnlessDone _ =>
    set { e with replaced := false }
    return if e.replaced then .goOn else .jump
  | .delete => return .dropped
  | .deleteFirst =>
    let first := firstOf e.line
    if first.length == e.line.length then return .dropped
    else
      set { e with line := e.line.drop (first.length + 1) }
      return .again
  | .get =>
    set { e with line := e.aside, ended := e.asideEnded }
    return .goOn
  | .getMore =>
    set { e with line := e.line ++ style.mark :: e.aside, ended := e.asideEnded }
    return .goOn
  | .hold =>
    set { e with aside := e.line, asideEnded := e.ended }
    return .goOn
  | .holdMore =>
    set { e with aside := e.aside ++ style.mark :: e.line, asideEnded := e.ended }
    return .goOn
  | .exchange =>
    set { e with line := e.aside, ended := e.asideEnded, aside := e.line, asideEnded := e.ended }
    return .goOn
  | .list width =>
    put e.out (listed (width.getD style.width) e.line)
    return .goOn
  | .next =>
    if ← isLast style then
      if (← get).files.isEmpty then return .done
    printOwn style
    match ← takeLine style with
    | some (line, ended) =>
      modify fun e => { e with line, ended }
      return .goOn
    | none => return .dropped
  | .nextMore =>
    if ← isLast style then
      if (← get).files.isEmpty then return .done
    match ← takeLine style with
    | some (line, ended) =>
      modify fun e => { e with line := e.line ++ style.mark :: line, ended }
      return .goOn
    | none => return .done
  | .print =>
    putLine style e.out e.line
    return .goOn
  | .printFirst =>
    put e.out (firstOf e.line ++ [style.mark])
    return .goOn
  | .quit status =>
    printOwn style
    flush
    return .stop status
  | .quitSilently status => return .stop status
  | .readFile path =>
    set { e with queue := .file path :: e.queue }
    return .goOn
  | .readLine path =>
    match ← sourceLine path with
    | some s => modify fun e => { e with queue := .text (s ++ ['\n']) :: e.queue }
    | none => pure ()
    return .goOn
  | .substitute s =>
    substituteIn style s
    return .goOn
  | .replace pairs =>
    set { e with line := e.line.map fun c => (pairs.lookup c).getD c }
    return .goOn
  | .write path =>
    putLine style (streamOf style path) e.line
    return .goOn
  | .writeFirst path =>
    put (streamOf style path) (firstOf e.line ++ [style.mark])
    return .goOn
  | .clear =>
    set { e with line := [] }
    return .goOn
  | .fileName =>
    put e.out (e.current.getD ['-'] ++ ['\n'])
    return .goOn

/-- Carries out commands from one of them on, as long as a cycle lasts. -/
def cycle (style : Style) (e : Editor) : Shell.Action (After × Editor) :=
  Action.loop Action.turnMax (0, e) fun (i, e) => do
    match style.script.steps[i]? with
    | none => return .inr (.done, e)
    | some c =>
      Action.spend 100
      let (selected, e) ← (selects style i c.selection).run e
      let target := style.script.targets[i]?.getD 0
      if selected == c.inverted then
        let isBlock := match c.deed with
          | .block => true
          | _ => false
        return .inl (if isBlock then target else i + 1, e)
      else
        let (after, e) ← (carryOut style i c).run e
        match after with
        | .goOn => return .inl (i + 1, e)
        | .jump => return .inl (target, e)
        | after => return .inr (after, e)

/-- Runs cycles until there are no more lines, and gives the status. -/
def run (style : Style) (files : List Text) : Shell.Action Nat := do
  let start : Editor := { files, ranges := initial }
  Action.loop Action.turnMax (start, false) fun (e, again) => do
    let (line, e) ← if again then pure (some (e.line, e.ended), e) else (takeLine style).run e
    match line with
    | none =>
      let (_, e) ← (do flush; finishFile style : Run Unit).run e
      return .inr e.status
    | some (line, ended) =>
      let (after, e) ← cycle style { e with line, ended }
      match after with
      | .stop status =>
        let (_, e) ← (finishFile style).run e
        return .inr (if status == 0 then e.status else status)
      | .done =>
        let (_, e) ← (do printOwn style; flush : Run Unit).run e
        return .inl (e, false)
      | .again =>
        let (_, e) ← (flush : Run Unit).run e
        return .inl (e, true)
      | _ =>
        let (_, e) ← (flush : Run Unit).run e
        return .inl (e, false)
where
  /-- What is known of the ranges at the beginning: those from line 0 on have begun. -/
  initial : Array RangeState :=
    style.script.steps.map fun c => match c.selection with
      | .range (.line 0) _ => .active none
      | _ => .idle

end Edit
end Shell
end StressBench
