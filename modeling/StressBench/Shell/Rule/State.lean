/-
# Rules for records: the state of a run

A run has variables, arrays, a record with its fields, and files and commands that it reads
from and prints to. The record is put together from its fields, or taken apart into them,
when that is asked for. What is printed is held back until there is much of it or a command
is started.

Key definitions: `Rule.Leave`, `Rule.Slot`, `Rule.State`, `Rule.Run`, `Rule.Separator`,
`Rule.Separator.cut`, `Rule.fieldsOf`, `Rule.putField`, `Rule.printOn`, `Rule.takeRecord`.
-/
import StressBench.Shell.Rule.Value
import StressBench.Shell.Rule.Token
import StressBench.Shell.Child

namespace StressBench
namespace Shell
namespace Rule

/-- How the course of a program is left. -/
inductive Leave
  | next
  | nextFile
  | exit
  | leave
  | proceed
  | giveBack (v : Value)
  /-- The program is given up, and this is said. -/
  | fatal (message : String)

/-- What a name stands for: a value, an array, or nothing yet, so that it may become an array. -/
inductive Slot
  | value (v : Value)
  | array (id : Nat)
  | undecided (id : Nat)
  deriving DecidableEq, Repr

/-- Something that is printed to. What is held back is latest first. -/
structure Sink where
  name : Text
  isCommand : Bool := false
  stream : Nat
  process : Option Nat := none
  held : List Text := []
  size : Nat := 0

/-- Something that is read from, with what has been taken from it and not yet been used. -/
structure Source where
  name : Text
  isCommand : Bool := false
  stream : Nat
  process : Option Nat := none
  held : Text := []
  ended : Bool := false

/-- The state of a run. -/
structure State where
  globals : List (Text × Slot) := []
  /-- The names of the functions that are run, the innermost first. -/
  frames : List (List (Text × Slot)) := []
  arrays : Array Items := #[]
  /-- The record, unless its fields have been changed since. -/
  record : Option Text := some []
  /-- The fields, if they are known. -/
  fields : Option (Array Value) := none
  sinks : List Sink := [{ name := "/dev/stdout".toList, stream := 1 }]
  sources : List Source := []
  /-- The file that the records come from. -/
  input : Option Source := none
  /-- The number of the argument that is looked at next. -/
  argument : Nat := 1
  /-- Whether there was a file among the arguments. -/
  opened : Bool := false
  nextStream : Nat := 100
  /-- The expressions that have been read from texts. -/
  matchers : List (Text × Matcher) := []
  /-- The numbers of the rules whose range has begun. -/
  ranges : List Nat := []
  status : Nat := 0
  seed : Number := .finite 0
  random : Nat := 1
  turns : Nat := 0

/-- What a run does. -/
abbrev Run (α : Type) := ExceptT Leave (StateT State Shell.Action) α

/-- Does something of a process. -/
def lift {α : Type} (act : Shell.Action α) : Run α :=
  liftM act

/-! ### Names -/

/-- What a name stands for. -/
def slot? (x : Text) : Run (Option Slot) := do
  let s ← get
  match s.frames.head?.bind fun f => f.lookup x with
  | some slot => return some slot
  | none => return s.globals.lookup x

/-- A list with another entry for a name. -/
def withSlot (x : Text) (slot : Slot) (names : List (Text × Slot)) : List (Text × Slot) :=
  if (names.lookup x).isSome then names.map fun p => if p.1 == x then (x, slot) else p
  else (x, slot) :: names

/-- Lets a name stand for something. -/
def setSlot (x : Text) (slot : Slot) : Run Unit := do
  let s ← get
  match s.frames with
  | f :: rest =>
    if (f.lookup x).isSome then set { s with frames := withSlot x slot f :: rest }
    else set { s with globals := withSlot x slot s.globals }
  | [] => set { s with globals := withSlot x slot s.globals }

/-- The value of a variable of the program. -/
def global (x : String) : Run Value := do
  match (← get).globals.lookup x.toList with
  | some (.value v) => return v
  | _ => return .nothing

/-- Sets a variable of the program. -/
def setGlobal (x : String) (v : Value) : Run Unit :=
  modify fun s => { s with globals := withSlot x.toList (.value v) s.globals }

/-- The format of numbers in texts. -/
def numberFormat : Run Text := do
  return (← global "CONVFMT").toText "%.6g".toList

/-- A value as a text. -/
def textOf (v : Value) : Run Text := do
  match v with
  | .text s | .input s => return s
  | v => return v.toText (← numberFormat)

/-- The text of a variable of the program. -/
def textIn (x : String) : Run Text := do
  textOf (← global x)

/-- Counts one more. -/
def count (x : String) : Run Unit := do
  let v := (← global x).toNumber
  setGlobal x (.number (v.add (.finite 1)))

/-- Gives up with what is wrong at run time. -/
def faultAt {α : Type} (message : Text) : Run α := do
  let file ← textIn "FILENAME"
  let fnr ← textIn "FNR"
  let nr ← textIn "NR"
  throw (.fatal ("run time error: " ++ shown message ++ "\n\tFILENAME=\"" ++ shown file ++
    "\" FNR=" ++
    shown fnr ++ " NR=" ++ shown nr))

/-- A new array. -/
def newArray (items : Items) : Run Nat := do
  let s ← get
  set { s with arrays := s.arrays.push items }
  return s.arrays.size

/-- The array that a name stands for, or comes to stand for. -/
def arrayOf (x : Text) : Run Nat := do
  match ← slot? x with
  | some (.array id) => return id
  | some (.undecided id) =>
    setSlot x (.array id)
    return id
  | none | some (.value .nothing) =>
    let id ← newArray {}
    setSlot x (.array id)
    return id
  | some (.value _) => throw (.fatal ("line 1: illegal reference to variable " ++ shown x))

/-- The items of an array. -/
def itemsOf (id : Nat) : Run Items := do
  return (← get).arrays[id]?.getD {}

/-- Changes the items of an array. -/
def setItems (id : Nat) (items : Items) : Run Unit :=
  modify fun s => { s with arrays := s.arrays.set! id items }

/-! ### Regular expressions and separators -/

/-- The expression that a text is, which is kept. -/
def matcherFor (s : Text) : Run Matcher := do
  match (← get).matchers.lookup s with
  | some m => return m
  | none =>
    match matcherIn s with
    | .ok m =>
      modify fun st => { st with matchers := (s, m) :: st.matchers }
      return m
    | .error message => faultAt (Action.encoded message)

/-- What separates pieces of a text. -/
inductive Separator
  | blanks
  | each
  | char (c : Char)
  | regex (m : Matcher)

/-- The separator that a text is. -/
def separatorOf (s : Text) : Run Separator := do
  match s with
  | [' '] => return .blanks
  | [] => return .each
  | [c] => return .char c
  | s => return .regex (← matcherFor s)

/-- The first match of at least one character. -/
def firstIn (m : Matcher) (p : Place) : Option Match :=
  m.searchOn (fun a b => decide (a.index < b.index)) p.before p.index p.rest

/-- The pieces of a text between matches from a place on. -/
def cutFrom (m : Matcher) : Nat → Place → List Text
  | 0, p => [p.rest]
  | n + 1, p =>
    match firstIn m p with
    | some found => p.rest.take (found.start.index - p.index) :: cutFrom m n found.stop.place
    | none => [p.rest]

/-- Whether a character is a blank between fields. -/
def isBlank (c : Char) : Bool :=
  c == ' ' || c == '\t' || c == '\n'

/-- The pieces of a text. -/
def Separator.cut (sep : Separator) (s : Text) : List Text :=
  if s.isEmpty then []
  else
    match sep with
    | .blanks => (s.splitOnP isBlank).filter (!·.isEmpty)
    | .each => s.map fun c => [c]
    | .char c => s.splitOnP (· == c)
    | .regex m => cutFrom m (s.length + 1) (.start s)

/-! ### Replacing -/

/-- What takes the place of a match. -/
def replacement (found : Text) : Text → Text
  | '\\' :: '\\' :: '&' :: s => '\\' :: found ++ replacement found s
  | '\\' :: '&' :: s => '&' :: replacement found s
  | '&' :: s => found ++ replacement found s
  | c :: s => c :: replacement found s
  | [] => []

/-- The text with matches replaced from a place on, and how many there were. `done` is the text
before the place, latest first. A match of no text just behind another one does not count. -/
def replaceFrom (m : Matcher) (every : Bool) (text : Text) :
    Nat → Nat → Option Nat → Text → Place → Text × Nat
  | 0, k, _, done, p => (done.reverse ++ p.rest, k)
  | n + 1, k, stop, done, p =>
    match m.search? p with
    | none => (done.reverse ++ p.rest, k)
    | some found =>
      let before := (p.rest.take (found.start.index - p.index)).reverse ++ done
      let after := found.stop.place
      if found.length == 0 && stop == some found.start.index then
        match found.start.rest with
        | [] => (before.reverse, k)
        | c :: _ => replaceFrom m every text n k none (c :: before) found.start.next
      else
        let before := (replacement found.text text).reverse ++ before
        if !every then (before.reverse ++ after.rest, k + 1)
        else if found.length == 0 then
          match after.rest with
          | [] => (before.reverse, k + 1)
          | c :: _ => replaceFrom m every text n (k + 1) none (c :: before) after.next
        else replaceFrom m every text n (k + 1) (some after.index) before after

/-! ### The record -/

/-- Takes another record. -/
def setRecord (s : Text) : Run Unit :=
  modify fun st => { st with record := some s, fields := none }

/-- The fields of the record. -/
def fieldsOf : Run (Array Value) := do
  match (← get).fields with
  | some fields => return fields
  | none =>
    let sep ← separatorOf (← textIn "FS")
    let pieces := sep.cut ((← get).record.getD [])
    let fields := (pieces.map Value.input).toArray
    modify fun s => { s with fields := some fields }
    return fields

/-- The text of the record. -/
def recordOf : Run Text := do
  match (← get).record with
  | some s => return s
  | none =>
    let between ← textIn "OFS"
    let format ← numberFormat
    let fields ← fieldsOf
    let s := between.intercalate (fields.toList.map (Value.toText format))
    modify fun st => { st with record := some s }
    return s

/-- The value of a field; field 0 is the record. -/
def field (i : Nat) : Run Value := do
  if i == 0 then return .input (← recordOf)
  else return (← fieldsOf)[i - 1]?.getD .nothing

/-- The fields, of which there are so many then. -/
def resized (fields : Array Value) (n : Nat) : Array Value :=
  if n ≤ fields.size then fields.extract 0 n
  else fields ++ Array.replicate (n - fields.size) (.text [])

/-- Gives a field another value. -/
def putField (i : Nat) (v : Value) : Run Unit := do
  if i == 0 then setRecord (← textOf v)
  else
    let fields ← fieldsOf
    let fields := if fields.size < i then resized fields i else fields
    modify fun s => { s with fields := some (fields.set! (i - 1) v), record := none }

/-- Lets the record have so many fields. -/
def setFieldCount (v : Value) : Run Unit := do
  let n := toWord v.toNumber
  if n < 0 then faultAt "negative value assigned to NF".toList
  let fields ← fieldsOf
  modify fun s => { s with fields := some (resized fields n.toNat), record := none }

/-! ### Printing -/

/-- Leads a new stream somewhere. -/
def newStream (channel : Channel) : Run Nat := do
  let s ← get
  set { s with nextStream := s.nextStream + 1 }
  lift (Action.change fun p => { p with streams := Action.led s.nextStream channel p.streams })
  return s.nextStream

/-- Leads a stream nowhere. -/
def dropStream (stream : Nat) : Run Unit :=
  lift (Action.change fun p => { p with streams := p.streams.filter (·.1 != stream) })

/-- Writes what is held back for a sink, all of it or only full blocks. -/
def flushed (all : Bool) (k : Sink) : Run Sink := do
  let text := k.held.reverse.flatten
  let n := if all then k.size else k.size / 4096 * 4096
  if n == 0 then return k
  else
    match ← lift (Action.tryWrite k.stream (text.take n)) with
    | none => pure ()
    | some e =>
      if k.stream == 1 then
        modify fun s => { s with sinks := [] }
        throw (.fatal ("close failed on file \"/dev/stdout\" (" ++ Errno.text e ++ ")"))
    let rest := text.drop n
    return { k with held := [rest], size := rest.length }

/-- Changes the sink of a stream. -/
def setSink (k : Sink) : Run Unit :=
  modify fun s => { s with sinks := s.sinks.map fun j => if j.stream == k.stream then k else j }

/-- Writes all that is held back. -/
def flushAll : Run Unit := do
  for k in (← get).sinks do
    setSink (← flushed true k)

/-- Prints a text to the sink of a stream. -/
def printOn (stream : Nat) (s : Text) : Run Unit := do
  match (← get).sinks.find? fun k => k.stream == stream with
  | none => lift (Action.write stream s)
  | some k =>
    let k := { k with held := s :: k.held, size := k.size + s.length }
    if k.size < 4096 then setSink k else setSink (← flushed false k)

/-! ### Commands -/

/-- Runs an action with only the streams that a command is given. -/
def withOwnStreams {α : Type} (f : Streams → Streams) (act : Shell.Action α) : Shell.Action α :=
  Action.withStreams (fun s => f (s.filter (·.1 < 100))) act

/-- Starts a command with one of its streams led elsewhere, and gives its number. -/
def launch (r : Runner) (stream : Nat) (channel : Channel) (command : Text) : Run (Option Nat) := do
  flushAll
  let args := [['-', 'c'], command]
  match ← lift (withOwnStreams (Action.led stream channel) (r.launch "/bin/sh".toList args)) with
  | .ok id => return some id
  | .error _ => return none

/-- The stream of what is printed to. -/
def sinkFor (r : Runner) (outlet : Outlet) (name : Text) : Run Nat := do
  let isCommand := outlet == .command
  let name := if !isCommand && name == ['-'] then "/dev/stdout".toList else name
  if !isCommand && name == "/dev/stderr".toList then return 2
  match (← get).sinks.find? fun k => k.isCommand == isCommand && k.name == name with
  | some k => return k.stream
  | none =>
    let add (stream : Nat) (process : Option Nat) : Run Nat := do
      modify fun s => { s with sinks := { name, isCommand, stream, process } :: s.sinks }
      return stream
    if isCommand then
      let pipe ← lift (Action.newPipe Pipe.between)
      let process ← launch r 0 (.feed pipe) name
      add (← newStream (.gather pipe)) process
    else
      match ← lift (Action.openForWriting (outlet == .append) name) with
      | .ok channel => add (← newStream channel) none
      | .error e =>
        throw (.fatal ("cannot open \"" ++ shown name ++ "\" for output (" ++ Errno.text e ++ ")"))

/-- The value of how a command ended. -/
def endingValue : Ending → Int
  | .killed signal => 256 + signal
  | ending => ending.status

/-- Waits for a command. -/
def awaited (process : Option Nat) : Run Int := do
  match process with
  | none => return 0
  | some id =>
    match ← lift (Child.awaitAll [id]) with
    | [ending] => return endingValue ending
    | _ => return 0

/-- Closes a sink; the status of its command. -/
def closeSink (k : Sink) : Run Int := do
  let k ← flushed true k
  modify fun s => { s with sinks := s.sinks.filter fun j => j.stream != k.stream }
  if k.stream == 1 then return 0
  dropStream k.stream
  awaited k.process

/-- Closes what has a name; the status of a command, and -1 if there is nothing of the name. -/
def close (name : Text) : Run Int := do
  let sinks := (← get).sinks.filter fun k => k.name == name
  let sources := (← get).sources.filter fun k => k.name == name
  if sinks.isEmpty && sources.isEmpty then return -1
  let mut status : Int := 0
  for k in sinks do
    status ← closeSink k
  for k in sources do
    modify fun s => { s with sources := s.sources.filter fun j => j.name != name }
    dropStream k.stream
    status ← awaited k.process
  return status

/-! ### Reading -/

/-- The source with more of what is to be read. -/
def Source.filled (src : Source) : Shell.Action Source := do
  if src.ended then return src
  match ← Action.readChunkFrom src.stream with
  | .ok chunk =>
    if chunk.isEmpty then return { src with ended := true }
    else return { src with held := src.held ++ chunk }
  | .error _ => return { src with ended := true }

/-- The source with all that is to be read. -/
def Source.whole (src : Source) : Shell.Action Source :=
  Action.loop Action.turnMax src fun src => do
    let src ← src.filled
    return if src.ended then .inr src else .inl src

/-- The next record of a source up to a character, and the source after it. -/
def Source.takeLine (mark : Char) (src : Source) : Shell.Action (Option Text × Source) :=
  Action.loop Action.turnMax src fun src => do
    let line := src.held.takeWhile (· != mark)
    match src.held.drop line.length with
    | _ :: rest => return .inr (some line, { src with held := rest })
    | [] =>
      if src.ended then
        return .inr (if line.isEmpty then none else some line, { src with held := [] })
      else return .inl (← src.filled)

/-- The next paragraph: lines up to an empty one. -/
def paragraphOf (s : Text) : Option Text × Text :=
  let s := s.dropWhile (· == '\n')
  let rec go : Text → Text → Text × Text
    | done, '\n' :: '\n' :: rest => (done.reverse, rest.dropWhile (· == '\n'))
    | done, ['\n'] => (done.reverse, [])
    | done, c :: rest => go (c :: done) rest
    | done, [] => (done.reverse, [])
  if s.isEmpty then (none, []) else
    let (record, rest) := go [] s
    (some record, rest)

/-- The next record of a source, and the source after it. -/
def takeRecord (src : Source) : Run (Option Text × Source) := do
  match ← textIn "RS" with
  | [mark] => lift (src.takeLine mark)
  | [] =>
    let src ← lift src.whole
    let (record, rest) := paragraphOf src.held
    return (record, { src with held := rest })
  | s =>
    let m ← matcherFor s
    let src ← lift src.whole
    match firstIn m (.start src.held) with
    | some found =>
      return (some (src.held.take found.start.index), { src with held := found.stop.place.rest })
    | none =>
      return (if src.held.isEmpty then none else some src.held, { src with held := [] })

/-- The source of a file. -/
def openSource (name : Text) : Run (Except Nat Source) := do
  if name == ['-'] || name == "/dev/stdin".toList then return .ok { name, stream := 0 }
  else
    match ← lift (Action.openForReading name) with
    | .ok channel => return .ok { name, stream := ← newStream channel }
    | .error e =>
      if e == Errno.isDirectory then throw (.fatal ("read error (" ++ Errno.text e ++ ")"))
      return .error e

/-- The text of an argument with its escapes replaced. -/
def unescaped (s : Text) : Text :=
  unescapedFrom (s.length + 1) [] s
where
  /-- The rest with its escapes replaced, behind what is done, latest first. -/
  unescapedFrom : Nat → Text → Text → Text
    | 0, done, s => done.reverse ++ s
    | _, done, [] => done.reverse
    | n + 1, done, '\\' :: c :: s =>
      let (cs, rest) := escapeOf c s
      unescapedFrom n (cs ++ done) rest
    | n + 1, done, c :: s => unescapedFrom n (c :: done) s

/-- The variable and the text that an argument sets. -/
def assignmentIn? (s : Text) : Option (Text × Text) :=
  let name := s.takeWhile fun c => c.isAlphanum || c == '_'
  match s.drop name.length with
  | '=' :: value =>
    if name.isEmpty || (name.headD '0').isDigit then none else some (name, unescaped value)
  | _ => none

/-- Opens the next file among the arguments, or the standard input if there are none. Says
whether there is one. -/
def openInput : Nat → Run Bool
  | 0 => return false
  | n + 1 => do
    let s ← get
    let start (src : Source) : Run Bool := do
      modify fun s => { s with input := some src, opened := true }
      setGlobal "FILENAME" (.text src.name)
      setGlobal "FNR" (.number (.finite 0))
      return true
    let argc := toWord (← global "ARGC").toNumber
    if argc ≤ s.argument then
      if s.opened then return false else start { name := [], stream := 0 }
    else
      set { s with argument := s.argument + 1 }
      let argv ← arrayOf "ARGV".toList
      match ((← itemsOf argv).find (.number s.argument) false).1 with
      | none => openInput n
      | some v =>
        let arg ← textOf v
        if arg.isEmpty then openInput n
        else
          match assignmentIn? arg with
          | some (x, value) =>
            if x == "NF".toList then setFieldCount (.input value)
            else modify fun s => { s with globals := withSlot x (.value (.input value)) s.globals }
            openInput n
          | none =>
            match ← openSource arg with
            | .ok src => start src
            | .error e =>
              throw (.fatal ("cannot open \"" ++ shown arg ++ "\" (" ++ Errno.text e ++ ")"))

/-- The next record of the input. -/
def nextRecord : Nat → Run (Option Text)
  | 0 => return none
  | n + 1 => do
    match (← get).input with
    | none => if ← openInput (n + 1) then nextRecord n else return none
    | some src =>
      let (record, src) ← takeRecord src
      match record with
      | some record =>
        modify fun s => { s with input := some src }
        return some record
      | none =>
        modify fun s => { s with input := none }
        nextRecord n

/-- How many arguments there can be. -/
def argumentMax : Nat := 100000

/-- Takes the next record of the input and counts it. -/
def nextCounted : Run (Option Text) := do
  match ← nextRecord argumentMax with
  | none => return none
  | some record =>
    count "NR"
    count "FNR"
    return some record

/-- The next record of a file or of what a command prints; no number if it cannot be read. -/
def recordFrom (r : Runner) (isCommand : Bool) (name : Text) : Run (Option (Option Text)) := do
  let known := (← get).sources.find? fun k => k.isCommand == isCommand && k.name == name
  let source ←
    match known with
    | some src => pure (some src)
    | none =>
      if isCommand then
        let pipe ← lift (Action.newPipe Pipe.between)
        let process ← launch r 1 (.gather pipe) name
        pure (some { name, isCommand, stream := ← newStream (.feed pipe), process })
      else
        match ← openSource name with
        | .ok src => pure (some src)
        | .error _ => pure none
  match source with
  | none => return none
  | some src =>
    let (record, src) ← takeRecord src
    modify fun s => { s with sources := src :: s.sources.filter fun k => k.stream != src.stream }
    return some record

end Rule
end Shell
end StressBench
