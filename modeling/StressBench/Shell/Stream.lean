/-
# Streams

Reading takes what a pipe holds and waits for more until nobody can put more in;
writing waits while a pipe is full, and ends the process if nobody reads. A file
that is read is a pipe with its content; one that is written is an open file with
a position.

Key definitions: `Action.tryWrite`, `Action.print`, `Action.readChunk`, `Action.readAll`,
`Action.readUpTo`, `Action.readLine`, `Action.openForReading`, `Action.withStreams`.
-/
import StressBench.Shell.Action

namespace StressBench
namespace Shell
namespace Action

/-! ### Channels -/

/-- Where a stream of the process leads. -/
def channel (stream : Nat) : Action (Option Channel) := do
  return (← own).streams.lookup stream

/-- A new pipe. -/
def newPipe (pipe : Pipe) : Action Nat := do
  let n := (← system).pipes.size
  changeSystem fun s => { s with pipes := s.pipes.push pipe }
  return n

/-- The pipe of a number. -/
def pipeAt (n : Nat) : Action Pipe := do
  return (← system).pipes[n]?.getD {}

/-- Changes a pipe. -/
def changePipe (n : Nat) (f : Pipe → Pipe) : Action Unit :=
  changeSystem fun s => { s with pipes := s.pipes.modify n f }

/-- Whether a stream of another process leads somewhere. -/
def isHeld (channel : Channel) : Action Bool := do
  let s ← system
  return s.held.contains channel || s.spawned.any fun p => p.1.channels.contains channel

/-- The streams with one of them led elsewhere. -/
def led (stream : Nat) (channel : Channel) (streams : Streams) : Streams :=
  (stream, channel) :: streams.filter fun s => s.1 != stream

/-- Runs an action with other streams. -/
def withStreams {α : Type} (f : Streams → Streams) (act : Action α) : Action α := do
  let saved := (← own).streams
  change fun p => { p with streams := f p.streams, shelved := saved :: p.shelved }
  let restore := change fun p => { p with streams := saved, shelved := p.shelved.drop 1 }
  try
    let a ← act
    restore
    return a
  catch e =>
    restore
    throw e

/-! ### Writing -/

/-- Puts bytes into a pipe when it has room. Without a reader there is no use in
writing, which ends the process unless it does not care. -/
def writePipe (n : Nat) (s : Text) : Action (Option Nat) :=
  repeatUntil turnMax do
    let pipe ← pipeAt n
    match pipe.limit with
    | none =>
      changePipe n fun pipe => pipe.put s
      return some none
    | some limit =>
      if !(← isHeld (.feed n)) then
        receive 13
        return some (some Errno.brokenPipe)
      else if limit ≤ pipe.size then
        await (.space n)
        return none
      else
        changePipe n fun pipe => pipe.put s
        return some none

/-- The content of a file after bytes have been written at a position. -/
def overwritten (content : Bytes) (position : Nat) (bytes : Bytes) : Bytes :=
  let length := content.length
  if position == length then content ++ bytes
  else
    content.take position ++ List.replicate (position - length) 0 ++ bytes ++
      content.drop (position + bytes.length)

/-- Writes bytes to an open file, as many as the disk takes. -/
def writeHandle (n : Nat) (s : Text) : Action (Option Nat) := do
  let sys ← system
  match sys.handles[n]? with
  | none => return some Errno.badDescriptor
  | some handle =>
    match sys.disk.get handle.loc with
    | some (.file content mode) =>
      let position := if handle.append then content.length else handle.position
      let (error, sink) := (sys.disk.sinkFor handle.loc).write (toBytes s)
      let bytes := sink.taken
      let content := overwritten content position bytes
      changeSystem fun sys =>
        { sys with
          disk := sys.disk.put handle.loc (.file content mode)
          handles := sys.handles.set! n { handle with position := position + bytes.length } }
      return if error.isSome then some Errno.noSpace else none
    | _ => return none

/-- Writes a text to a stream; the number of the error if that cannot be done. -/
def tryWrite (stream : Nat) (s : Text) : Action (Option Nat) := do
  if s.isEmpty then
    return if (← channel stream).isSome then none else some Errno.badDescriptor
  match ← channel stream with
  | some (.gather n) => writePipe n s
  | some (.file n) => writeHandle n s
  | some (.device .full) => return some Errno.noSpace
  | some (.device _) => return none
  | some (.feed _) | none => return some Errno.badDescriptor

/-- Writes a text to a stream, if that can be done. -/
def write (stream : Nat) (s : Text) : Action Unit :=
  discard (tryWrite stream s)

/-- Prints a text to the standard output, or ends with the error. -/
def print (s : Text) : Action Unit := do
  unless s.isEmpty do
    match ← tryWrite 1 s with
    | none => pure ()
    | some e => throw (.unwritten e)

/-- Prints a line to the standard output, or ends with the error. -/
def printLine (s : Text) : Action Unit :=
  print (s ++ ['\n'])

/-- The characters of a message, each byte as one. -/
def encoded (message : String) : Text :=
  ofBytes (Utf8.encode message.toList)

/-- Writes a line to the standard error. -/
def complain (message : String) : Action Unit :=
  write 2 (encoded message ++ ['\n'])

/-! ### Reading -/

/-- How many bytes are taken from a source without end at a time. -/
def chunkSize : Nat := 8192

/-- Bytes of a source without end. -/
def endless? : Device → Option Char
  | .zero | .full => some (Char.ofNat 0)
  | .random => some (Char.ofNat 90)
  | _ => none

/-- Waits until a pipe holds bytes, and gives it; at its end it is empty. -/
def filledPipe (n : Nat) : Action Pipe :=
  repeatUntil turnMax do
    let pipe ← pipeAt n
    if pipe.size != 0 || pipe.fileSize.isSome then return some pipe
    else if ← isHeld (.gather n) then
      await (.input n)
      return none
    else return some (← pipeAt n)

/-- What comes next from a stream; no bytes at its end. The error if it cannot be read. -/
def readChunkFrom (stream : Nat) : Action (Except Nat Text) := do
  match ← channel stream with
  | some (.feed n) =>
    let pipe ← filledPipe n
    changePipe n fun pipe => pipe.holding [] 0
    return .ok pipe.content
  | some (.device kind) =>
    return .ok (((endless? kind).map fun c => List.replicate chunkSize c).getD [])
  | some (.file _) | some (.gather _) | none => return .error Errno.badDescriptor

/-- What comes next from the standard input. -/
def readChunk : Action Text := do
  return (← readChunkFrom 0).toOption.getD []

/-- Takes all bytes from the standard input. -/
def readAll : Action Text := do
  let first ← readChunk
  if first.isEmpty then return first
  let store ← newPipe ({} : Pipe)
  changePipe store fun pipe => pipe.put first
  repeatTurns turnMax do
    let next ← readChunk
    changePipe store fun pipe => pipe.put next
    return !next.isEmpty
  let pipe ← pipeAt store
  changePipe store fun _ => {}
  return pipe.content

/-- Puts bytes back that have been read. -/
def unread (n : Nat) (s : Text) : Action Unit :=
  changePipe n fun pipe =>
    let rest := s ++ pipe.content
    pipe.holding rest rest.length

/-- Takes bytes from a stream, up to a number; fewer only at its end. -/
def readUpToFrom (stream count : Nat) : Action Text := do
  match ← channel stream with
  | some (.feed n) =>
    let store ← newPipe ({} : Pipe)
    repeatTurns turnMax do
      let missing := count - (← pipeAt store).size
      if missing == 0 then return false
      let pipe ← filledPipe n
      let content := pipe.content
      changePipe store fun held => held.put (content.take missing)
      changePipe n fun pipe => pipe.holding (content.drop missing) (pipe.size - missing)
      return !content.isEmpty
    return (← pipeAt store).content
  | some (.device kind) =>
    return ((endless? kind).map fun c => List.replicate count c).getD []
  | _ => return []

/-- What comes next from the standard input, up to a number of bytes; none at its end. -/
def readBlock (most : Nat) : Action Text := do
  match ← channel 0 with
  | some (.feed n) =>
    let pipe ← filledPipe n
    let content := pipe.content
    changePipe n fun pipe => pipe.holding (content.drop most) (pipe.size - most)
    return content.take most
  | some (.device kind) =>
    return ((endless? kind).map fun c => List.replicate most c).getD []
  | _ => return []

/-- Puts bytes back into the file that is the standard input. What has been taken from a
pipe cannot be put back. -/
def putBack (s : Text) : Action Unit := do
  match ← channel 0 with
  | some (.feed n) =>
    if (← pipeAt n).fileSize.isSome then unread n s
  | _ => pure ()

/-- Takes bytes from the standard input, up to a number. -/
def readUpTo (count : Nat) : Action Text :=
  readUpToFrom 0 count

/-- Takes a line from a stream, with its line end, which is missing only at the end. -/
def readLineFrom (stream : Nat) (mark : Char) : Action Text := do
  match ← channel stream with
  | some (.feed n) =>
    repeatUntil turnMax do
      let pipe ← filledPipe n
      let content := pipe.content
      let line := content.takeWhile (· != mark)
      match content.drop line.length with
      | c :: rest =>
        changePipe n fun pipe => pipe.holding rest (pipe.size - line.length - 1)
        return some (line ++ [c])
      | [] =>
        if pipe.fileSize.isSome || !(← isHeld (.gather n)) then
          let rest := (← pipeAt n).content
          if rest.length == content.length then
            changePipe n fun pipe => pipe.holding [] 0
            return some content
          else return none
        else
          changePipe n fun pipe => pipe.holding [] 0
          await (.input n)
          unread n content
          return none
  | some (.device kind) =>
    match endless? kind with
    | some _ => forever
    | none => return []
  | _ => return []

/-- Takes a line from the standard input. -/
def readLine : Action Text :=
  readLineFrom 0 '\n'

/-! ### Opening files -/

/-- What an operation on the disk brings, with the number of its error. -/
def errorNumber : IoError → Nat
  | .system n => n
  | _ => Errno.noEntry

/-- Carries out an operation that gives a new disk. -/
def onDisk (op : Disk → Location → Except IoError Disk) : Action (Option Nat) := do
  match op (← disk) (← own).cwd with
  | .ok disk =>
    setDisk disk
    return none
  | .error e => return some (errorNumber e)

/-- The channel of a device that has been opened. -/
def openDevice (kind : Device) : Action (Except Nat Channel) := do
  match kind with
  | .stream n =>
    match ← channel n with
    | some channel => return .ok channel
    | none => return .error Errno.noEntry
  | kind => return .ok (.device kind)

/-- Opens a file for reading. What is read is the content at this time. -/
def openForReading (path : Text) : Action (Except Nat Channel) := do
  let p ← own
  let path := toBytes path
  match (← disk).lookup p.cwd path with
  | .error e => return .error (errorNumber e)
  | .ok (_, .directory _) | .ok (_, .link _) => return .error Errno.isDirectory
  | .ok (_, .device kind) => openDevice kind
  | .ok (_, .file content mode) =>
    if mode.canRead then return .ok (.feed (← newPipe (.ofFile (ofBytes content))))
    else return .error Errno.accessDenied

/-- Opens a file for writing. -/
def openForWriting (append : Bool) (path : Text) : Action (Except Nat Channel) := do
  let p ← own
  let d ← disk
  let path := toBytes path
  let existing := d.lookup p.cwd path
  match existing, append with
  | .ok (_, .device kind), _ => openDevice kind
  | .ok (loc, .file content mode), true =>
    if mode.canWrite then opened ⟨loc, content.length, true⟩
    else return .error Errno.accessDenied
  | _, _ =>
    match d.openForWriting p.cwd path with
    | .error e => return .error (errorNumber e)
    | .ok (loc, d) =>
      let isNew := match existing with
        | .ok _ => false
        | .error _ => true
      let d :=
        match d.get loc with
        | some (.file content mode) =>
          if isNew then d.put loc (.file content (0o666 &&& (0o777 ^^^ p.mask)))
          else d.put loc (.file content mode)
        | _ => d
      setDisk d
      opened ⟨loc, 0, append⟩
where
  /-- A channel to an open file. -/
  opened (handle : Handle) : Action (Except Nat Channel) := do
    let n := (← system).handles.size
    changeSystem fun s => { s with handles := s.handles.push handle }
    return .ok (.file n)

end Action
end Shell
end StressBench
