/-
# Files by path

Opening a file for writing follows links, so it may create or empty the file
that a link leads to; removing a file does not, so it removes the link itself.
Both refuse a directory. Names are added and taken only in directories that may
be changed, while a file that is there is opened in any. A write goes through a
sink whose capacity is the room of the disk, or nothing on the device that is
always full; what is written to a stream of the process is passed on to it.

Key definitions: `Disk.openForWriting`, `Disk.sinkFor`, `Disk.finish`, `Disk.passed?`,
`Disk.removeFile`, `Disk.contentOf`, `Disk.rename`.
-/
import StressBench.Disk.Resolve
import StressBench.Sink

namespace StressBench

/-- Bytes that were passed on to a stream of the process, by its number. -/
structure Passed where
  stream : Nat
  bytes : Bytes
  deriving DecidableEq, Repr

/-- What a device passes on of the bytes it takes: a stream all, the others nothing. -/
def Device.passed? (k : Device) (bytes : Bytes) : Option Passed :=
  match k with
  | .stream n => some ⟨n, bytes⟩
  | _ => none

namespace Disk

/-! ### Writing -/

/-- Opens the file that a path leads to, or creates it. The file is empty after. -/
def openForWriting (d : Disk) (cwd : Location) (p : Path) : Except IoError (Location × Disk) :=
  match d.resolve .unlessSlash cwd p with
  | .error e => .error e
  | .ok (.directory _) => .error (.system Errno.isDirectory)
  | .ok (.name parent n slash) =>
    if slash then .error (.system Errno.isDirectory)
    else
      let loc := n :: parent
      match d.get loc with
      | some (.directory _) => .error (.system Errno.isDirectory)
      | some (.file _ mode) =>
        if mode.canWrite then .ok (loc, d.put loc (.file [] mode))
        else .error (.system Errno.accessDenied)
      | some (.device _) => .ok (loc, d)
      | some (.link _) => .error (.system Errno.tooManyLinks)
      | none =>
        if d.mayChange parent then .ok (loc, d.put loc (.file [] Mode.ofFile))
        else .error (.system Errno.accessDenied)

/-- The sink that stands for the open file at a location. -/
def sinkFor (d : Disk) (loc : Location) : Sink :=
  { capacity :=
      match d.get loc with
      | some (.device .full) => some 0
      | some (.device _) => none
      | _ => d.room
    whenFull := .fail (.system Errno.noSpace)
    final := WhenFull.isFinal_noSpace
    flushError := none }

/-- The disk after what a sink has taken has gone to the file at a location. -/
def finish (d : Disk) (loc : Location) (s : Sink) : Disk :=
  match d.get loc with
  | some (.file content mode) => d.put loc (.file (content ++ s.taken) mode)
  | _ => d

/-- What the file at a location passes on of what a sink has taken. -/
def passed? (d : Disk) (loc : Location) (s : Sink) : Option Passed :=
  match d.get loc with
  | some (.device k) => k.passed? s.taken
  | _ => none

/-- What has come of writing a file: whether it failed, the disk, and what was passed on
if the path led to a stream of the process. -/
structure FileWritten where
  result : Except IoError Unit
  disk : Disk
  passed : Option Passed := none

/-- Writes lines to the file that a path leads to, which is created or emptied
first. -/
def writeFile {α : Type} (d : Disk) (cwd : Location) (p : Path) (header : Text)
    (feed : LineFeed α) (terminator : Text) : FileWritten :=
  match d.openForWriting cwd p with
  | .error e => { result := .error e, disk := d }
  | .ok (loc, d) =>
    let w := writeLines (d.sinkFor loc) header feed terminator
    { result := match w.error with
        | some e => .error e
        | none => .ok ()
      disk := d.finish loc w.sink
      passed := d.passed? loc w.sink }

/-! ### Removing and reading -/

/-- Removes the entry that a path names, which must not be a directory. A link
at the end of the path is not followed. -/
def removeFile (d : Disk) (cwd : Location) (p : Path) : Except IoError Unit × Disk :=
  match d.resolve .never cwd p with
  | .error e => (.error e, d)
  | .ok (.directory _) => (.error (.system Errno.isDirectory), d)
  | .ok (.name parent n slash) =>
    match d.get (n :: parent) with
    | none => (.error (.system Errno.noEntry), d)
    | some e =>
      if slash then
        (.error (.system (if e.isDirectory then Errno.isDirectory else Errno.notDirectory)), d)
      else if d.mayChange parent = false then (.error (.system Errno.accessDenied), d)
      else if e.isDirectory then (.error (.system Errno.isDirectory), d)
      else (.ok (), d.erase (n :: parent))

/-- The content of the file that a path leads to, if it may be read. The devices
have none. -/
def contentOf (d : Disk) (cwd : Location) (p : Path) : Except IoError Bytes :=
  match d.lookup cwd p with
  | .error e => .error e
  | .ok (_, .directory _) => .error (.system Errno.isDirectory)
  | .ok (_, .file content mode) =>
    if mode.canRead then .ok content else .error (.system Errno.accessDenied)
  | .ok _ => .ok []

/-! ### Making and changing entries -/

/-- The location of a name that is to be made, free as yet and in a directory that may be
changed. Only a name of a directory may have a slash after it. -/
def freeName (d : Disk) (cwd : Location) (p : Path) (forDirectory : Bool) :
    Except IoError Location :=
  match d.resolve .never cwd p with
  | .error e => .error e
  | .ok (.directory _) => .error (.system Errno.fileExists)
  | .ok (.name parent n slash) =>
    match d.get (n :: parent) with
    | some _ => .error (.system Errno.fileExists)
    | none =>
      if slash && !forDirectory then .error (.system Errno.noEntry)
      else if d.mayChange parent then .ok (n :: parent)
      else .error (.system Errno.accessDenied)

/-- Makes a directory. -/
def makeDirectory (d : Disk) (cwd : Location) (p : Path) (mode : Mode := .ofDirectory) :
    Except IoError Disk :=
  match d.freeName cwd p true with
  | .error e => .error e
  | .ok loc => .ok (d.put loc (.directory mode))

/-- Makes a link to a target, which need not exist. -/
def makeLink (d : Disk) (cwd : Location) (target p : Path) : Except IoError Disk :=
  if target.hasNul then .error .nulInPath
  else if target.isEmpty then .error (.system Errno.noEntry)
  else
    match d.freeName cwd p false with
    | .error e => .error e
    | .ok loc => .ok (d.put loc (.link target))

/-- Replaces the content of the file that a path leads to, or creates it. -/
def putFile (d : Disk) (cwd : Location) (p : Path) (content : Bytes) : Except IoError Disk :=
  match d.openForWriting cwd p with
  | .error e => .error e
  | .ok (loc, d) =>
    let (error, sink) := (d.sinkFor loc).write content
    match error with
    | some e => .error e
    | none => .ok (d.finish loc sink)

/-- Sets what may be done with the file or directory that a path leads to. -/
def setMode (d : Disk) (cwd : Location) (p : Path) (mode : Mode) : Except IoError Disk :=
  match d.lookup cwd p with
  | .error e => .error e
  | .ok (loc, .file content _) => .ok (d.put loc (.file content mode))
  | .ok (loc, .directory _) => .ok (d.put loc (.directory mode))
  | .ok _ => .ok d

/-- Removes an empty directory. -/
def removeDirectory (d : Disk) (cwd : Location) (p : Path) : Except IoError Disk :=
  match d.resolve .never cwd p with
  | .error e => .error e
  | .ok (.directory _) => .error (.system Errno.invalidArgument)
  | .ok (.name parent n _) =>
    match d.get (n :: parent) with
    | none => .error (.system Errno.noEntry)
    | some e =>
      if d.mayChange parent = false then .error (.system Errno.accessDenied)
      else if e.isDirectory = false then .error (.system Errno.notDirectory)
      else if (d.children (n :: parent)).isEmpty then .ok (d.erase (n :: parent))
      else .error (.system Errno.notEmpty)

/-- The disk with an entry, and all below it, moved to another location. -/
def relocate (d : Disk) (loc dest : Location) : Disk :=
  { d with
    entries := (d.entries.filter fun p => p.1 != dest).map fun p =>
      if loc.isSuffixOf p.1 then (p.1.take (p.1.length - loc.length) ++ dest, p.2) else p }

/-- Gives the entry that a path names another path. A file takes the place of
another file, a directory that of an empty one. A directory that comes to lie in
another one is changed itself, as it has a new one above it. -/
def rename (d : Disk) (cwd : Location) (p q : Path) : Except IoError Disk :=
  match d.resolve .never cwd p, d.resolve .never cwd q with
  | .error e, _ | _, .error e => .error e
  | .ok (.name parent n slash), .ok (.name parent' n' slash') =>
    let loc := n :: parent
    let dest := n' :: parent'
    match d.get loc with
    | none => .error (.system Errno.noEntry)
    | some e =>
      if e.isDirectory = false ∧ (slash || slash') then .error (.system Errno.notDirectory)
      else if loc = dest then .ok d
      else if loc.isSuffixOf dest then .error (.system Errno.invalidArgument)
      else if dest.isSuffixOf loc then .error (.system Errno.notEmpty)
      else if d.mayChange parent = false ∨ d.mayChange parent' = false then
        .error (.system Errno.accessDenied)
      else
        match e.isDirectory, (d.get dest).map Entry.isDirectory with
        | true, some false => .error (.system Errno.notDirectory)
        | false, some true => .error (.system Errno.isDirectory)
        | isDirectory, _ =>
          if isDirectory ∧ parent ≠ parent' ∧ d.mayChange loc = false then
            .error (.system Errno.accessDenied)
          else if (d.children dest).isEmpty then .ok (d.relocate loc dest)
          else .error (.system Errno.notEmpty)
  | _, _ => .error (.system Errno.busy)

end Disk
end StressBench
