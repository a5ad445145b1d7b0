/-
# Carrying out a call

Before a call the file of the program is inspected from the current directory: it
must be a regular file that can be executed. The child then goes to its working
directory and from there looks the program up again, so that a relative path may
lead it to another file. A program that has not ended when its time is up brings a
timeout, and what it had printed is lost.

Key definitions: `Launch.inspect`, `Launch.childDirectory`, `Launch.outcome`, `Launch.call`,
`Disk.devices`, `Disk.installed`.
-/
import StressBench.Shell.Schedule

namespace StressBench
namespace Launch

/-- The error of an executable that is there but is no file. -/
def notRegular : IoError :=
  .custom .invalidInput "not a regular file"

/-- Looks at the executable from the current directory, and gives its location. -/
def inspect (d : Disk) (cwd : Location) (executable : Path) : Except IoError Location :=
  match d.lookup cwd executable with
  | .error e => .error e
  | .ok (loc, .file _ mode) =>
    if mode.canExecute then .ok loc else .error (.system Errno.accessDenied)
  | .ok _ => .error notRegular

/-- The directory in which the child runs. -/
def childDirectory (d : Disk) (cwd : Location) (i : Invocation) : Except IoError Location :=
  match i.workingDir with
  | none => .ok cwd
  | some dir => d.directoryAt cwd dir

/-- Whether something that is handed to the child has a NUL byte. -/
def hasNul (i : Invocation) : Bool :=
  i.args.any Path.hasNul || (i.workingDir.map Path.hasNul).getD false

/-- The program that the child runs, and the directory it runs in. -/
def prepare (d : Disk) (cwd : Location) (i : Invocation) :
    Except IoError (Shell.Start × Location) :=
  match inspect d cwd i.executable with
  | .error e => .error e
  | .ok _ =>
    if hasNul i then .error .nulInArgument
    else
      match childDirectory d cwd i with
      | .error e => .error e
      | .ok dir =>
        match Shell.startNamed d dir Shell.searchPath (Shell.ofBytes i.executable)
            (i.args.map Shell.ofBytes) with
        | .error n => .error (.system n)
        | .ok start => .ok (start, dir)

/-- The directories that programs are looked for in, as they are handed on. -/
def handedPath : Text :=
  [':'].intercalate (Shell.searchPath.map Shell.ofBytes)

/-- The process of a child. Its input is empty, its two outputs are gathered. -/
def child (dir : Location) : Shell.Process where
  id := Shell.Schedule.firstId
  cwd := dir
  vars := Shell.imported [("PATH".toList, handedPath)]
  streams := [(0, .device .null), (1, .gather 0), (2, .gather 1)]

/-- The system in which a child runs. -/
def system (d : Disk) (i : Invocation) : Shell.System where
  disk := d
  pipes := #[{}, {}]
  nextId := Shell.Schedule.firstId + 1
  deadline := i.timeout.map Duration.total

/-- What a child that has come to an end brings. -/
def outcome (i : Invocation) (s : Shell.Schedule) : Except Failure Output :=
  let printed (pipe : Nat) := Shell.toBytes (s.system.pipes[pipe]?.getD {}).content
  let finished (status : ExitStatus) := .ok (Output.ofBytes (printed 0) (printed 1) status)
  match s.ending with
  | some (.exit code) => finished (.exited (code % 256))
  | some (.killed signal) => finished (.killed signal)
  | _ => .error (Failure.timeout i.executable (i.timeout.getD ⟨s.clock⟩))

/-- Carries out a call. -/
def call : Launcher := fun cwd d i =>
  match prepare d cwd i with
  | .error e => (.error (.launch i.executable e), d)
  | .ok (start, dir) =>
    let s := Shell.Schedule.run start (child dir) (system d i)
    (outcome i s, s.system.disk)

/-- The launcher of a place where nothing can be started. -/
def unavailable : Launcher := fun _ d i =>
  (.error (.launch i.executable (.system Errno.notImplemented)), d)

end Launch

/-! ### A disk with programs -/

/-- The location of a path of plain names. -/
def Location.ofNames (names : List String) : Location :=
  (names.map fun n => Utf8.encode n.toList).reverse

/-- The standard devices, and the directory they are in. -/
def Disk.devices : List (Location × Entry) :=
  (Location.ofNames ["dev"], .newDirectory) ::
    [("null", .null), ("zero", .zero), ("full", .full), ("random", .random), ("urandom", .random),
        ("stdin", .stream 0), ("stdout", .stream 1), ("stderr", .stream 2)].map fun (name, kind) =>
      (Location.ofNames ["dev", name], .device kind)

/-- A disk with the standard directories, devices and programs. -/
def Disk.installed : Disk where
  entries :=
    ([["usr"], ["usr", "bin"], ["usr", "sbin"], ["usr", "local"], ["usr", "local", "bin"],
        ["usr", "local", "sbin"], ["etc"], ["tmp"], ["run"]].map fun names =>
      (Location.ofNames names, Entry.newDirectory)) ++
    [(Location.ofNames ["bin"], .link (Utf8.encode "usr/bin".toList)),
      (Location.ofNames ["sbin"], .link (Utf8.encode "usr/sbin".toList))] ++
    devices ++
    (Shell.Tool.shellName :: "dash" :: Shell.Tool.standard.map Prod.fst).map fun name =>
      (Location.ofNames ["usr", "bin", name],
        .file (Shell.image (if name == "dash" then Shell.Tool.shellName else name)) Mode.ofProgram)

end StressBench
