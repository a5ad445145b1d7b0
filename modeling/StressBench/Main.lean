/-
# The command line

The program is run on a picture of the disk that has the standard devices and the
directories on the way to the scratch file, and what it makes of that file is then
done to the disk. No other program is started from here: the call of the compiler
fails as one that the system does not offer.

Key definitions: `Disk.withDirectory`, `Disk.pictured`, `Disk.realise`, `main`.
-/
import StressBench.Launch
import StressBench.Program

namespace StressBench

/-- The disk with all directories on the way of an absolute path, the last included. -/
def Disk.withDirectory (d : Disk) (p : Path) : Disk :=
  (p.names.foldl (fun (acc : Location × Disk) n =>
    if n = Path.here then acc
    else if n = Path.above then (acc.1.tail, acc.2)
    else
      let loc := n :: acc.1
      (loc, if acc.2.get loc = none then acc.2.put loc .newDirectory else acc.2)) ([], d)).2

/-- The bytes of a text of the system. -/
def bytesOf (s : String) : Bytes :=
  Utf8.encode s.toList

/-- The scratch file that arguments lead to, if they are right. -/
def scratchOf? (s : CommandLine.Surroundings) (argv : List Bytes) : Option Path :=
  match CommandLine.parse argv with
  | .ok a => (a.toConfig s).toOption.map Config.scratchPath
  | .error _ => none

/-- The picture of the disk with what really sits at a path, if that is a file or a
directory that is not pictured yet. -/
def Disk.pictured (d : Disk) (p : Path) : IO Disk := do
  let place := (← IO.currentDir) / p.display
  if (d.lookup [] p).toOption.isSome then return d
  else if ← place.isDir then return d.withDirectory p
  else if ← place.pathExists then
    let content ← IO.FS.readBinFile place
    match d.putFile [] p content.toList with
    | .ok d => return d
    | .error _ => return d
  else return d

/-- Brings the file at a path into line with the picture: it is written if the
picture has a file there, and removed if only the picture before had one. -/
def Disk.realise (before after : Disk) (p : Path) : IO Unit := do
  match after.lookup [] p, before.lookup [] p with
  | .ok (_, .file content _), _ => IO.FS.writeBinFile p.display ⟨content.toArray⟩
  | .error _, .ok (_, .file ..) => IO.FS.removeFile p.display
  | _, _ => pure ()

end StressBench

open StressBench in
/-- Runs the program. -/
def main (args : List String) : IO UInt32 := do
  let cwd : Path := bytesOf (← IO.currentDir).toString
  let surroundings := CommandLine.Surroundings.ofProcess (.ok cwd)
    (.ok (bytesOf (← IO.appPath).toString))
  let argv := bytesOf CommandLine.programName :: args.map bytesOf
  let scratch := scratchOf? surroundings argv
  let mut disk : Disk := { entries := Disk.devices }
  for p in cwd :: (scratch.map fun p => p.parent?.toList ++ [p]).getD [] do
    disk ← disk.pictured p
  let drawn ← IO.rand 0 (UInt64.size - 1)
  let ended := Program.run Launch.unavailable surroundings argv (UInt64.ofNat drawn)
    cwd.names.reverse disk
  if let some p := scratch then
    disk.realise ended.disk p
  (← IO.getStdout).write ⟨ended.output.toArray⟩
  (← IO.getStderr).write ⟨ended.errors.toArray⟩
  return UInt32.ofNat ended.exitCode
