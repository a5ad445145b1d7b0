/-
# The scratch file of a run

A scratch file is created by writing a corpus to a path and is owned from the
moment it is open: if the writing fails the owner goes, and with it the file. An
owner is given up in one of three ways. Removing deletes the file and tells what
came of it, keeping leaves the file, and dropping deletes it and tells nothing,
also if it could not be deleted.

Key definitions: `Cleanup`, `Cleanup.ofResult`, `Cleanup.warning?`, `Scratch`, `Scratch.create`,
`Scratch.remove`, `Scratch.keep`, `Scratch.drop`.
-/
import StressBench.Corpus
import StressBench.Disk.Files

namespace StressBench

/-! ### Clean-up -/

/-- What came of one attempt to delete a file. -/
inductive Cleanup
  | deleted
  | notFound
  | permissionDenied (error : IoError)
  | failed (error : IoError)
  deriving DecidableEq, Repr

namespace Cleanup

/-- The class of the result of a deletion. -/
def ofResult : Except IoError Unit → Cleanup
  | .ok () => .deleted
  | .error e =>
    match e.kind with
    | .notFound => .notFound
    | .permissionDenied => .permissionDenied e
    | _ => .failed e

/-- Whether the file is gone by this deletion. -/
def isDeleted : Cleanup → Bool
  | .deleted => true
  | _ => false

/-- The class in words. -/
def label : Cleanup → String
  | .deleted => "deleted"
  | .notFound => "not found"
  | .permissionDenied _ => "permission denied"
  | .failed _ => "other error"

/-- The warning for a path; a deleted file needs none. -/
def warning? (path : Path) : Cleanup → Option String
  | .deleted => none
  | .notFound =>
    some ("cleanup warning: file not found deleting stress test file " ++ path.display)
  | .permissionDenied e =>
    some ("cleanup warning: permission denied deleting stress test file " ++ path.display ++
      ": " ++ e.message)
  | .failed e =>
    some ("cleanup warning: other error deleting stress test file " ++ path.display ++ ": " ++
      e.message)

theorem warning?_eq_none_iff (path : Path) (c : Cleanup) :
    c.warning? path = none ↔ c = .deleted := by
  cases c <;> simp [warning?]

end Cleanup

/-- Deletes the file that a path names, and tells what came of it. -/
def Disk.cleanUp (d : Disk) (cwd : Location) (path : Path) : Cleanup × Disk :=
  let (result, d) := d.removeFile cwd path
  (.ofResult result, d)

/-! ### Owners -/

/-- The owner of a corpus file. -/
structure Scratch where
  path : Path
  deriving DecidableEq, Repr

namespace Scratch

/-- What has become of the creation of a scratch file: the owner or the failure,
the disk, the feed as far as it has not been asked for lines, and what was passed
on if the path led to a stream of the process. -/
structure Created (α : Type) where
  result : Except Failure Scratch
  disk : Disk
  rest : LineFeed α
  passed : Option Passed := none

/-- Deletes the file of an owner that goes without being removed or kept. -/
def drop (s : Scratch) (cwd : Location) (d : Disk) : Disk :=
  (d.removeFile cwd s.path).2

/-- Writes a corpus with the given body to a path and owns the file. A path that
cannot be opened leaves the disk as it was; if the writing fails, the file that
was opened is deleted. -/
def create {α : Type} (path : Path) (body : LineFeed α) (cwd : Location) (d : Disk) : Created α :=
  match d.openForWriting cwd path with
  | .error e => { result := .error (.corpusWrite path e), disk := d, rest := body }
  | .ok (loc, d) =>
    let owner : Scratch := ⟨path⟩
    let w := writeLines (d.sinkFor loc) headerLine body terminatorLine
    let passed := d.passed? loc w.sink
    let d := d.finish loc w.sink
    match w.error with
    | none => ⟨.ok owner, d, w.rest, passed⟩
    | some e => ⟨.error (.corpusWrite path e), owner.drop cwd d, w.rest, passed⟩

/-- Deletes the file and tells what came of it. -/
def remove (s : Scratch) (cwd : Location) (d : Disk) : Cleanup × Disk :=
  d.cleanUp cwd s.path

/-- Gives the file up without deleting it. -/
def keep (s : Scratch) : Path :=
  s.path

end Scratch

/-! ### Sessions of owners -/

namespace Scratch

/-- The owners alive at some time, by their names. -/
abbrev Owners := List (String × Scratch)

/-- The owners without the one of a name. -/
def Owners.without (owners : Owners) (name : String) : Owners :=
  owners.filter fun p => p.1 != name

/-- The disk and owners after an owner has been given a name. One that had the
name before is dropped. -/
def Owners.adopt (owners : Owners) (name : String) (s : Scratch) (cwd : Location) (d : Disk) :
    Owners × Disk :=
  ((name, s) :: owners.without name,
    match owners.lookup name with
    | some old => old.drop cwd d
    | none => d)

end Scratch
end StressBench
