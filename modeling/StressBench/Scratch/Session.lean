/-
# A session of scratch owners

Owners are made, removed, kept and dropped one after another, under names; several may
own the same path. An owner is guarded until it ends: while the guard is armed the file
goes with it, and what removes or keeps the file disarms the guard first. An owner that
is made under a name in use ends the one that had the name.

Key definitions: `Scratch.Guard`, `Scratch.Session`, `Scratch.Session.Event`,
`Scratch.Session.step`, `Scratch.Session.run`.
Key theorems: `Scratch.Guard.remove_eq`, `Scratch.Guard.keep_eq`.
-/
import StressBench.Scratch

namespace StressBench
namespace Scratch

/-! ### Guards -/

/-- An owner, and whether its file goes with it when it ends. -/
structure Guard where
  owner : Scratch
  armed : Bool := true
  deriving DecidableEq, Repr

namespace Guard

/-- The guard with its file left to itself. -/
def disarmed (g : Guard) : Guard :=
  { g with armed := false }

/-- The end of a guard. -/
def finish (g : Guard) (cwd : Location) (d : Disk) : Disk :=
  if g.armed then g.owner.drop cwd d else d

/-- Deletes the file, tells what came of it, and ends. -/
def remove (g : Guard) (cwd : Location) (d : Disk) : Cleanup × Disk :=
  let g := g.disarmed
  let (outcome, d) := d.cleanUp cwd g.owner.path
  (outcome, g.finish cwd d)

/-- Leaves the file, tells where it is, and ends. -/
def keep (g : Guard) (cwd : Location) (d : Disk) : Path × Disk :=
  let g := g.disarmed
  (g.owner.keep, g.finish cwd d)

/-- Removing deletes once: the end of the guard does not do it again. -/
theorem remove_eq (g : Guard) (cwd : Location) (d : Disk) :
    g.remove cwd d = g.owner.remove cwd d := rfl

/-- Keeping deletes nothing, although the guard ends. -/
theorem keep_eq (g : Guard) (cwd : Location) (d : Disk) : g.keep cwd d = (g.owner.path, d) := rfl

/-- An owner that ends by itself takes the file with it. -/
theorem finish_armed (s : Scratch) (cwd : Location) (d : Disk) :
    (Guard.mk s true).finish cwd d = s.drop cwd d := rfl

end Guard

/-! ### Sessions -/

/-- A disk and the owners on it that have not ended. -/
structure Session where
  disk : Disk
  owners : Owners := []

namespace Session

/-- What is done with owners. -/
inductive Event
  | create (name : String) (path : Path) (body : List Text)
  | remove (name : String)
  | keep (name : String)
  | drop (name : String)
  deriving DecidableEq, Repr

/-- What is told about it. Only an owner that has not ended can be removed, kept or
dropped. -/
inductive Answer
  | created (result : Except Failure Path)
  | removed (outcome : Option (Path × Cleanup))
  | kept (path : Option Path)
  | dropped (was : Bool)

/-- The guard of the owner of a name. -/
def guard? (s : Session) (name : String) : Option Guard :=
  (s.owners.lookup name).map fun owner => { owner }

/-- Creates a scratch file whose owner gets a name. -/
def create {α : Type} (s : Session) (cwd : Location) (name : String) (path : Path)
    (body : LineFeed α) : Except Failure Path × Session :=
  let made := Scratch.create path body cwd s.disk
  match made.result with
  | .error f => (.error f, { s with disk := made.disk })
  | .ok scratch =>
    let (owners, disk) := s.owners.adopt name scratch cwd made.disk
    (.ok scratch.path, ⟨disk, owners⟩)

/-- Removes the file of the owner of a name. -/
def remove (s : Session) (cwd : Location) (name : String) : Option (Path × Cleanup) × Session :=
  match s.guard? name with
  | none => (none, s)
  | some g =>
    let (outcome, disk) := g.remove cwd s.disk
    (some (g.owner.path, outcome), ⟨disk, s.owners.without name⟩)

/-- Keeps the file of the owner of a name. -/
def keep (s : Session) (cwd : Location) (name : String) : Option Path × Session :=
  match s.guard? name with
  | none => (none, s)
  | some g =>
    let (path, disk) := g.keep cwd s.disk
    (some path, ⟨disk, s.owners.without name⟩)

/-- Drops the owner of a name. -/
def drop (s : Session) (cwd : Location) (name : String) : Bool × Session :=
  match s.guard? name with
  | none => (false, s)
  | some g => (true, ⟨g.finish cwd s.disk, s.owners.without name⟩)

/-- One event of a session. -/
def step (cwd : Location) (s : Session) : Event → Answer × Session
  | .create name path body =>
    let (result, s) := s.create cwd name path (.ofList body)
    (.created result, s)
  | .remove name =>
    let (outcome, s) := s.remove cwd name
    (.removed outcome, s)
  | .keep name =>
    let (path, s) := s.keep cwd name
    (.kept path, s)
  | .drop name =>
    let (was, s) := s.drop cwd name
    (.dropped was, s)

theorem step_create (s : Session) (cwd : Location) (name : String) (path : Path)
    (body : List Text) :
    (s.step cwd (.create name path body)).2 = (s.create cwd name path (.ofList body)).2 := rfl

theorem step_remove (s : Session) (cwd : Location) (name : String) :
    (s.step cwd (.remove name)).2 = (s.remove cwd name).2 := rfl

theorem step_keep (s : Session) (cwd : Location) (name : String) :
    (s.step cwd (.keep name)).2 = (s.keep cwd name).2 := rfl

theorem step_drop (s : Session) (cwd : Location) (name : String) :
    (s.step cwd (.drop name)).2 = (s.drop cwd name).2 := rfl

/-- The session after events, in order. -/
def run (cwd : Location) (s : Session) (events : List Event) : Session :=
  events.foldl (fun s e => (s.step cwd e).2) s

end Session
end Scratch
end StressBench
