/-
# From a path to a location

A path is walked from the root or from the current directory, name by name. A
link on the way is replaced by the names of its target; the last name is
replaced too if the caller wants what the path leads to, and left if the caller
wants the entry that the path names. Forty links may be followed in one walk, and
no name is looked up in a directory that may not be passed through.

Key definitions: `Follow`, `Disk.Target`, `Disk.walk`, `Disk.resolve`, `Disk.lookup`.
-/
import StressBench.Disk.Basic
import StressBench.IoError

namespace StressBench

/-- Whether a link that the last name of a path names is followed: always, only
if no slash comes after the name, or never. -/
inductive Follow
  | always
  | unlessSlash
  | never
  deriving DecidableEq, Repr

namespace Disk

/-- Where a walk ends: at a directory itself, when the path ends in `.` or `..` or
is the root, or at a name in a directory, which may or may not be an entry.
`slash` says that a slash comes after the name. -/
inductive Target
  | directory (loc : Location)
  | name (parent : Location) (name : Name) (slash : Bool)
  deriving DecidableEq, Repr

/-- The longest name of an entry. -/
def nameMax : Nat := 255

/-- The longest path that a system call takes. -/
def pathMax : Nat := 4095

/-- The most links that are followed in one walk. -/
def linkMax : Nat := 40

/-- Where the walk of a link's target begins. -/
def startOf (loc : Location) (p : Path) : Location :=
  if p.isAbsolute then [] else loc

/-- Whether a link at the end of a path is followed. -/
def followsLast : Follow → Bool → Bool
  | .always, _ => true
  | .unlessSlash, slash => !slash
  | .never, _ => false

/-- Walks from a directory along names, following at most `links` links. -/
def walk (d : Disk) (follow : Follow) (links : Nat) (loc : Location) (names : List Name)
    (slash : Bool) : Except Nat Target :=
  match names with
  | [] => .ok (.directory loc)
  | n :: rest =>
    if d.maySearch loc = false then .error Errno.accessDenied
    else if n = Path.here then walk d follow links loc rest slash
    else if n = Path.above then walk d follow links loc.tail rest slash
    else if nameMax < n.length then .error Errno.nameTooLong
    else
      match d.get (n :: loc) with
      | some (.link target) =>
        if !rest.isEmpty || followsLast follow slash then
          match links with
          | 0 => .error Errno.tooManyLinks
          | links + 1 =>
            walk d follow links (startOf loc target) (target.names ++ rest)
              (if rest.isEmpty then slash || target.endsInSlash else slash)
        else .ok (.name loc n slash)
      | some (.directory _) =>
        if rest.isEmpty then .ok (.name loc n slash)
        else walk d follow links (n :: loc) rest slash
      | some _ =>
        if rest.isEmpty then .ok (.name loc n slash) else .error Errno.notDirectory
      | none =>
        if rest.isEmpty then .ok (.name loc n slash) else .error Errno.noEntry
termination_by (links, names.length)

/-- Where a path leads from the current directory `cwd`. -/
def resolve (d : Disk) (follow : Follow) (cwd : Location) (p : Path) : Except IoError Target :=
  if p.hasNul then .error .nulInPath
  else if p.isEmpty then .error (.system Errno.noEntry)
  else if pathMax < p.length then .error (.system Errno.nameTooLong)
  else
    match walk d follow linkMax (startOf cwd p) p.names p.endsInSlash with
    | .ok t => .ok t
    | .error n => .error (.system n)

/-- What a path leads to through all links: the location and the entry there. A
slash after the last name asks for a directory. -/
def lookup (d : Disk) (cwd : Location) (p : Path) : Except IoError (Location × Entry) :=
  match d.resolve .always cwd p with
  | .error e => .error e
  | .ok (.directory loc) => .ok (loc, .directory (d.modeAt loc))
  | .ok (.name parent n slash) =>
    match d.get (n :: parent) with
    | none => .error (.system Errno.noEntry)
    | some e =>
      if slash ∧ e.isDirectory = false then .error (.system Errno.notDirectory)
      else .ok (n :: parent, e)

/-- The directory that a path leads to, if one may work in it. -/
def directoryAt (d : Disk) (cwd : Location) (p : Path) : Except IoError Location :=
  match d.lookup cwd p with
  | .error e => .error e
  | .ok (loc, .directory mode) =>
    if mode.canExecute then .ok loc else .error (.system Errno.accessDenied)
  | .ok _ => .error (.system Errno.notDirectory)

end Disk
end StressBench
