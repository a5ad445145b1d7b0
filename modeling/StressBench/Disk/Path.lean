/-
# Paths

A path is a byte string. It is absolute when it begins with a slash, and its
names are the runs between slashes. Joining puts one slash between two paths
unless the first is empty or ends in one; an absolute second path replaces the
first.

Key definitions: `Path`, `Path.isAbsolute`, `Path.join`, `Path.names`, `Path.display`,
`Path.parent?`.
-/
import StressBench.Text.Utf8

namespace StressBench

/-- A path as it is written. -/
abbrev Path := Bytes

/-- The name of an entry of a directory. -/
abbrev Name := Bytes

namespace Path

/-- The byte that separates names. -/
def slash : UInt8 := 0x2F

/-- The path of an ASCII text. -/
def ofText (s : Text) : Path :=
  Utf8.encode s

/-- Whether the path begins at the root. -/
def isAbsolute (p : Path) : Bool :=
  p.head? == some slash

/-- Whether the path ends in a slash. -/
def endsInSlash (p : Path) : Bool :=
  p.getLast? == some slash

/-- The path `p` taken from the directory `base`. -/
def join (base p : Path) : Path :=
  if isAbsolute p then p
  else if base.isEmpty || endsInSlash base then base ++ p
  else base ++ slash :: p

/-- The names along the path, in order. -/
def names (p : Path) : List Name :=
  (p.splitOnP (· == slash)).filter fun n => !n.isEmpty

/-- Whether the path has a NUL byte, so that no system call can take it. -/
def hasNul (p : Path) : Bool :=
  p.contains 0

/-- The path as it is shown in a message. -/
def display (p : Path) : String :=
  String.ofList (Utf8.decodeLossy p)

/-- The name of the directory itself. -/
def here : Name := [0x2E]

/-- The name of the directory above. -/
def above : Name := [0x2E, 0x2E]

/-- The last name of the path, unless it stands for the directory itself in its
place or above it. A final `.` is passed over. -/
def fileName? (p : Path) : Option Name :=
  match ((p.names.zipIdx.filter fun (n, i) => n != here || (i == 0 && !isAbsolute p)).map
      Prod.fst).getLast? with
  | none => none
  | some n => if n = here ∨ n = above then none else some n

/-- The bytes of a path from its end, without slashes there and without a `.` behind a slash:
these add nothing to a path. -/
def dropIdle : Bytes → Bytes
  | 0x2F :: bs => dropIdle bs
  | 0x2E :: 0x2F :: bs => dropIdle bs
  | bs => bs

/-- The path without its last name; none if it has no name. What is left of an absolute path
is the root at least. -/
def parent? (p : Path) : Option Path :=
  match dropIdle p.reverse with
  | [] => none
  | named =>
    match dropIdle (named.dropWhile (· != slash)) with
    | [] => some (if isAbsolute p then [slash] else [])
    | rest => some rest.reverse

theorem join_of_isAbsolute {base p : Path} (h : isAbsolute p = true) : join base p = p := by
  simp [join, h]

end Path
end StressBench
