/-
# From a path to the program that is run

A file that can be executed holds a program, or its first line names one: after
`#!` comes the path of an interpreter and perhaps one argument, and the program
of the interpreter is run with the path of the file added to its arguments. Only the
first bytes of a file are looked at, and a path that may go on behind them is not
taken. A name without a slash is looked for in the directories of the search path.

Key definitions: `Shell.Start`, `Shell.image`, `Shell.interpreter?`, `Shell.startAt`,
`Shell.findProgram`, `Shell.searchPath`.
-/
import StressBench.Shell.Stream

namespace StressBench
namespace Shell

/-! ### Programs as files -/

/-- What every binary program begins with. -/
def magic : Bytes := [0x7F, 0x45, 0x4C, 0x46, 0x3A]

/-- The content of the file of a program. -/
def image (name : String) : Bytes :=
  magic ++ Utf8.encode name.toList

/-- The name of the program that a file holds. -/
def nameOfImage? (content : Bytes) : Option String :=
  if magic.isPrefixOf content then
    (Utf8.decode? (content.drop magic.length)).map String.ofList
  else none

/-! ### Interpreters -/

/-- How many bytes of a file are looked at for an interpreter. -/
def headSize : Nat := 256

/-- Whether a byte is a blank in the first line of a script. -/
def isHeadBlank (b : UInt8) : Bool :=
  b == 0x20 || b == 0x09

/-- The bytes without the blanks at their end. -/
def withoutBlanks (line : Bytes) : Bytes :=
  (line.reverse.dropWhile isHeadBlank).reverse

/-- The interpreter and its argument in a line that is whole. -/
def interpreterIn (line : Bytes) : Option (Path × Option Text) :=
  let line := (withoutBlanks line).dropWhile isHeadBlank
  let path := line.takeWhile fun b => !isHeadBlank b && b != 0
  let rest := line.drop path.length
  let arg := (rest.dropWhile isHeadBlank).takeWhile (· != 0)
  if line.isEmpty then none
  else if (rest.headD 0) == 0 then some (path, none)
  else some (path, some (ofBytes arg))

/-- The interpreter that the first line of a file names, and its argument. A line that is
not ended within the bytes that are looked at must have a blank or the end of the file
behind the path. -/
def interpreter? (content : Bytes) : Option (Path × Option Text) :=
  match content with
  | 0x23 :: 0x21 :: rest =>
    let rest := rest.take (headSize - 2)
    let line := rest.takeWhile fun b => b != 0x0A && b != 0
    if (rest.drop line.length).head? == some 0x0A then interpreterIn line
    else
      let padded := rest ++ List.replicate (headSize - 2 - rest.length) 0
      let begun := padded.dropWhile isHeadBlank
      let path := begun.takeWhile fun b => !isHeadBlank b && b != 0
      if path.length == begun.length then none
      else
        let behind := withoutBlanks (begun.take (begun.length - 1)) |>.drop path.length
        let arg := (behind.dropWhile isHeadBlank).takeWhile (· != 0)
        if (behind.headD 0) == 0 then some (path, none) else some (path, some (ofBytes arg))
  | _ => none

/-! ### The way to a program -/

/-- A program that is about to run. -/
structure Start where
  program : String
  /-- The name it is called by. -/
  called : Text
  args : List Text
  deriving DecidableEq, Repr

/-- How often an interpreter may itself be a script. -/
def interpreterMax : Nat := 5

/-- The content of a file that may be executed, or the number of the error. -/
def executableAt (d : Disk) (cwd : Location) (path : Path) : Except Nat Bytes :=
  match d.lookup cwd path with
  | .error e => .error (Action.errorNumber e)
  | .ok (_, .file content mode) =>
    if mode.canExecute then .ok content else .error Errno.accessDenied
  | .ok _ => .error Errno.accessDenied

/-- The program that a file makes run when it is called with its path, or the number of the
error. -/
def startFrom (d : Disk) (cwd : Location) :
    Nat → Bytes → Path → Text → List Text → Except Nat Start
  | depth, content, path, called, args =>
    match nameOfImage? content with
    | some program => .ok ⟨program, called, args⟩
    | none =>
      match interpreter? content with
      | none => .error Errno.execFormat
      | some (interpreter, arg) =>
        match executableAt d cwd interpreter, depth with
        | .error e, _ => .error e
        | .ok _, 0 => .error Errno.tooManyLinks
        | .ok content, depth + 1 =>
          startFrom d cwd depth content interpreter (ofBytes interpreter)
            (arg.toList ++ ofBytes path :: args)

/-- The program that the file at a path makes run, or the number of the error. -/
def startAt (d : Disk) (cwd : Location) (path : Path) (called : Text) (args : List Text) :
    Except Nat Start :=
  match executableAt d cwd path with
  | .error e => .error e
  | .ok content => startFrom d cwd interpreterMax content path called args

/-- The directories that are searched for programs. -/
def searchPath : List Path :=
  ["/usr/local/sbin", "/usr/local/bin", "/usr/sbin", "/usr/bin", "/sbin", "/bin"].map fun d =>
    Utf8.encode d.toList

/-- The path of the program of a name: the name itself if it has a slash, else the
first file of that name in the directories that can be executed. -/
def findProgram (d : Disk) (cwd : Location) (dirs : List Path) (name : Path) : Except Nat Path :=
  if name.contains Path.slash then .ok name
  else if name.isEmpty then .error Errno.noEntry
  else
    let found := dirs.filterMap fun dir =>
      match d.lookup cwd (Path.join dir name) with
      | .ok (_, .file _ mode) => some (Path.join dir name, mode.canExecute)
      | _ => none
    match found.find? Prod.snd, found with
    | some (path, _), _ => .ok path
    | none, _ :: _ => .error Errno.accessDenied
    | none, [] => .error Errno.noEntry

/-- The program that a name makes run. -/
def startNamed (d : Disk) (cwd : Location) (dirs : List Path) (name : Text) (args : List Text) :
    Except Nat Start :=
  match findProgram d cwd dirs (toBytes name) with
  | .error e => .error e
  | .ok path => startAt d cwd path name args

end Shell
end StressBench
