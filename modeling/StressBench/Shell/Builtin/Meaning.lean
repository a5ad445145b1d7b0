/-
# What a name stands for

A name in front of a command may be a word of the language, a word for other text, a
command of the shell, a command that the script has given the name, or a program in
the search path. The shell can tell which.

Key definitions: `Builtin.regularNames`, `Builtin.directories`, `Builtin.meaningOf`,
`Builtin.describe`, `Builtin.tellNames`, `Builtin.hash`.
-/
import StressBench.Shell.Builtin.Basic
import StressBench.Shell.Program
import StressBench.Shell.Reader

namespace StressBench
namespace Shell
namespace Builtin

/-- The names of the commands of the shell that are not special. -/
def regularNames : List String :=
  ["[", "alias", "bg", "cd", "chdir", "command", "echo", "false", "fg", "getopts", "hash", "jobs",
    "kill", "printf", "pwd", "read", "test", "true", "type", "ulimit", "umask", "unalias", "wait"]

/-- Whether a name is that of a command of the shell. -/
def isBuiltin (name : String) : Bool :=
  specialBuiltins.contains name || regularNames.contains name

/-- The directories that programs are looked for in. -/
def directories (p : Process) : List Path :=
  match valueOf? p "PATH".toList with
  | some s => (s.splitOnP (· == ':')).map toBytes
  | none => searchPath

/-- What a name stands for. -/
inductive Meaning
  | keyword
  | replaced (text : Text)
  | special
  | defined
  | builtin
  | program (path : Text)
  | unknown
  deriving DecidableEq, Repr

/-- What a name stands for. -/
def meaningOf (name : Text) : Action Meaning := do
  let p ← Action.own
  let d ← Action.disk
  let word := String.ofList name
  if keywords.contains word then return .keyword
  match p.aliases.lookup name with
  | some text => return .replaced text
  | none =>
    if specialBuiltins.contains word then return .special
    else if (p.definitions.lookup name).isSome then return .defined
    else if regularNames.contains word then return .builtin
    else if name.contains '/' then
      match d.lookup p.cwd (toBytes name) with
      | .ok _ => return .program name
      | .error _ => return .unknown
    else
      match findProgram d p.cwd (directories p) (toBytes name) with
      | .ok path => return .program (ofBytes path)
      | .error e => return if e == Errno.accessDenied then .program (fallback d p name)
          else .unknown
where
  /-- The first file of a name in the search path. -/
  fallback (d : Disk) (p : Process) (name : Text) : Text :=
    (((directories p).find? fun dir =>
      (d.lookup p.cwd (Path.join dir (toBytes name))).toBool).map fun dir =>
        ofBytes (Path.join dir (toBytes name))).getD name

/-- What is told of a meaning; none for a name that stands for nothing. -/
def describe (known : Bool) : Meaning → Option Text
  | .keyword => some "is a shell keyword".toList
  | .replaced text => some ("is an alias for ".toList ++ text)
  | .special => some "is a special shell builtin".toList
  | .defined => some "is a shell function".toList
  | .builtin => some "is a shell builtin".toList
  | .program path => some ((if known then "is a tracked alias for " else "is ").toList ++ path)
  | .unknown => none

/-- Remembers that a program was found in the search path. -/
def note (name : Text) : Action Unit := do
  unless name.contains '/' do
    Action.change fun p =>
      { p with
        known :=
          if (p.known.lookup name).isSome then
            p.known.map fun k => if k.1 == name then (name, false) else k
          else p.known ++ [(name, false)] }

/-- Tells what names stand for. -/
def tellNames (names : List Text) : Action Nat := do
  let mut status := 0
  for name in names do
    let meaning ← meaningOf name
    let known := ((← Action.own).known.lookup name).isSome
    match describe known meaning with
    | some text =>
      Action.printLine (name ++ ' ' :: text)
      if meaning matches .program _ then note name
    | none =>
      Action.printLine (name ++ ": not found".toList)
      status := 127
  return status

/-- Writes a name as it is run: a program by its path. -/
def writeNames (names : List Text) : Action Nat := do
  let mut status := 0
  for name in names do
    match ← meaningOf name with
    | .replaced text =>
      Action.printLine ("alias ".toList ++ name ++ '=' :: quotedText text)
    | .program path =>
      Action.printLine path
      note name
    | .unknown => status := 127
    | _ => Action.printLine name
  return status

/-- How many chains the table of found programs has. -/
def programChains : Nat := 31

/-- Shows or forgets the programs that have been found, or looks for some. -/
def hash (args : List Text) : Action Nat := do
  let (given, names) ← options "r" "" args
  if !given.isEmpty then
    Action.change fun p => { p with known := [] }
    return 0
  let mut status := 0
  if names.isEmpty then
    let known := (← Action.own).known.mergeSort fun a b =>
      chainOf programChains a.1 ≤ chainOf programChains b.1
    for (name, stale) in known do
      match ← meaningOf name with
      | .program path => Action.printLine (path ++ if stale then ['*'] else [])
      | _ => pure ()
  for name in names do
    match ← meaningOf name with
    | .program _ =>
      Action.change fun p => { p with known := p.known.filter fun k => k.1 != name }
      note name
    | .unknown =>
      complainWith (name ++ ": not found".toList)
      status := 1
    | _ => pure ()
  return status

end Builtin
end Shell
end StressBench
