/-
# The current directory of the shell

The shell remembers the path by which it came to its directory: two dots in a path
take the last name of it away, whether or not that was a link.

Key definitions: `Builtin.logicalPath`, `Builtin.cd`, `Builtin.pwd`.
-/
import StressBench.Shell.Builtin.Basic

namespace StressBench
namespace Shell
namespace Builtin

/-- The path that names lead to from a path, without dots. -/
def logicalPath (base target : Text) : Text :=
  let start := if target.head? == some '/' then [] else pieces base
  let names := (pieces target).foldl (fun names n =>
    if n == ['.'] then names else if n == ['.', '.'] then names.dropLast else names ++ [n]) start
  if names.isEmpty then ['/'] else names.flatMap ('/' :: ·)
where
  /-- The names of a path. -/
  pieces (s : Text) : List Text :=
    (s.splitOnP (· == '/')).filter (!·.isEmpty)

/-- Goes to a directory, by its path as it is written or by the path without links. -/
def enter (physical : Bool) (target : Text) : Action Bool := do
  let p ← Action.own
  let path := if physical then target else logicalPath p.directory target
  match (← Action.disk).directoryAt p.cwd (toBytes path) with
  | .error _ => return false
  | .ok loc =>
    let directory := if physical then ofBytes (Location.path loc) else path
    Action.change fun p =>
      { p with cwd := loc, directory, known := p.known.map fun k => (k.1, true) }
    let handedOn (name : String) (value : Text) : Action Unit :=
      setVariable name.toList { value := some value, exported := true }
    handedOn "OLDPWD" p.directory
    handedOn "PWD" directory
    return true

/-- Whether a path begins with a slash, or with dots that stand for a directory. -/
def isAnchored : Text → Bool
  | '/' :: _ | ['.'] | '.' :: '/' :: _ | ['.', '.'] | '.' :: '.' :: '/' :: _ => true
  | _ => false

/-- The directories in which other directories are looked for. -/
def directoryBases (p : Process) : List Text :=
  match valueOf? p "CDPATH".toList with
  | some s => if s.isEmpty then [] else s.splitOnP (· == ':')
  | none => []

/-- Goes to another directory. -/
def cd (args : List Text) : Action Nat := do
  let (given, args) ← options "LP" "" args
  let physical := given.getLast?.map Prod.fst == some 'P'
  let p ← Action.own
  let back := args.head? == some ['-']
  let target :=
    match args with
    | [] => valueOf p "HOME"
    | a :: _ => if back then valueOf p "OLDPWD" else a
  let bases := if isAnchored target || target.isEmpty then [] else directoryBases p
  for base in bases do
    let candidate := if base.isEmpty then target else base ++ '/' :: target
    if ((← Action.disk).directoryAt p.cwd (toBytes candidate)).toBool then
      if ← enter physical candidate then
        if back || !base.isEmpty then Action.printLine (← Action.own).directory
        return 0
  if ← enter physical (if target.isEmpty then ['.'] else target) then
    if back then Action.printLine (← Action.own).directory
    return 0
  else giveUpWith ("can't cd to ".toList ++ target)

/-- Prints the current directory. -/
def pwd (args : List Text) : Action Nat := do
  let (given, _) ← options "LP" "" args
  let p ← Action.own
  Action.printLine
    (if given.getLast?.map Prod.fst == some 'P' then ofBytes (Location.path p.cwd) else p.directory)
  return 0

end Builtin
end Shell
end StressBench
