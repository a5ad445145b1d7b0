/-
# Tools on paths

The parts of a path, the path that a link has or that a path leads to, and the current
directory.

Key definitions: `Tool.basename`, `Tool.dirname`, `Tool.realPath`, `Tool.readlink`,
`Tool.realpath`, `Tool.pwd`, `Tool.which`.
-/
import StressBench.Shell.Builtin.Meaning
import StressBench.Shell.Tool.Entries

namespace StressBench
namespace Shell
namespace Tool

/-- The path without the slashes at its end. -/
def withoutSlashes (s : Text) : Text :=
  (s.reverse.dropWhile (· == '/')).reverse

/-- The last name of a path without an ending. -/
def baseOf (path ending : Text) : Text :=
  let base := lastName path
  if ending.isSuffixOf base && ending != base then base.take (base.length - ending.length) else base

/-- Prints the last names of paths, without an ending. -/
def basename : Tool := withLeadingOptions "a/multiple s/suffix= z/zero" 1 fun name o => do
  let line (s : Text) := Action.print (s ++ if o.has "z" then [Char.ofNat 0] else ['\n'])
  match o.operands with
  | [] => missingOperand name "operand"
  | path :: rest =>
    if o.has "a" || o.has "s" then
      for p in path :: rest do
        line (baseOf p ((o.last? "s").getD []))
      return 0
    else
      match rest with
      | _ :: extra :: _ => extraOperand name extra
      | rest =>
        line (baseOf path (rest.headD []))
        return 0

/-- The path without its last name. -/
def directoryPart (path : Text) : Text :=
  let above := ((withoutSlashes path).reverse.dropWhile (· != '/')).reverse
  let dir := withoutSlashes above
  if !dir.isEmpty then dir else if path.head? == some '/' then ['/'] else ['.']

/-- Prints paths without their last names. -/
def dirname : Tool := withLeadingOptions "z/zero" 1 fun name o => do
  if o.operands.isEmpty then missingOperand name "operand"
  else
    for path in o.operands do
      Action.print (directoryPart path ++ if o.has "z" then [Char.ofNat 0] else ['\n'])
    return 0

/-- How much of a path must be there when links are followed: all, all but the last name, or
nothing. -/
inductive Existing
  | all
  | allButLast
  | nothing
  deriving DecidableEq, Repr

/-- The path without links and dots that a path leads to. -/
def realPath (needed : Existing) (path : Text) : Action (Except Nat Text) := do
  let d ← Action.disk
  let cwd := (← Action.own).cwd
  let shownLocation (loc : Location) := ofBytes (Location.path loc)
  match d.resolve .always cwd (toBytes path) with
  | .ok (.directory loc) => return .ok (shownLocation loc)
  | .ok (.name parent n _) =>
    match d.get (n :: parent), needed with
    | none, .all => return .error Errno.noEntry
    | _, _ => return .ok (shownLocation (n :: parent))
  | .error e =>
    if needed == .nothing then
      let start := if path.head? == some '/' then [] else cwd
      let names := (path.splitOnP (· == '/')).filter (!·.isEmpty)
      return .ok (shownLocation (names.foldl (fun loc n =>
        if n == ['.'] then loc else if n == ['.', '.'] then loc.tail else toBytes n :: loc) start))
    else return .error (Action.errorNumber e)

/-- Prints the targets of links, or the paths that paths lead to. -/
def readlink : Tool := withOptions
    ("f/canonicalize e/canonicalize-existing m/canonicalize-missing " ++
    "n/no-newline q/quiet s/silent v/verbose z/zero") 1 fun name o => do
  if o.operands.isEmpty then missingOperand name "operand"
  else
    let ended := if o.has "n" && o.operands.length == 1 then [] else ['\n']
    eachArgument o.operands fun path => do
      match o.lastOf? ["f", "e", "m"] with
      | none =>
        match ← entryAt? path with
        | some (_, .link target) =>
          Action.print (ofBytes target ++ ended)
          return true
        | some _ =>
          if o.has "v" then plainComplaint name path Errno.invalidArgument
          return false
        | none =>
          if o.has "v" then plainComplaint name path Errno.noEntry
          return false
      | some key =>
        let needed : Existing :=
          if key == "e" then .all else if key == "f" then .allButLast else .nothing
        match ← realPath needed path with
        | .ok s =>
          Action.print (s ++ ended)
          return true
        | .error e =>
          if o.has "v" then plainComplaint name path e
          return false

/-- A path as it is seen from a directory, both without links. -/
def relativePath (dir path : Text) : Text :=
  let names (s : Text) := (s.splitOnP (· == '/')).filter (!·.isEmpty)
  let (a, b) := (names dir, names path)
  let common := ((a.zip b).takeWhile fun (x, y) => x == y).length
  let up := List.replicate (a.length - common) ['.', '.']
  let result := up ++ b.drop common
  if result.isEmpty then ['.'] else ['/'].intercalate result

/-- Prints the paths that paths lead to. -/
def realpath : Tool := withOptions ("e/canonicalize-existing m/canonicalize-missing L/logical " ++
    "P/physical q/quiet s/strip s/no-symlinks z/zero /relative-to= " ++
    "/relative-base=") 1 fun name o => do
  if o.operands.isEmpty then missingOperand name "operand"
  else
    let needed : Existing :=
      if o.has "e" then .all else if o.has "m" || o.has "s" then .nothing else .allButLast
    let base ← match o.last? "relative-to" with
      | some dir => do pure (← realPath needed dir).toOption
      | none => pure none
    eachArgument o.operands fun path => do
      match ← realPath needed path with
      | .ok s =>
        Action.printLine (match base with | some dir => relativePath dir s | none => s)
        return true
      | .error e =>
        unless o.has "q" do plainComplaint name path e
        return false

/-- Prints the current directory. -/
def pwd : Tool := withOptions "L/logical P/physical" 1 fun _ o => do
  let p ← Action.own
  let physical := ofBytes (Location.path p.cwd)
  let given := valueOf p "PWD"
  let leads := match (← Action.disk).directoryAt p.cwd (toBytes given) with
    | .ok loc => loc == p.cwd
    | .error _ => false
  Action.printLine
    (if o.lastOf? ["L", "P"] == some "L" && given.head? == some '/' && leads then given
      else physical)
  return 0

/-- Prints the paths of programs. -/
def which : Tool := withLeadingOptions "a s" 2 fun _ o => do
  let p ← Action.own
  let d ← Action.disk
  eachArgument o.operands fun name => do
    let isProgram (path : Path) : Bool :=
      match d.lookup p.cwd path with
      | .ok (_, .file _ mode) => mode.canExecute
      | _ => false
    let candidates :=
      if name.contains '/' then [toBytes name]
      else (Builtin.directories p).map fun dir => Path.join dir (toBytes name)
    let found := candidates.filter isProgram
    for path in (if o.has "a" then found else found.take 1) do
      unless o.has "s" do Action.printLine (ofBytes path)
    return !found.isEmpty

end Tool
end Shell
end StressBench
