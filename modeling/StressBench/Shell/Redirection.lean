/-
# Redirections

A stream is led to a file, to another stream or to a text. All targets of a command are
replaced first; then one after the other is opened, and the first that cannot be
opened keeps the command from being run.

Key definitions: `Redirection.Target`, `Redirection.targets`, `Redirection.open?`,
`Redirection.lead`.
-/
import StressBench.Shell.Expansion

namespace StressBench
namespace Shell
namespace Redirection

/-- What a stream is led to. -/
inductive Target
  | file (mode : OpenMode) (path : Text)
  | stream (number : Nat)
  | nothing
  | document (text : Text)

/-- What is said of a file that cannot be opened or run. A name that is not there has words
of its own. -/
def reasonFor (missing : String) (error : Nat) : Text :=
  if error == Errno.noEntry || error == Errno.notDirectory then missing.toList
  else (Errno.text error).toList

/-- The target of a redirection. -/
def targetOf (take : Taker) (r : Redirect Word) : Action Target := do
  match r.mode with
  | .document =>
    return .document (textOfGlyphs (← Expansion.glyphs take false Expansion.depthMax r.target))
  | .duplicate => do
    match ← Expansion.text take false r.target with
    | ['-'] => return .nothing
    | [c] => if c.isDigit then return .stream (c.toNat - 48) else badNumber
    | _ => badNumber
  | mode => return .file mode (← Expansion.text take false r.target)
where
  /-- Refuses what is no number of a stream. -/
  badNumber : Action Target := do
    Action.change fun p => { p with line := p.readLine }
    giveUp "Syntax error: Bad fd number"

/-- The streams and targets of redirections. -/
def targets (take : Taker) (rs : List (Redirect Word)) : Action (List (Nat × Target)) :=
  rs.mapM fun r => do return (r.stream, ← targetOf take r)

/-- Whether a path leads to a file. -/
def isFile (path : Text) : Action Bool := do
  match (← Action.disk).lookup (← Action.own).cwd (toBytes path) with
  | .ok (_, .file ..) => return true
  | _ => return false

/-- Opens a target; none if it is to be closed, or the complaint. -/
def open? (stream : Nat) (target : Target) : Action (Except Text (Option Channel)) := do
  let creating (path : Text) (r : Except Nat Channel) : Except Text (Option Channel) :=
    match r with
    | .ok channel => .ok (some channel)
    | .error e =>
      .error ("cannot create ".toList ++ path ++ ':' :: ' ' :: reasonFor "Directory nonexistent" e)
  let reading (path : Text) (r : Except Nat Channel) : Except Text (Option Channel) :=
    match r with
    | .ok channel => .ok (some channel)
    | .error e => .error ("cannot open ".toList ++ path ++ ':' :: ' ' :: reasonFor "No such file" e)
  match target with
  | .nothing => return .ok none
  | .stream n =>
    match ← Action.channel n with
    | some channel => return .ok (some channel)
    | none => return .error (numeral n ++ ": ".toList ++ (Errno.text Errno.badDescriptor).toList)
  | .document text =>
    let pipe ← Action.newPipe ({} : Pipe)
    Action.changePipe pipe fun p => p.put text
    return .ok (some (.feed pipe))
  | .file .read path => return reading path (← Action.openForReading path)
  | .file .append path => return creating path (← Action.openForWriting true path)
  | .file .readWrite path =>
    let opened ← Action.openForWriting true path
    match stream, opened with
    | 0, .ok _ => return reading path (← Action.openForReading path)
    | _, opened => return creating path opened
  | .file .write path =>
    if (← Action.own).options.contains 'C' && (← isFile path) then
      return creating path (.error Errno.fileExists)
    else return creating path (← Action.openForWriting false path)
  | .file _ path => return creating path (← Action.openForWriting false path)

/-- Leads streams elsewhere for good. Says whether that could be done. -/
def lead (ts : List (Nat × Target)) : Action Bool := do
  for (stream, target) in ts do
    match ← open? stream target with
    | .ok (some channel) =>
      Action.change fun p => { p with streams := Action.led stream channel p.streams }
    | .ok none =>
      Action.change fun p => { p with streams := p.streams.filter fun s => s.1 != stream }
    | .error complaint =>
      complainWith complaint
      return false
  return true

end Redirection
end Shell
end StressBench
