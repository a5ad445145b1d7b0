/-
# A tool that edits lines

`sed` runs a script on the lines of files and prints what becomes of them, or changes the
files.

Key definitions: `ScriptPiece`, `Tool.scriptPieces`, `Tool.sed`.
-/
import StressBench.Shell.Edit.Run
import StressBench.Shell.Tool.Options

namespace StressBench
namespace Shell
namespace Tool

/-- A piece of a script: a text that is given as an argument, or the content of a file. -/
structure ScriptPiece where
  file : Option Text := none
  text : Text

/-- The pieces of the script that options give; the status if a file cannot be read. -/
def scriptPieces (name : Text) (o : Options) : Action (Except Nat (List ScriptPiece)) := do
  let mut pieces : List ScriptPiece := []
  for (key, value) in o.given do
    if key == "e" then pieces := pieces ++ [{ text := value }]
    else if key == "f" then
      match ← withInput value Action.readAll with
      | .ok text =>
        let text := if text.getLast? == some '\n' then text.dropLast else text
        pieces := pieces ++ [{ file := some value, text }]
      | .error e =>
        fault name ("couldn't open file " ++ shown value ++ ": " ++ Errno.text e)
        return .error 4
  return .ok pieces

/-- What is said of a fault in a script: the piece, by its number or as a file with a line, the
place, and what is wrong there. A fault without a place is told as it is. -/
def faultText (pieces : List ScriptPiece) (f : Edit.Fault) : String :=
  match f.place with
  | none => f.message
  | some (n, place) =>
    match pieces[n]?.bind fun p => p.file.map fun path => (path, p.text) with
    | some (path, text) =>
      let line := ((text.take (place - 1)).filter (· == '\n')).length + 1
      "file " ++ shown path ++ " line " ++ toString line ++ ": " ++ f.message
    | none =>
      let number := ((pieces.take n).filter fun p => p.file.isNone).length + 1
      "-e expression #" ++ toString number ++ ", char " ++ toString place ++ ": " ++ f.message

/-- The files that a script writes to. -/
def writtenFiles (s : Edit.Script) : List Text :=
  (s.steps.toList.filterMap fun c => match c.deed with
    | .write path | .writeFirst path => some path
    | .substitute s => s.file
    | _ => none).eraseDups

/-- Opens the files that a script writes to; the first that cannot be opened. -/
def openOutputs : Nat → List Text → Action (Except (Text × Nat) (List (Text × Nat)))
  | _, [] => return .ok []
  | stream, path :: rest => do
    let standard (n : Nat) : Action (Except Nat Channel) := do
      match ← Action.channel n with
      | some channel => return .ok channel
      | none => return .error Errno.badDescriptor
    let channel ←
      if path == "/dev/stdout".toList then standard 1
      else if path == "/dev/stderr".toList then standard 2
      else Action.openForWriting false path
    match channel with
    | .error e => return .error (path, e)
    | .ok channel =>
      Action.change fun p => { p with streams := Action.led stream channel p.streams }
      return (← openOutputs (stream + 1) rest).map fun others => (path, stream) :: others

/-- Edits the lines of files by a script. -/
def sed : Tool := fun name args => do
  let forms := OptionForm.listOfText ("n/quiet n/silent e/expression= f/file= E/regexp-extended " ++
    "r/ i/in-place? l/line-length= s/separate u/unbuffered z/null-data /posix /debug " ++
    "/follow-symlinks /sandbox b/binary")
  let usage (head : String) : Action Nat := do
    Action.write 2 (Action.encoded (head ++
      "Usage: sed [OPTION]... \x7bscript-only-if-no-other-script\x7d [input-file]...\n\n"))
    return 1
  match Options.read forms true args with
  | .error message => usage (shown name ++ ": " ++ message ++ "\n")
  | .ok o =>
    match ← scriptPieces name o, o.operands with
    | .error status, _ => return status
    | .ok [], [] => usage ""
    | .ok pieces, operands =>
      let (pieces, files) : List ScriptPiece × List Text :=
        match pieces, operands with
        | [], script :: files => ([{ text := script }], files)
        | pieces, files => (pieces, files)
      let marked := ((pieces.head?.map fun p => p.text.takeWhile (· != '\n')).getD []) == ['#', 'n']
      match Edit.Script.read (o.has "E" || o.has "r") (pieces.map ScriptPiece.text) with
      | .error f => refuse name (faultText pieces f) (if f.place.isNone then 4 else 1)
      | .ok script =>
        match ← openOutputs Edit.firstOutput (writtenFiles script) with
        | .error (path, e) =>
          refuse name ("couldn't open file " ++ shown path ++ ": " ++ Errno.text e) 4
        | .ok outputs =>
          let style : Edit.Style :=
            { script, quiet := o.has "n" || marked, separate := o.has "s" || o.has "i"
              inPlace := o.last? "i", outputs
              width := ((o.last? "l").bind natural?).getD 70
              mark := if o.has "z" then Char.ofNat 0 else '\n' }
          Edit.run style (if files.isEmpty then [['-']] else files)

end Tool
end Shell
end StressBench
