/-
# Tools

A tool is a program that the shell can start or that it carries out itself. It is
given the name it was called by and its arguments, and gives its exit status. Some
tools start programs in turn.

Key definitions: `Shell.Tool`, `Shell.Runner`, `Tool.fault`, `Tool.refuse`, `Tool.withInput`,
`Tool.foldLines`.
-/
import StressBench.Shell.Variable

namespace StressBench
namespace Shell

/-- A tool: from its name and its arguments to what it does. -/
abbrev Tool := Text → List Text → Action Nat

/-- The ways in which a tool can run a program with its name and its arguments. Each gives
the number of the error if the program could not be started. -/
structure Runner where
  /-- Puts the program in the place of the tool and gives its status. -/
  replace : Text → List Text → Action (Except Nat Nat)
  /-- Runs the program in a process of its own and gives how it ended. -/
  start : Text → List Text → Action (Except Nat Ending)
  /-- Starts the program in a process of its own and gives its number. -/
  launch : Text → List Text → Action (Except Nat Nat)

namespace Tool

/-! ### Complaints -/

/-- The text in quotes. -/
def inQuotes (s : Text) : String :=
  "'" ++ shown s ++ "'"

/-- Complains in the name of a tool. -/
def fault (tool : Text) (message : String) : Action Unit :=
  Action.write 2 (tool ++ [':', ' '] ++ Action.encoded message ++ ['\n'])

/-- Complains and gives a status. -/
def refuse (tool : Text) (message : String) (status : Nat) : Action Nat := do
  fault tool message
  return status

/-- Where more is said about a tool. -/
def moreAbout (tool : Text) : String :=
  "Try '" ++ shown tool ++ " --help' for more information."

/-- Complains of the arguments and gives a status. -/
def misuse (tool : Text) (message : String) (status : Nat) : Action Nat :=
  refuse tool (message ++ "\n" ++ moreAbout tool) status

/-- Complains that there are no arguments. -/
def missingOperand (tool : Text) (what : String) : Action Nat :=
  misuse tool ("missing " ++ what) 1

/-- Complains of an argument that is one too many. -/
def extraOperand (tool arg : Text) : Action Nat :=
  misuse tool ("extra operand " ++ inQuotes arg) 1

/-- Complains of a path in the words of the system. -/
def plainComplaint (name path : Text) (error : Nat) : Action Unit :=
  fault name (shown path ++ ": " ++ Errno.text error)

/-- Complains of a file that cannot be opened for reading, or of a directory, which
can be opened but not read. -/
def readingComplaint (name path : Text) (error : Nat) : Action Unit :=
  fault name
    (if error == Errno.isDirectory then
      "error reading " ++ inQuotes path ++ ": " ++ Errno.text error
    else "cannot open " ++ inQuotes path ++ " for reading: " ++ Errno.text error)

/-- Complains of an argument with a few words in front of it. -/
def withWords (name : Text) (words : String) (path : Text) (error : Nat) : Action Unit :=
  fault name (words ++ " " ++ inQuotes path ++ ": " ++ Errno.text error)

/-! ### Texts -/

/-- The text at the right of a field of some width. -/
def padLeft (width : Nat) (s : Text) : Text :=
  List.replicate (width - s.length) ' ' ++ s

/-- The text at the left of a field of some width. -/
def padRight (width : Nat) (s : Text) : Text :=
  s ++ List.replicate (width - s.length) ' '

/-- Digits in a base, with something in front up to a width. -/
def digitsIn (base width : Nat) (filler : Char) (n : Nat) : Text :=
  let digits := Nat.toDigits base n
  List.replicate (width - digits.length) filler ++ digits

/-- The lines of a text that ends in a line end or in none, without their line ends. -/
def linesOf (s : Text) : List Text :=
  if s.isEmpty then []
  else
    let pieces := s.splitOnP (· == '\n')
    if s.getLast? == some '\n' then pieces.dropLast else pieces

/-- The pieces of a list, so many elements long, the last perhaps shorter. -/
def piecesOf {α : Type} (size : Nat) (s : List α) : List (List α) :=
  go s.length s []
where
  /-- The pieces of the rest, those before it latest first. -/
  go : Nat → List α → List (List α) → List (List α)
    | 0, _, done => done.reverse
    | n + 1, s, done =>
      if s.isEmpty then done.reverse else go n (s.drop size) (s.take size :: done)

/-- Whether a character is a blank between words. -/
def isSpace (c : Char) : Bool :=
  c == ' ' || (9 ≤ c.toNat && c.toNat ≤ 13)

/-! ### Input -/

/-- Runs an action with a file as its standard input; a dash stands for the
standard input itself. Gives the error of a file that cannot be opened. -/
def withInput {α : Type} (path : Text) (act : Action α) : Action (Except Nat α) := do
  if path == ['-'] then return .ok (← act)
  else
    match ← Action.openForReading path with
    | .error e => return .error e
    | .ok channel => return .ok (← Action.withStreams (Action.led 0 channel) act)

/-- All text of the files in turn, or of the standard input if there are none, and 1
if one of them could not be opened. -/
def readInputs (paths : List Text) (complaint : Text → Nat → Action Unit) :
    Action (Text × Nat) := do
  let mut texts : List Text := []
  let mut status := 0
  for path in (if paths.isEmpty then [['-']] else paths) do
    match ← withInput path Action.readAll with
    | .ok text => texts := text :: texts
    | .error e =>
      complaint path e
      status := 1
  return (texts.reverse.flatten, status)

/-- The lines that end in a text, and what comes after the last of them. -/
def splitLines (mark : Char) (s : Text) : List Text × Text :=
  let pieces := s.splitOnP (· == mark)
  (pieces.dropLast, pieces.getLast?.getD [])

/-- Takes lines from the standard input as they come, each without its end and with whether it
had one. An action changes a state by them and says whether it wants more. -/
def foldLines {σ : Type} (mark : Char) (start : σ)
    (act : σ → List (Text × Bool) → Action (σ × Bool)) : Action σ :=
  Action.loop Action.turnMax (start, ([] : Text)) fun (state, held) => do
    let chunk ← Action.readChunk
    if chunk.isEmpty then
      if held.isEmpty then return .inr state
      else return .inr (← act state [(held, false)]).1
    else
      let (lines, held) := splitLines mark (held ++ chunk)
      let (state, more) ← act state (lines.map fun l => (l, true))
      return if more then .inl (state, held) else .inr state

end Tool
end Shell
end StressBench
