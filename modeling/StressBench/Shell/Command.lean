/-
# Commands of the shell

A compiler may be a script, and this is what a script is made of. A word is a
list of parts: literal text, and expansions, which are replaced when the command
is run. Text in quotes is neither split into fields nor matched against names.

The shell works on bytes; each is written as the character of its number.

Key definitions: `Shell.ofBytes`, `Shell.toBytes`, `Parameter`, `Use`, `Part`, `Redirect`,
  `Command`.
-/
import StressBench.Text.Basic

namespace StressBench
namespace Shell

/-- The characters that stand for bytes. -/
def ofBytes (bs : Bytes) : Text :=
  bs.map fun b => Char.ofNat b.toNat

/-- The bytes that characters stand for. -/
def toBytes (s : Text) : Bytes :=
  s.map fun c => UInt8.ofNat c.toNat

/-- What an expansion names. -/
inductive Parameter
  | variable (name : Text)
  /-- An argument by its position; the name of the script is at 0. -/
  | argument (position : Nat)
  /-- All arguments in one field. -/
  | joined
  /-- All arguments, each in a field of its own. -/
  | separate
  | count
  | status
  | processId
  /-- The last process that was put in the background. -/
  | lastJob
  /-- The letters of the options that are set. -/
  | options
  deriving DecidableEq, Repr

/-- What an expansion makes of its parameter. A condition on a parameter asks whether
it is set, or, if `filled`, whether it is set and has characters. -/
inductive Use
  | value
  /-- The number of characters. -/
  | size
  /-- The value, or the word if the condition fails. -/
  | fallback (filled : Bool)
  /-- As `fallback`, and the word becomes the value of the variable. -/
  | initial (filled : Bool)
  /-- The value, or an end with the word as a complaint. -/
  | demand (filled : Bool)
  /-- The word if the condition holds, else nothing. -/
  | instead (filled : Bool)
  /-- The value without what the pattern matches at its beginning. -/
  | withoutFront (longest : Bool)
  /-- The value without what the pattern matches at its end. -/
  | withoutBack (longest : Bool)
  /-- No expansion at all, which shows when it is to be replaced. -/
  | unknown
  deriving DecidableEq, Repr

/-- What a redirection does with its target. -/
inductive OpenMode
  | read
  /-- The file is emptied, unless the shell has been told to keep files. -/
  | write
  /-- The file is emptied. -/
  | overwrite
  | append
  | readWrite
  /-- No file is opened: the target is itself what is read. -/
  | document
  /-- The target is the number of a stream. -/
  | duplicate
  deriving DecidableEq, Repr

/-- A redirection of a numbered stream to a file or to another stream. -/
structure Redirect (ω : Type) where
  stream : Nat
  mode : OpenMode
  target : ω

mutual

/-- A part of a word. -/
inductive Part
  | text (text : Text) (quoted : Bool)
  | parameter (parameter : Parameter) (use : Use) (word : List Part) (quoted : Bool)
  /-- What a command prints. -/
  | output (command : Command) (quoted : Bool)
  /-- The value of an expression over whole numbers. -/
  | arithmetic (expression : List Part) (quoted : Bool)

/-- A command. -/
inductive Command
  | simple (line : Nat) (assignments : List (Text × List Part)) (words : List (List Part))
      (redirects : List (Redirect (List Part)))
  | pipeline (stages : List Command)
  | negation (command : Command)
  /-- The second command runs if the first has done well. -/
  | both (first second : Command)
  /-- The second command runs if the first has failed. -/
  | either (first second : Command)
  | sequence (commands : List Command)
  | background (command : Command)
  | branch (test yes no : Command)
  /-- Turns as long as the test has the outcome. -/
  | loop (outcome : Bool) (test body : Command)
  /-- A turn for each field of the words. -/
  | each (line : Nat) (name : Text) (words : List (List Part)) (body : Command)
  /-- The first arm that has a pattern for the subject. -/
  | choice (line : Nat) (subject : List Part) (arms : List (List (List Part) × Command))
  | subshell (body : Command)
  /-- Gives a command a name. -/
  | definition (line : Nat) (name : Text) (body : Command)
  | redirected (line : Nat) (command : Command) (redirects : List (Redirect (List Part)))

end

/-- A word: a list of parts. -/
abbrev Word := List Part

/-- The command that does nothing. -/
def Command.nothing : Command := .sequence []

end Shell
end StressBench
