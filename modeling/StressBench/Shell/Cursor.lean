/-
# The place in a script

A script is read from the front. What has been read last may be put back, and the
lines of a document that stands below a command are taken out of the text when
the command names it, so they are counted at the end of the line.

Key definitions: `Shell.Cursor`, `Shell.Fault`, `Shell.Token`, `Shell.Reader`, `Reader.fail`,
`Reader.take`, `Parameter.at?`.
-/
import StressBench.Shell.Command

namespace StressBench
namespace Shell

/-! ### Tokens -/

/-- What a command is made of. -/
inductive Token
  | endOfText
  | newline
  /-- A mark of one or two characters. -/
  | mark (text : String)
  /-- The number of the stream, what is done, and how many characters say so. -/
  | redirect (stream : Nat) (mode : OpenMode)
  | keyword (word : String)
  /-- A word; `plain` is its text if nothing in it is quoted or replaced. -/
  | word (parts : Word) (plain : Option Text)

/-- The token as a complaint names it. -/
def Token.describe : Token → String
  | .endOfText => "end of file"
  | .newline => "newline"
  | .mark s => "\"" ++ s ++ "\""
  | .redirect .. => "redirection"
  | .keyword w => "\"" ++ w ++ "\""
  | .word .. => "word"

/-- Whether the token is a mark. -/
def Token.isMark (s : String) : Token → Bool
  | .mark t => s == t
  | _ => false

/-- Whether the token is a word of the language. -/
def Token.isKeyword (s : String) : Token → Bool
  | .keyword t => s == t
  | _ => false

/-- The words of the language. -/
def keywords : List String :=
  ["!", "case", "do", "done", "elif", "else", "esac", "fi", "for", "if", "in", "then", "until",
    "while", "\x7b", "\x7d"]

/-- The tokens at which a list of commands ends. -/
def Token.endsList : Token → Bool
  | .endOfText => true
  | .mark s => s == ")" || s == ";;"
  | .keyword w => ["then", "else", "elif", "fi", "do", "done", "esac", "\x7d"].contains w
  | _ => false

/-! ### Places -/

/-- The text that is still to be read, and the number of its first line. -/
structure Cursor where
  rest : Text
  line : Nat := 1
  /-- The lines that have been taken out below this one. -/
  skipped : Nat := 0
  /-- A token that has been put back. -/
  held : Option Token := none
  /-- Words that stand for other text. -/
  aliases : List (Text × Text) := []
  /-- The words whose text is being read, each with how much comes after it. -/
  busy : List (Text × Nat) := []

/-- What keeps a text from being read, and in which line. -/
structure Fault where
  line : Nat
  reason : String
  deriving DecidableEq, Repr

/-- A reader of a text. -/
abbrev Reader := StateT Cursor (Except Fault)

/-! ### Characters -/

/-- Whether a character ends a word. -/
def endsWord (c : Char) : Bool :=
  c == ' ' || c == '\t' || c == '\n' || c == ';' || c == '&' || c == '|' || c == '<' || c == '>' ||
    c == '(' || c == ')'

/-- The quote that runs a command. -/
def isBackquote (c : Char) : Bool :=
  c.toNat == 0x60

/-- Whether a character stands for itself in a word. -/
def isPlain (c : Char) : Bool :=
  !endsWord c && c != '\'' && c != '"' && c != '\\' && c != '$' && !isBackquote c

/-- Whether a character can begin the name of a variable. -/
def beginsName (c : Char) : Bool :=
  c.isAlpha || c == '_'

/-- Whether a character can stand in the name of a variable. -/
def inName (c : Char) : Bool :=
  beginsName c || c.isDigit

/-- The name at the beginning of a text, if there is one. -/
def nameAt (s : Text) : Text :=
  match s with
  | c :: _ => if beginsName c then s.takeWhile inName else []
  | [] => []

/-- Whether a text is the name of a variable. -/
def isName (s : Text) : Bool :=
  !s.isEmpty && (nameAt s).length == s.length

/-- The number that digits write. -/
def digitsValue (s : Text) : Nat :=
  s.foldl (fun n c => n * 10 + (c.toNat - 48)) 0

/-- The text and its line without the blanks, the continued lines and the comment in
front. -/
def pastBlanks : Text → Nat → Text × Nat
  | ' ' :: s, n | '\t' :: s, n => pastBlanks s n
  | '\\' :: '\n' :: s, n => pastBlanks s (n + 1)
  | '#' :: s, n => (s.dropWhile (· != '\n'), n)
  | s, n => (s, n)

namespace Reader

/-- The reader that finds fault. -/
def fail {α : Type} (reason : String) : Reader α := do
  throw ⟨(← get).line, reason⟩

/-- The reader that finds fault at the end of the text. -/
def failAtEnd {α : Type} (reason : String) : Reader α := do
  let c ← get
  throw ⟨c.line + c.rest.count '\n', reason⟩

/-- What is left of the text. -/
def rest : Reader Text :=
  Cursor.rest <$> get

/-- Takes some characters off the text. -/
def take (n : Nat) : Reader Text := do
  let c ← get
  let taken := c.rest.take n
  set { c with rest := c.rest.drop n, line := c.line + taken.count '\n' }
  return taken

/-- Takes the characters in front that have a property. -/
def takeWhile (p : Char → Bool) : Reader Text := do
  take ((← rest).takeWhile p).length

/-- Passes over blanks. -/
def blanks : Reader Unit :=
  modify fun c =>
    let (rest, line) := pastBlanks c.rest c.line
    { c with rest, line }

/-- Puts a token back. -/
def putBack (t : Token) : Reader Unit :=
  modify fun c => { c with held := some t }

/-- Finds fault with a token. -/
def unexpected {α : Type} (t : Token) (expected : Option Token) : Reader α :=
  let wanted :=
    match expected with
    | some w => " (expecting " ++ w.describe ++ ")"
    | none => ""
  fail (t.describe ++ " unexpected" ++ wanted)

end Reader

/-! ### Expansions -/

/-- The parameter that is named by one character. -/
def Parameter.ofChar? : Char → Option Parameter
  | '#' => some .count
  | '?' => some .status
  | '$' => some .processId
  | '!' => some .lastJob
  | '-' => some .options
  | '*' => some .joined
  | '@' => some .separate
  | c => if c.isDigit then some (.argument (c.toNat - 48)) else none

/-- The parameter at the beginning of a text, and how many characters name it. -/
def Parameter.at? (braced : Bool) (s : Text) : Option (Parameter × Nat) :=
  let digits := s.takeWhile Char.isDigit
  if braced && !digits.isEmpty then some (.argument (digitsValue digits), digits.length)
  else
    match nameAt s, s with
    | [], c :: _ => (ofChar? c).map fun p => (p, 1)
    | [], [] => none
    | name, _ => some (.variable name, name.length)

/-- What the text after a parameter in braces makes of it, and how many characters
say so. -/
def Use.at : Text → Use × Nat
  | ':' :: '-' :: _ => (.fallback true, 2)
  | ':' :: '=' :: _ => (.initial true, 2)
  | ':' :: '?' :: _ => (.demand true, 2)
  | ':' :: '+' :: _ => (.instead true, 2)
  | '-' :: _ => (.fallback false, 1)
  | '=' :: _ => (.initial false, 1)
  | '?' :: _ => (.demand false, 1)
  | '+' :: _ => (.instead false, 1)
  | '#' :: '#' :: _ => (.withoutFront true, 2)
  | '#' :: _ => (.withoutFront false, 1)
  | '%' :: '%' :: _ => (.withoutBack true, 2)
  | '%' :: _ => (.withoutBack false, 1)
  | '}' :: _ => (.value, 0)
  | _ => (.unknown, 0)

/-- Whether the word of an expansion is a pattern. -/
def Use.isTrim : Use → Bool
  | .withoutFront _ | .withoutBack _ => true
  | _ => false

/-- How many characters come before the two brackets that close an expression. -/
def expressionLength : Nat → Nat → Text → Option Nat
  | n, 0, ')' :: ')' :: _ => some n
  | n, depth, '(' :: s => expressionLength (n + 1) (depth + 1) s
  | n, depth, ')' :: s => expressionLength (n + 1) (depth - 1) s
  | n, depth, _ :: s => expressionLength (n + 1) depth s
  | _, _, [] => none

/-- The text between backquotes, without the backslashes that keep it together, and
how many characters it takes. `taken` holds what has been read, latest first. -/
def backquoted (inQuotes : Bool) (taken : Text) (n : Nat) : Text → Option (Text × Nat)
  | [] => none
  | '\\' :: c :: s =>
    let kept := c == '\\' || c == '$' || isBackquote c || (inQuotes && c == '"')
    if c == '\n' then backquoted inQuotes taken (n + 2) s
    else backquoted inQuotes (if kept then c :: taken else c :: '\\' :: taken) (n + 2) s
  | c :: s =>
    if isBackquote c then some (taken.reverse, n + 1)
    else backquoted inQuotes (c :: taken) (n + 1) s

/-- The lines of a text in front of one that is the mark, how many lines that takes,
and what comes after it. -/
def linesBefore (tabs : Bool) (mark : Text) (taken : List Text) (n : Nat) (s : Text) :
    Text × Nat × Text :=
  let line := s.takeWhile (· != '\n')
  let bare := if tabs then line.dropWhile (· == '\t') else line
  if s.isEmpty then (taken.reverse.flatten, n, [])
  else if bare == mark then (taken.reverse.flatten, n + 1, s.drop (line.length + 1))
  else
    let ended := if line.length < s.length then bare ++ ['\n'] else bare
    linesBefore tabs mark (ended :: taken) (n + 1) (s.drop (line.length + 1))
termination_by s.length
decreasing_by
  rename_i hs _
  have hs : s ≠ [] := by simpa using hs
  have : 0 < s.length := List.length_pos_iff.2 hs
  simp only [List.length_drop]
  omega

/-- The redirection in front: its stream, what is done, and how many characters say
so. A number of one digit may stand before it. -/
def redirectAt? (s : Text) : Option (Nat × OpenMode × Nat) :=
  let (given, s) :=
    match s with
    | d :: c :: r => if d.isDigit && (c == '<' || c == '>') then (some (d.toNat - 48), c :: r)
        else (none, s)
    | s => (none, s)
  let k := if given.isSome then 1 else 0
  match s with
  | '>' :: '>' :: _ => some (given.getD 1, .append, k + 2)
  | '>' :: '|' :: _ => some (given.getD 1, .overwrite, k + 2)
  | '>' :: '&' :: _ => some (given.getD 1, .duplicate, k + 2)
  | '>' :: _ => some (given.getD 1, .write, k + 1)
  | '<' :: '<' :: _ => some (given.getD 0, .document, k + 2)
  | '<' :: '&' :: _ => some (given.getD 0, .duplicate, k + 2)
  | '<' :: '>' :: _ => some (given.getD 0, .readWrite, k + 2)
  | '<' :: _ => some (given.getD 0, .read, k + 1)
  | _ => none

end Shell
end StressBench
