/-
# Reading regular expressions

In the basic dialect groups, intervals and alternatives are written with backslashes, in
the extended one without. What cannot be read is refused with a reason.

Key definitions: `Dialect`, `Regex.Fault`, `Regex.Token`, `Regex.tokenAt`, `Regex.read`,
`Matcher.read`.
-/
import StressBench.Shell.Arithmetic
import StressBench.Shell.Regex.Basic

namespace StressBench
namespace Shell

/-- How expressions are written. -/
structure Dialect where
  extended : Bool := false
  /-- Letters match in any case. -/
  folds : Bool := false
  /-- The beginnings and ends of all lines count. -/
  manyLines : Bool := false
  /-- What is not well formed stands for itself where it can. -/
  lenient : Bool := false
  /-- Letters after a backslash may stand for other characters, in brackets too. -/
  escapes : Bool := false
  /-- Braces are ordinary characters. -/
  plainBraces : Bool := false
  /-- There are groups whose text can be matched again, and edges of words. -/
  words : Bool := true
  deriving DecidableEq, Repr

namespace Regex

/-- Why an expression is refused. -/
inductive Fault
  | badClass
  | trailingBackslash
  | badReference
  | openBracket
  | openGroup
  | openInterval
  | badInterval
  | badRange
  | badRepetition
  | closedGroup
  | reversedInterval
  | tooBig
  | misplacedClass
  | endsInBracket
  deriving DecidableEq, Repr

/-- What is said of a fault. -/
def Fault.message : Fault → String
  | .badClass => "Invalid character class name"
  | .trailingBackslash => "Trailing backslash"
  | .badReference => "Invalid back reference"
  | .openBracket => "Unmatched [, [^, [:, [., or [="
  | .openGroup => "Unmatched ( or \\("
  | .openInterval => "Unmatched \\\x7b"
  | .badInterval | .reversedInterval => "Invalid content of \\\x7b\\\x7d"
  | .badRange => "Invalid range end"
  | .badRepetition => "Invalid preceding regular expression"
  | .closedGroup => "Unmatched ) or \\)"
  | .tooBig => "Regular expression too big"
  | .endsInBracket => "Invalid regular expression"
  | .misplacedClass => "character class syntax is [[:space:]], not [:space:]"

/-! ### Sets -/

/-- The letters of a range in the other case. -/
def otherCase (r : Char × Char) : List (Char × Char) :=
  let shifted (low high : Char) (f : Char → Char) : List (Char × Char) :=
    let a := if r.1 < low then low else r.1
    let b := if high < r.2 then high else r.2
    if a ≤ b then [(f a, f b)] else []
  shifted 'a' 'z' Char.toUpper ++ shifted 'A' 'Z' Char.toLower

/-- A set of ranges, with their letters in any case if that is wanted. -/
def setOf (d : Dialect) (others : Bool) (ranges : List (Char × Char)) : CharSet :=
  ⟨if d.folds then ranges ++ ranges.flatMap otherCase else ranges, others⟩

/-- The expression of one character. -/
def char (d : Dialect) (c : Char) : Regex :=
  .among (setOf d false [(c, c)])

/-- The ranges of a class of characters that is named by a letter. -/
def letterClass? (c : Char) : Option (List (Char × Char) × Bool) :=
  let word : List (Char × Char) := [('0', '9'), ('A', 'Z'), ('_', '_'), ('a', 'z')]
  let space : List (Char × Char) := [('\t', '\r'), (' ', ' ')]
  match c with
  | 'w' => some (word, false)
  | 'W' => some (word, true)
  | 's' => some (space, false)
  | 'S' => some (space, true)
  | _ => none

/-- The character that a letter after a backslash stands for. -/
def controlChar? : Char → Option Char
  | 'a' => some (Char.ofNat 7)
  | 'f' => some (Char.ofNat 12)
  | 'n' => some '\n'
  | 'r' => some '\r'
  | 't' => some '\t'
  | 'v' => some (Char.ofNat 11)
  | _ => none

/-- A class in brackets: `[:name:]`, or one character between dots or equals signs. -/
def namedAt? (s : Text) : Option (Except Fault (List (Char × Char) × Text)) :=
  match s with
  | '[' :: ':' :: s =>
    let name := s.takeWhile fun c => c != ':' && c != ']'
    match s.drop name.length with
    | ':' :: ']' :: rest =>
      match classRanges? (String.ofList name) with
      | some ranges => some (.ok (ranges, rest))
      | none => some (.error .badClass)
    | _ => some (.error .openBracket)
  | '[' :: '.' :: c :: '.' :: ']' :: rest => some (.ok ([(c, c)], rest))
  | '[' :: '=' :: c :: '=' :: ']' :: rest => some (.ok ([(c, c)], rest))
  | _ => none

/-- One character in brackets, perhaps written with a backslash. -/
def bracketChar (d : Dialect) (c : Char) (s : Text) : Char × Text :=
  if c == '\\' && d.escapes then
    match s with
    | x :: rest =>
      match controlChar? x with
      | some y => (y, rest)
      | none => if d.words then (c, s) else (x, rest)
    | [] => (c, s)
  else (c, s)

/-- The ranges up to the bracket that closes a set, and what comes after it. The first
character may be a bracket. -/
def rangesIn (d : Dialect) : Nat → Bool → List (Char × Char) → Text →
    Except Fault (List (Char × Char) × Text)
  | 0, _, _, _ | _, _, _, [] => .error .openBracket
  | n + 1, first, done, c :: s =>
    if c == ']' && !first then .ok (done, s)
    else
      match namedAt? (c :: s) with
      | some (.error e) => .error e
      | some (.ok (ranges, rest)) => rangesIn d n false (ranges ++ done) rest
      | none =>
        let (low, s) := bracketChar d c s
        match s with
        | '-' :: high :: rest =>
          if high == ']' then rangesIn d n false ((low, low) :: done) s
          else
            let (high, rest) := bracketChar d high rest
            if high < low then .error .badRange else rangesIn d n false ((low, high) :: done) rest
        | s => rangesIn d n false ((low, low) :: done) s

/-- The set that stands after an opening bracket, and what comes after it. -/
def setIn (d : Dialect) (s : Text) : Except Fault (CharSet × Text) :=
  let (others, s) :=
    match s with
    | '^' :: s => (true, s)
    | s => (false, s)
  if s.isEmpty then .error .endsInBracket
  else (rangesIn d (s.length + 1) true [] s).map fun (ranges, rest) => (setOf d others ranges, rest)

/-! ### Tokens -/

/-- A part of an expression. -/
inductive Token
  | atom (r : Regex)
  | opening
  | closing
  | bar
  | repetition (least : Nat) (most : Option Nat)

/-- The greatest number of times that an interval may ask for. -/
def intervalMax : Nat := 32767

/-- The interval that stands after an opening brace, and what comes after it. -/
def intervalIn (d : Dialect) (s : Text) : Except Fault (Token × Text) :=
  let digits (s : Text) := s.takeWhile Char.isDigit
  let number (s : Text) := (digitsValue s)
  let least := digits s
  let rest := s.drop least.length
  let (most, rest) : Option Text × Text :=
    match rest with
    | ',' :: rest => (some (digits rest), rest.dropWhile Char.isDigit)
    | rest => (none, rest)
  let closing : Text := if d.extended then ['\x7d'] else ['\\', '\x7d']
  if least.isEmpty && most.isNone then
    .error (if rest.isEmpty then .openInterval else .badInterval)
  else if !closing.isPrefixOf rest then
    .error (if rest.isEmpty then .openInterval else .badInterval)
  else
    let low := number least
    let high : Option Nat :=
      match most with
      | none => some low
      | some [] => none
      | some ds => some (number ds)
    if intervalMax < max low (high.getD 0) then .error .tooBig
    else if (high.map fun h => decide (h < low)).getD false then .error .reversedInterval
    else .ok (.repetition low high, rest.drop closing.length)

/-- The token that a backslash and a character make. -/
def escapeAt (d : Dialect) (c : Char) (s : Text) : Except Fault (Token × Text) :=
  let edge (e : Edge) : Except Fault (Token × Text) := .ok (.atom (.edge e), s)
  let plain : Except Fault (Token × Text) :=
    match (if d.escapes then controlChar? c else none) with
    | some x => .ok (.atom (char d x), s)
    | none => .ok (.atom (char d c), s)
  if !d.words then plain
  else
    match letterClass? c with
    | some (ranges, others) => .ok (.atom (.among (setOf d others ranges)), s)
    | none =>
      if '1' ≤ c && c ≤ '9' then .ok (.atom (.again (c.toNat - 48) d.folds), s)
      else if c.toNat == 96 then edge .textStart
      else if d.extended then
        match c with
        | '<' => edge .wordStart
        | '>' => edge .wordEnd
        | 'b' => edge .wordEdge
        | 'B' => edge .inWord
        | '\'' => edge .textEnd
        | _ => plain
      else
        match c with
        | '<' => edge .wordStart
        | '>' => edge .wordEnd
        | 'b' => edge .wordEdge
        | 'B' => edge .inWord
        | '\'' => edge .textEnd
        | '(' => .ok (.opening, s)
        | ')' => .ok (.closing, s)
        | '|' => .ok (.bar, s)
        | '+' => .ok (.repetition 1 none, s)
        | '?' => .ok (.repetition 0 (some 1), s)
        | '\x7b' => intervalIn d s
        | _ => plain

/-- The token that a character without a backslash makes, other than brackets, in a text that
begins an alternative or does not. -/
def plainAt (d : Dialect) (first : Bool) (c : Char) (s : Text) : Except Fault (Token × Text) :=
  let edge (e : Edge) : Except Fault (Token × Text) := .ok (.atom (.edge e), s)
  let plain : Except Fault (Token × Text) := .ok (.atom (char d c), s)
  let endsHere :=
    match s with
    | [] => true
    | '\\' :: x :: _ => x == ')' || x == '|'
    | _ => false
  match c with
  | '.' => .ok (.atom (.among ⟨[], true⟩), s)
  | '*' => .ok (.repetition 0 none, s)
  | '^' =>
    if d.extended || first then edge (if d.manyLines then .lineStart else .textStart) else plain
  | '$' =>
    if d.extended || endsHere then edge (if d.manyLines then .lineEnd else .textEnd) else plain
  | c =>
    if !d.extended then plain
    else
      match c with
      | '(' => .ok (.opening, s)
      | ')' => .ok (.closing, s)
      | '|' => .ok (.bar, s)
      | '+' => .ok (.repetition 1 none, s)
      | '?' => .ok (.repetition 0 (some 1), s)
      | '\x7b' =>
        if d.plainBraces then plain
        else
          match intervalIn d s with
          | .error e => if d.lenient && (e == .openInterval || e == .badInterval) then plain
            else .error e
          | .ok token => .ok token
      | _ => plain

/-- The token at the beginning of a text. -/
def tokenAt (d : Dialect) (first : Bool) : Char → Text → Except Fault (Token × Text)
  | '\\', [] => .error .trailingBackslash
  | '\\', c :: s => escapeAt d c s
  | '[', s => (setIn d s).map fun (set, rest) => (.atom (.among set), rest)
  | c, s => plainAt d first c s

/-! ### Expressions -/

/-- What has been read of a group: its alternatives so far and the parts of the one that has
begun, latest first. -/
structure Frame where
  number : Nat
  before : Option Regex := none
  parts : List Regex := []

/-- The expression of what has been read of a group. -/
def Frame.regex (f : Frame) : Regex :=
  let own :=
    match f.parts with
    | [] => .nothing
    | r :: rs => rs.foldl (fun after r => .both r after) r
  match f.before with
  | some before => .either before own
  | none => own

/-- What has been read: the groups that are open, the innermost first, and the numbers of all
groups and of those that are closed. -/
structure Reading where
  top : Frame := ⟨0, none, []⟩
  outer : List Frame := []
  groups : Nat := 0
  closed : List Nat := []
  /-- The signs of repetitions of nothing, latest first. -/
  idle : List Char := []

namespace Reading

/-- Adds a part. -/
def push (a : Reading) (r : Regex) : Reading :=
  { a with top := { a.top with parts := r :: a.top.parts } }

/-- Repeats the last part. -/
def repeatLast (d : Dialect) (a : Reading) (c : Char) (least : Nat) (most : Option Nat) :
    Except Fault Reading :=
  let isEdge : Regex → Bool
    | .edge .textStart | .edge .lineStart => true
    | _ => false
  let isRepeated : Regex → Bool
    | .repeated .. => true
    | _ => false
  match a.top.parts with
  | r :: rs =>
    if isEdge r && !d.extended && c == '*' then .ok (a.push (char d c))
    else if isEdge r && d.extended && !d.lenient && d.words then .error .badRepetition
    else if isRepeated r && !d.extended && d.escapes && (c == '*' || c == '\x7b') then
      .error .badRepetition
    else
      .ok { a with
        top := { a.top with parts := .repeated r least most :: rs }
        idle := if isEdge r then c :: a.idle else a.idle }
  | [] =>
    if !d.extended && c != '\x7b' then .ok (a.push (char d c))
    else if d.extended && (d.lenient || !d.words) then .ok { a with idle := c :: a.idle }
    else .error .badRepetition

/-- Adds a token that began with a character. -/
def add (d : Dialect) (a : Reading) (c : Char) : Token → Except Fault Reading
  | .atom (.again n folds) =>
    if a.closed.contains n then .ok (a.push (.again n folds)) else .error .badReference
  | .atom r => .ok (a.push r)
  | .opening =>
    .ok { a with
      top := ⟨a.groups + 1, none, []⟩, outer := a.top :: a.outer, groups := a.groups + 1 }
  | .closing =>
    match a.outer with
    | f :: fs =>
      .ok { a with
        top := { f with parts := .group a.top.number a.top.regex :: f.parts }
        outer := fs
        closed := a.top.number :: a.closed }
    | [] => if d.lenient && d.extended then .ok (a.push (char d ')')) else .error .closedGroup
  | .bar => .ok { a with top := { a.top with before := some a.top.regex, parts := [] } }
  | .repetition least most => a.repeatLast d c least most

/-- Reads tokens up to the end of a text. -/
def run (d : Dialect) : Nat → Reading → Text → Except Fault Reading
  | 0, a, _ | _, a, [] => .ok a
  | n + 1, a, c :: s =>
    match tokenAt d a.top.parts.isEmpty c s with
    | .error e => .error e
    | .ok (token, rest) =>
      let sign := if c == '\\' then s.headD c else c
      match a.add d sign token with
      | .error e => .error e
      | .ok a => run d n a rest

end Reading

/-- Reads an expression, and gives the signs of repetitions of nothing in it. -/
def readNoting (d : Dialect) (s : Text) : Except Fault (Regex × List Char) :=
  match Reading.run d (s.length + 1) {} s with
  | .error e => .error e
  | .ok a => if a.outer.isEmpty then .ok (a.top.regex, a.idle.reverse) else .error .openGroup

/-- Reads an expression. -/
def read (d : Dialect) (s : Text) : Except Fault Regex :=
  (readNoting d s).map Prod.fst

end Regex

/-- Reads an expression and makes it ready. -/
def Matcher.read (d : Dialect) (s : Text) : Except Regex.Fault Matcher :=
  (Regex.read d s).map Matcher.ofRegex

end Shell
end StressBench
