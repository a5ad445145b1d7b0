/-
# Editing lines: reading scripts

Commands stand on lines of their own or between semicolons. A script may come in several
pieces, some of which are files; what is wrong with it is told with the piece and the
place in it.

Key definitions: `Edit.Fault`, `Edit.Source`, `Edit.Scan`, `Edit.commands`, `Edit.Script.read`.
-/
import StressBench.Shell.Edit.Basic

namespace StressBench
namespace Shell
namespace Edit

/-- Why a script is refused: what is said, and the number of the piece and the place in it,
which some faults are not tied to. -/
structure Fault where
  message : String
  place : Option (Nat × Nat) := none

/-- What is still to be read of a piece of a script, how much of it has been read, its number,
and the pieces after it. -/
structure Source where
  rest : Text
  place : Nat := 0
  piece : Nat := 0
  later : List Text := []
  extended : Bool := false

/-- Reading from a script. -/
abbrev Scan (α : Type) := StateT Source (Except Fault) α

namespace Scan

/-- Refuses the script. -/
def refuse {α : Type} (message : String) : Scan α := do
  let s ← get
  throw { message, place := some (s.piece, s.place) }

/-- Goes on to the next piece, if there is one. -/
def nextPiece : Scan Bool := do
  let s ← get
  match s.later with
  | [] => return false
  | p :: ps =>
    set { s with rest := p, place := 0, piece := s.piece + 1, later := ps }
    return true

/-- The next character, if there is one. -/
def char? : Scan (Option Char) := do
  let s ← get
  match s.rest with
  | [] => return none
  | c :: rest =>
    set { s with rest, place := s.place + 1 }
    return some c

/-- The next character, which stays. -/
def peek : Scan (Option Char) := do
  return (← get).rest.head?

/-- Leaves characters out as long as they are of a kind. -/
def skip (p : Char → Bool) : Scan Unit := do
  let s ← get
  let blank := s.rest.takeWhile p
  set { s with rest := s.rest.drop blank.length, place := s.place + blank.length }

/-- Takes characters as long as they are of a kind. -/
def takeWhile (p : Char → Bool) : Scan Text := do
  let s ← get
  let taken := s.rest.takeWhile p
  set { s with rest := s.rest.drop taken.length, place := s.place + taken.length }
  return taken

/-- Leaves blanks out. -/
def skipBlanks : Scan Unit :=
  skip fun c => c == ' ' || c == '\t'

/-- The number at the beginning of what is to be read. -/
def number : Scan Nat := do
  return digitsValue (← takeWhile Char.isDigit)

end Scan

/-! ### Texts between marks -/

/-- The set in brackets at the beginning of a text, if it is closed, and how long it is. -/
def bracketLength? (s : Text) : Option Nat :=
  let start := match s with
    | '^' :: ']' :: _ => 2
    | '^' :: _ | ']' :: _ => 1
    | _ => 0
  within (s.length + 1) start (s.drop start)
where
  /-- The length up to the bracket that closes the set. -/
  within : Nat → Nat → Text → Option Nat
    | 0, _, _ | _, _, [] => none
    | _, n, ']' :: _ => some (n + 1)
    | fuel + 1, n, '[' :: k :: s =>
      if k == ':' || k == '.' || k == '=' then
        let name := s.takeWhile fun c => c != ']'
        match s.drop name.length with
        | ']' :: rest => if name.getLast? == some k then within fuel (n + name.length + 3) rest
            else none
        | _ => none
      else within fuel (n + 1) (k :: s)
    | fuel + 1, n, _ :: s => within fuel (n + 1) s

/-- Reads up to a mark. In an expression a mark behind a backslash stands for itself, and one in
brackets does not count. Nothing if the mark does not come in the line. -/
def untilMark (mark : Char) (isRegex : Bool) : Nat → Text → Scan (Option Text)
  | 0, _ => return none
  | n + 1, done => do
    let s ← get
    match s.rest with
    | [] => return none
    | c :: rest =>
      let go (used : Nat) (added : Text) : Scan (Option Text) := do
        set { s with rest := s.rest.drop used, place := s.place + used }
        untilMark mark isRegex n (added.reverse ++ done)
      if c == mark then
        set { s with rest, place := s.place + 1 }
        return some done.reverse
      else if c == '\n' then return none
      else if c == '\\' then
        match rest with
        | [] => go 1 []
        | x :: _ =>
          if x == 'n' && isRegex then go 2 ['\n']
          else if x == '\n' || (x == mark && (isRegex || x != '&')) then go 2 [x]
          else go 2 ['\\', x]
      else if c == '[' && isRegex && mark != '[' then
        match bracketLength? rest with
        | some k =>
          let set := rest.take k
          go (k + 1) ('[' :: set)
        | none => go (s.rest.length) []
      else go 1 [c]

/-- A text in which characters may be written by their numbers. -/
def withCodes : Nat → Text → Text
  | 0, s => s
  | _, [] => []
  | n + 1, '\\' :: c :: s =>
    let code (base most : Nat) : Text :=
      let digits := (s.take most).takeWhile fun c => (Arithmetic.digitValue? base c).isSome
      if digits.isEmpty then '\\' :: c :: withCodes n s
      else
        let value := digits.foldl (fun v d => v * base + (Arithmetic.digitValue? base d).getD 0) 0
        let x := Char.ofNat (value % 256)
        (if x == '&' || x == '\\' then ['\\', x] else [x]) ++ withCodes n (s.drop digits.length)
    match c with
    | 'x' => code 16 2
    | 'd' => code 10 3
    | 'o' => code 8 3
    | 'c' =>
      match s with
      | x :: s => Char.ofNat (x.toUpper.toNat ^^^ 64) :: withCodes n s
      | [] => ['\\', 'c']
    | _ => '\\' :: c :: withCodes n s
  | n + 1, c :: s => c :: withCodes n s

/-- Makes an expression ready; an empty one stands for that which was used last. -/
def matcherOf (s : Text) (folds manyLines : Bool) : Scan (Option Matcher) := do
  if s.isEmpty then return none
  else
    let dialect : Dialect := { extended := (← get).extended, folds, manyLines, escapes := true }
    match Matcher.read dialect (withCodes (s.length + 1) s) with
    | .ok m => return some m
    | .error e => Scan.refuse e.message

/-! ### Addresses -/

/-- The address at the beginning of what is to be read, if there is one. -/
def address? : Scan (Option Stop) := do
  match ← Scan.peek with
  | none => return none
  | some c =>
    if c == '/' || c == '\\' then
      let _ ← Scan.char?
      let mark ← if c == '\\' then pure ((← Scan.char?).getD '/') else pure c
      match ← untilMark mark true ((← get).rest.length + 1) [] with
      | none => Scan.refuse "unterminated address regex"
      | some s =>
        let flags ← Scan.takeWhile fun c => c == 'I' || c == 'M' || c == ' ' || c == '\t'
        return some (.address (.holding (← matcherOf s (flags.contains 'I') (flags.contains 'M'))))
    else if c.isDigit then
      let first ← Scan.number
      Scan.skipBlanks
      if (← Scan.peek) == some '~' then
        let _ ← Scan.char?
        Scan.skipBlanks
        let step ← Scan.number
        return some (.address (if step == 0 then .line first else .every first step))
      else return some (.address (.line first))
    else if c == '+' || c == '~' then
      let _ ← Scan.char?
      Scan.skipBlanks
      let n ← Scan.number
      return some (if c == '+' then .further n else .multiple n)
    else if c == '$' then
      let _ ← Scan.char?
      return some (.address .last)
    else return none

/-- The lines that the next command is for. -/
def selection : Scan Selection := do
  match ← address? with
  | none => return .all
  | some (.further _) | some (.multiple _) =>
    Scan.refuse "invalid usage of +N or ~N as first address"
  | some (.address first) =>
    Scan.skipBlanks
    let isZero := match first with
      | .line 0 => true
      | _ => false
    if (← Scan.peek) == some ',' then
      let _ ← Scan.char?
      Scan.skipBlanks
      match ← address? with
      | none => do
        let _ ← Scan.char?
        Scan.refuse "unexpected `,'"
      | some stop =>
        let holding := match stop with
          | .address (.holding _) => true
          | _ => false
        Scan.skipBlanks
        if isZero && !holding then do
          let _ ← Scan.char?
          Scan.refuse "invalid usage of line address 0"
        return .range first stop
    else if isZero then do
      let _ ← Scan.char?
      Scan.refuse "invalid usage of line address 0"
    else return .one first

/-! ### The parts of commands -/

/-- Makes sure that a command has come to its end. -/
def endOfCommand : Scan Unit := do
  Scan.skipBlanks
  match ← Scan.peek with
  | none | some '\x7d' | some '#' => pure ()
  | some c =>
    let _ ← Scan.char?
    unless c == '\n' || c == ';' do Scan.refuse "extra characters after command"

/-- A label, up to a blank, a semicolon or a brace. -/
def labelName : Scan Text := do
  Scan.skipBlanks
  let name ← Scan.takeWhile fun c => !Tool.isSpace c && c != ';' && c != '\x7d'
  Scan.skip fun c => c == ' ' || c == '\t'
  return name

/-- The name of a file, which takes the rest of the line. -/
def filePath : Scan Text := do
  Scan.skipBlanks
  let path ← Scan.takeWhile (· != '\n')
  if path.isEmpty then Scan.refuse "missing filename in r/R/w/W commands"
  return path

/-- A text up to the end of a line; a backslash takes a line end or another character into
it, and goes on with the next piece at the end of one. -/
def textLines : Nat → Text → Scan Text
  | 0, done => return done.reverse
  | n + 1, done => do
    match ← Scan.char? with
    | none => return ('\n' :: done).reverse
    | some '\n' => return ('\n' :: done).reverse
    | some '\\' =>
      match ← Scan.char? with
      | none =>
        if ← Scan.nextPiece then textLines n ('\n' :: done) else return ('\n' :: done).reverse
      | some c =>
        match Regex.controlChar? c with
        | some x => textLines n (x :: done)
        | none => textLines n (c :: done)
    | some c => textLines n (c :: done)

/-- The text of a command that puts lines in. -/
def textOfCommand : Scan Text := do
  Scan.skipBlanks
  let size := ((← get).later.map fun p => p.length + 1).foldl (· + ·) ((← get).rest.length + 1)
  match ← Scan.peek with
  | none => Scan.refuse "expected \\ after `a', `c' or `i'"
  | some '\\' =>
    let _ ← Scan.char?
    let s ← get
    match s.rest.dropWhile (fun c => c == ' ' || c == '\t') with
    | '\n' :: rest =>
      set { s with rest, place := s.place + (s.rest.length - rest.length) }
      if rest.isEmpty then return [] else textLines size []
    | [] =>
      set { s with rest := [], place := s.place + s.rest.length }
      if ← Scan.nextPiece then textLines size [] else return []
    | _ => textLines size []
  | some _ => textLines size []

/-- The parts of what takes the place of a match. -/
def partsOf (folded : List Part) (text : Text) : Nat → Text → Except String (List Part)
  | 0, _ => .ok []
  | n + 1, s =>
    let flushed : List Part := if text.isEmpty then folded else .text text.reverse :: folded
    match s with
    | [] => .ok flushed.reverse
    | '&' :: s => partsOf (.group 0 :: flushed) [] n s
    | '\\' :: c :: s =>
      if c.isDigit then partsOf (.group (c.toNat - 48) :: flushed) [] n s
      else
        match c with
        | 'U' => partsOf (.casing .upper :: flushed) [] n s
        | 'L' => partsOf (.casing .lower :: flushed) [] n s
        | 'E' => partsOf (.casing .plain :: flushed) [] n s
        | 'u' => partsOf (.casing .upperOnce :: flushed) [] n s
        | 'l' => partsOf (.casing .lowerOnce :: flushed) [] n s
        | c =>
          match Regex.controlChar? c with
          | some x => partsOf folded (x :: text) n s
          | none => partsOf folded (c :: text) n s
    | c :: s => partsOf folded (c :: text) n s

/-- The greatest number of a group in parts. -/
def greatestGroup (parts : List Part) : Nat :=
  parts.foldl (fun m p => match p with
    | .group n => max m n
    | _ => m) 0

/-- The flags of a substitution. -/
structure Flags where
  folds : Bool := false
  manyLines : Bool := false
  every : Bool := false
  prints : Bool := false
  first : Option Nat := none
  file : Option Text := none

/-- Reads the flags of a substitution. -/
def flagsFrom : Nat → Flags → Scan Flags
  | 0, f => return f
  | n + 1, f => do
    match ← Scan.peek with
    | none | some '\x7d' | some '#' => return f
    | some c =>
      let digits := c.isDigit
      if digits then
        let k ← Scan.number
        if f.first.isSome then Scan.refuse "multiple number options to `s' command"
        if k == 0 then Scan.refuse "number option to `s' command may not be zero"
        flagsFrom n { f with first := some k }
      else
        let _ ← Scan.char?
        match c with
        | '\n' | ';' => return f
        | ' ' | '\t' | '\r' => flagsFrom n f
        | 'i' | 'I' => flagsFrom n { f with folds := true }
        | 'm' | 'M' => flagsFrom n { f with manyLines := true }
        | 'e' => flagsFrom n f
        | 'p' =>
          if f.prints then Scan.refuse "multiple `p' options to `s' command"
          flagsFrom n { f with prints := true }
        | 'g' =>
          if f.every then Scan.refuse "multiple `g' options to `s' command"
          flagsFrom n { f with every := true }
        | 'w' => return { f with file := some (← filePath) }
        | _ => Scan.refuse "unknown option to `s'"

/-- The greatest number of a group in an expression. -/
def groupCount : Regex → Nat
  | .group n r => max n (groupCount r)
  | .both a b | .either a b => max (groupCount a) (groupCount b)
  | .repeated r _ _ => groupCount r
  | _ => 0

/-- Reads a substitution. -/
def substitution : Scan Deed := do
  let size := (← get).rest.length + 1
  let unterminated : Scan Deed := Scan.refuse "unterminated `s' command"
  match ← Scan.char? with
  | none => unterminated
  | some mark =>
    match ← untilMark mark true size [] with
    | none => unterminated
    | some pattern =>
      match ← untilMark mark false size [] with
      | none => do
        unterminated
      | some text =>
        match partsOf [] [] (2 * text.length + 2) (withCodes (text.length + 1) text) with
        | .error message => Scan.refuse message
        | .ok parts =>
          let f ← flagsFrom size {}
          let matcher ← matcherOf pattern f.folds f.manyLines
          let most := greatestGroup parts
          if (matcher.map fun m => decide (groupCount m.regex < most)).getD false then
            Scan.refuse ("invalid reference \\" ++ toString most ++ " on `s' command's RHS")
          return .substitute
            { matcher, parts, every := f.every, first := f.first.getD 1, prints := f.prints
              file := f.file }

/-- The characters of one side of a replacement of characters. -/
def sideOf (mark : Char) : Text → Text
  | '\\' :: 'n' :: s => '\n' :: sideOf mark s
  | '\\' :: '\\' :: s => '\\' :: sideOf mark s
  | '\\' :: c :: s =>
    if c == mark then c :: sideOf mark s
    else
      match Regex.controlChar? c with
      | some x => x :: sideOf mark s
      | none => '\\' :: c :: sideOf mark s
  | c :: s => c :: sideOf mark s
  | [] => []

/-- Reads a replacement of characters. -/
def replacing : Scan Deed := do
  let size := (← get).rest.length + 1
  let unterminated : Scan Deed := Scan.refuse "unterminated `y' command"
  match ← Scan.char? with
  | none => unterminated
  | some mark =>
    match ← untilMark mark false size [] with
    | none => unterminated
    | some a =>
      match ← untilMark mark false size [] with
      | none => unterminated
      | some b =>
        let a := sideOf mark a
        let b := sideOf mark b
        if a.length != b.length then Scan.refuse "strings for `y' command are different lengths"
        endOfCommand
        return .replace (a.zip b)

/-- The number after a command, if there is one. -/
def numberAfter : Scan (Option Nat) := do
  Scan.skipBlanks
  match ← Scan.peek with
  | some c => if c.isDigit then return some (← Scan.number) else return none
  | none => return none

/-- Reads what a command does from its letter on. -/
def deedOf (s : Selection) (c : Char) : Scan (Option Deed) := do
  let simple (a : Deed) : Scan (Option Deed) := do
    endOfCommand
    return some a
  let isRange := match s with
    | .range .. => true
    | _ => false
  let isAll := match s with
    | .all => true
    | _ => false
  match c with
  | '#' =>
    unless isAll do Scan.refuse "comments don't accept any addresses"
    Scan.skip (· != '\n')
    return none
  | '\x7b' => return some .block
  | '\x7d' => simple .close
  | ':' =>
    unless isAll do Scan.refuse ": doesn't want any addresses"
    Scan.skipBlanks
    let name ← Scan.takeWhile fun c => !Tool.isSpace c && c != ';'
    if name.isEmpty then Scan.refuse "\":\" lacks a label"
    return some (.label name)
  | 'b' => return some (.jump (← labelName))
  | 't' => return some (.jumpIfDone (← labelName))
  | 'T' => return some (.jumpUnlessDone (← labelName))
  | 'a' => return some (.append (← textOfCommand))
  | 'i' => return some (.insert (← textOfCommand))
  | 'c' => return some (.change (← textOfCommand))
  | 'q' | 'Q' =>
    if isRange then Scan.refuse "command only uses one address"
    let status := (← numberAfter).getD 0
    simple (if c == 'q' then .quit status else .quitSilently status)
  | 'l' => simple (.list (← numberAfter))
  | '=' => simple .lineNumber
  | 'd' => simple .delete
  | 'D' => simple .deleteFirst
  | 'g' => simple .get
  | 'G' => simple .getMore
  | 'h' => simple .hold
  | 'H' => simple .holdMore
  | 'x' => simple .exchange
  | 'n' => simple .next
  | 'N' => simple .nextMore
  | 'p' => simple .print
  | 'P' => simple .printFirst
  | 'z' => simple .clear
  | 'F' => simple .fileName
  | 'v' =>
    let _ ← labelName
    return none
  | 'r' => return some (.readFile (← filePath))
  | 'R' => return some (.readLine (← filePath))
  | 'w' => return some (.write (← filePath))
  | 'W' => return some (.writeFirst (← filePath))
  | 's' => return some (← substitution)
  | 'y' => return some (← replacing)
  | c => Scan.refuse ("unknown command: `" ++ shown [c] ++ "'")

/-- Reads the next command; `open` is how many blocks are open. -/
def command (blocks : Nat) : Scan (Option Command) := do
  let s ← selection
  Scan.skipBlanks
  let isAll := match s with
    | .all => true
    | _ => false
  let mut inverted := false
  if (← Scan.peek) == some '!' then
    let _ ← Scan.char?
    inverted := true
    Scan.skipBlanks
    if (← Scan.peek) == some '!' then
      let _ ← Scan.char?
      Scan.refuse "multiple `!'s"
  match ← Scan.char? with
  | none => Scan.refuse "missing command"
  | some c =>
    if c == '\x7d' && (blocks == 0 || !isAll) then Scan.refuse "unexpected `\x7d'"
    return (← deedOf s c).map fun deed => { selection := s, inverted, deed }

/-- Reads all commands, with how many blocks are open. -/
def commands : Nat → Nat → List Command → Scan (List Command)
  | 0, _, done => return done.reverse
  | n + 1, blocks, done => do
    Scan.skip fun c => Tool.isSpace c || c == ';'
    if (← get).rest.isEmpty then
      if ← Scan.nextPiece then commands n blocks done
      else
        if blocks != 0 then throw { message := "unmatched `\x7b'", place := some (0, 0) }
        return done.reverse
    else
      match ← command blocks with
      | none => commands n blocks done
      | some c =>
        let blocks := match c.deed with
          | .block => blocks + 1
          | .close => blocks - 1
          | _ => blocks
        commands n blocks (c :: done)

/-! ### Scripts -/

/-- A script that is ready to run: its commands, and for each block and each jump the number of
the command that comes next when it is left or taken. -/
structure Script where
  steps : Array Command
  targets : Array Nat

/-- The number of the command behind the brace that closes a block; `depth` blocks are open
within it. -/
def closingAt : Nat → Nat → List Command → Nat
  | _, at_, [] => at_
  | depth, at_, c :: cs =>
    match c.deed with
    | .block => closingAt (depth + 1) (at_ + 1) cs
    | .close => if depth == 0 then at_ + 1 else closingAt (depth - 1) (at_ + 1) cs
    | _ => closingAt depth (at_ + 1) cs

/-- Where commands lead to, from one of them on. -/
def targetsFrom (labels : List (Text × Nat)) (size : Nat) :
    Nat → List Command → Except Fault (List Nat)
  | _, [] => .ok []
  | at_, c :: cs =>
    let jump (label : Text) : Except Fault Nat :=
      if label.isEmpty then .ok size
      else
        match labels.lookup label with
        | some n => .ok n
        | none => .error { message := "can't find label for jump to `" ++ shown label ++ "'" }
    let own : Except Fault Nat :=
      match c.deed with
      | .block => .ok (closingAt 0 (at_ + 1) cs)
      | .jump l | .jumpIfDone l | .jumpUnlessDone l => jump l
      | _ => .ok 0
    match own, targetsFrom labels size (at_ + 1) cs with
    | .error e, _ | _, .error e => .error e
    | .ok n, .ok ns => .ok (n :: ns)

/-- Reads a script that comes in pieces. -/
def Script.read (extended : Bool) (pieces : List Text) : Except Fault Script :=
  let size := (pieces.map fun p => p.length + 1).foldl (· + ·) 1
  match (commands size 0 []).run
      { rest := pieces.headD [], later := pieces.drop 1, extended } with
  | .error e => .error e
  | .ok (cs, _) =>
    let labels := cs.zipIdx.filterMap fun (c, i) => match c.deed with
      | .label name => some (name, i)
      | _ => none
    (targetsFrom labels cs.length 0 cs).map fun targets => ⟨cs.toArray, targets.toArray⟩

end Edit
end Shell
end StressBench
