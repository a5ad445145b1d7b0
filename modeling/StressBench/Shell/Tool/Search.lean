/-
# Looking for lines

`grep` prints the lines of files in which an expression matches, or tells of them in
another way: by their number, by the names of the files or by its status alone.

Key definitions: `SearchStyle`, `SearchState`, `SearchState.next`, `Tool.grep`.
-/
import StressBench.Shell.Regex.Reader
import StressBench.Shell.Tool.Options
import StressBench.Shell.Tool.Entries

namespace StressBench
namespace Shell

/-! ### What is looked for and what is told -/

/-- What is looked for and what is told of the lines that are selected. -/
structure SearchStyle where
  matcher : Option Matcher
  wholeLine : Bool := false
  wholeWord : Bool := false
  inverted : Bool := false
  /-- Nothing is told of single lines. -/
  silent : Bool := false
  parts : Bool := false
  titled : Bool := false
  numbered : Bool := false
  offsets : Bool := false
  /-- So many lines in front of a selected one and behind it are printed too. -/
  before : Nat := 0
  after : Nat := 0
  context : Bool := false
  /-- The search ends after so many selected lines. -/
  most : Option Nat := none
  mark : Char := '\n'
  /-- Files are text whatever they hold. -/
  asText : Bool := false

namespace SearchStyle

/-- Whether a match may lie between two places. -/
def accepts (s : SearchStyle) (p q : Place) : Bool :=
  let apart := !s.wholeWord ||
    (!((p.before.map isWordChar).getD false) && !((q.rest.head?.map isWordChar).getD false))
  apart && (!s.wholeLine || (p.index == 0 && q.rest.isEmpty))

/-- The first match from a place on. -/
def find? (s : SearchStyle) (p : Place) : Option Match :=
  s.matcher.bind fun m => m.searchOn s.accepts p.before p.index p.rest

/-- Whether a line is selected. -/
def selects (s : SearchStyle) (line : Text) : Bool :=
  (s.find? (.start line)).isSome != s.inverted

/-- The matches in a line that have some text, one after the other. -/
def matchesFrom (s : SearchStyle) : Nat → Place → List Match
  | 0, _ => []
  | n + 1, p =>
    match s.find? p with
    | none => []
    | some m =>
      if m.length == 0 then
        if m.start.rest.isEmpty then [] else matchesFrom s n m.start.next
      else m :: matchesFrom s n m.stop.place

end SearchStyle

/-! ### The state of a search -/

/-- What has been seen of a file. -/
structure SearchState where
  /-- The number of lines and of characters before the next line. -/
  number : Nat := 0
  offset : Nat := 0
  /-- How many lines have been selected. -/
  count : Nat := 0
  /-- So many lines are still printed for what was selected last. -/
  left : Nat := 0
  /-- The lines just before that have not been printed, the latest first, each with its
  number and its offset. -/
  held : List (Nat × Nat × Text) := []
  /-- The number of the line that was printed last. -/
  last : Option Nat := none
  /-- Whether anything has been printed of this file or of another. -/
  shown : Bool := false
  /-- What is to be printed, latest first. -/
  out : List Text := []
  done : Bool := false

namespace SearchState

/-- What stands in front of a line. -/
def front (s : SearchStyle) (title : Text) (sign : Char) (number offset : Nat) : Text :=
  (if s.titled then title ++ [sign] else []) ++
    (if s.numbered then numeral number ++ [sign] else []) ++
    (if s.offsets then numeral offset ++ [sign] else [])

/-- Prints a line that is selected or lies near one. -/
def put (s : SearchStyle) (title : Text) (selected : Bool) (f : SearchState)
    (line : Nat × Nat × Text) : SearchState :=
  let (number, offset, text) := line
  let gap := s.context && f.shown && f.last.map (· + 1) != some number
  let gapText := if gap then ['-', '-', '\n'] else []
  let sign := if selected then ':' else '-'
  let own : Text :=
    if !s.parts then front s title sign number offset ++ text ++ [s.mark]
    else if !selected || s.inverted then []
    else (s.matchesFrom (text.length + 1) (.start text)).flatMap fun m =>
      front s title sign number (offset + m.start.index) ++ m.text ++ [s.mark]
  { f with out := own :: gapText :: f.out, last := some number, shown := true }

/-- Takes the next line. -/
def next (s : SearchStyle) (title : Text) (f : SearchState) (text : Text) : SearchState :=
  if f.done then f
  else
    let line := (f.number + 1, f.offset, text)
    let f := { f with number := f.number + 1, offset := f.offset + text.length + 1 }
    let full := (s.most.map fun m => decide (m ≤ f.count)).getD false
    if !full && s.selects text then
      let f := { f with count := f.count + 1 }
      if s.silent then { f with done := s.most == some f.count }
      else
        let f := f.held.reverse.foldl (put s title false) f
        let f := put s title true { f with held := [] } line
        { f with left := s.after, done := s.most == some f.count && s.after == 0 }
    else if s.silent then f
    else if f.left != 0 then
      let f := put s title false f line
      { f with left := f.left - 1, done := full && f.left == 1 }
    else { f with held := (line :: f.held).take s.before }

end SearchState

namespace Tool

/-! ### The tool -/

/-- The dialects in which an expression may be written. -/
inductive PatternForm
  | basic
  | extended
  | fixed
  deriving DecidableEq, Repr

/-- The expression for several texts of which one is to match, and the signs of repetitions
of nothing in them. -/
def readPatterns (form : PatternForm) (folds : Bool) (texts : List Text) :
    Except Regex.Fault (Option Matcher × List Char) :=
  let dialect : Dialect := { extended := form == .extended, folds, lenient := true }
  let readOne (s : Text) : Except Regex.Fault (Regex × List Char) :=
    if form == .fixed then
      .ok (s.foldr (fun c r => .both (Regex.char dialect c) r) .nothing, [])
    else if (['[', ':'].isPrefixOf s && [':', ']'].isSuffixOf s) then .error .misplacedClass
    else Regex.readNoting dialect s
  match texts.mapM readOne with
  | .error e => .error e
  | .ok [] => .ok (none, [])
  | .ok (r :: rs) =>
    let regex := (rs.map Prod.fst).foldl Regex.either r.1
    .ok (some (Matcher.ofRegex regex), (r :: rs).flatMap Prod.snd)

/-- Complains of how the tool was called. -/
def searchUsage (name : Text) (message : Option String) : Action Nat := do
  let head := (message.map fun m => shown name ++ ": " ++ m ++ "\n").getD ""
  Action.write 2 (Action.encoded
    (head ++ "Usage: grep [OPTION]... PATTERNS [FILE]...\n" ++ moreAbout name ++ "\n"))
  return 2

/-- The names of the files that a search in a directory goes through. -/
def filesBelow (d : Disk) (loc : Location) (path : Text) : Nat → List Text
  | 0 => []
  | n + 1 =>
    (if d.mayList loc then d.children loc else []).flatMap fun name =>
      let child := if path.isEmpty then ofBytes name else inside path (ofBytes name)
      match d.get (name :: loc) with
      | some (.directory _) => filesBelow d (name :: loc) child n
      | some (.file ..) => [child]
      | _ => []

/-- The files that a search goes through. -/
def searched (deep : Bool) (paths : List Text) : Action (List Text) := do
  if !deep then return if paths.isEmpty then [['-']] else paths
  let d ← Action.disk
  let cwd := (← Action.own).cwd
  return (if paths.isEmpty then [[]] else paths).flatMap fun path =>
    match (if path.isEmpty then .ok (cwd, Entry.newDirectory) else d.lookup cwd (toBytes path)) with
    | .ok (loc, .directory _) => filesBelow d loc path treeDepth
    | _ => [path]

/-- Searches the standard input. Gives what was seen, and whether there was a selected line
in what is no text. -/
def searchInput (s : SearchStyle) (title : Text) (shownBefore : Bool) :
    Action (SearchState × Bool) :=
  foldLines s.mark ({ shown := shownBefore }, false) fun (f, found) lines => do
    let noText := !s.asText && s.mark == '\n' && lines.any fun l => l.1.contains (Char.ofNat 0)
    let start := f.count
    let f := lines.foldl (fun f l => f.next s title l.1) f
    if noText && !s.silent && f.count != start then
      return (({ f with out := [] }, true), false)
    else
      Action.print f.out.reverse.flatten
      return (({ f with out := [] }, found), !f.done)

/-- The patterns that options and operands give, and the other operands; the message of what
is wrong with them. -/
def givenPatterns (o : Options) : Action (Except (Option String) (List Text × List Text)) := do
  let mut texts : List Text := []
  for (key, value) in o.given do
    if key == "e" then texts := texts ++ [value]
    else if key == "f" then
      match ← withInput value Action.readAll with
      | .error e => return .error (some (shown value ++ ": " ++ Errno.text e))
      | .ok text =>
        unless text.isEmpty do
          texts := texts ++ [if text.getLast? == some '\n' then text.dropLast else text]
  if o.has "e" || o.has "f" then return .ok (texts.flatMap (·.splitOnP (· == '\n')), o.operands)
  else
    match o.operands with
    | pattern :: paths => return .ok (pattern.splitOnP (· == '\n'), paths)
    | [] => return .error none

/-- The arguments with numbers that are options written as the option for context. -/
def withContext (args : List Text) : List Text :=
  args.map fun a =>
    match a with
    | '-' :: ds => if !ds.isEmpty && ds.all Char.isDigit then "-C".toList ++ ds else a
    | a => a

/-- The number that an option gives, if it is one. -/
def contextOf (o : Options) (keys : List String) : Except Text Nat :=
  match (o.given.reverse.find? fun g => keys.contains g.1).map Prod.snd with
  | none => .ok 0
  | some s => match natural? s with
    | some n => .ok n
    | none => .error s

/-- Searches files as options say. -/
def searchFiles (name : Text) (o : Options) (s : SearchStyle) (paths : List Text) : Action Nat := do
  let names := o.lastOf? ["l", "L"]
  let counting := o.has "c"
  let mut shownBefore := false
  let mut failed := false
  let mut any := false
  for path in ← searched (o.has "r" || o.has "R") paths do
    let title := if path == ['-'] then (o.last? "label").getD "(standard input)".toList else path
    match ← withInput path (searchInput s title shownBefore) with
    | .error e =>
      unless o.has "s" do plainComplaint name path e
      failed := true
    | .ok (f, noText) =>
      let found := f.count != 0
      any := any || found
      shownBefore := shownBefore || f.shown
      if o.has "q" then
        if found then return 0
      else
        if noText then fault name (shown title ++ ": binary file matches")
        if counting && names.isNone then
          Action.print ((if s.titled then title ++ [':'] else []) ++ numeral f.count ++ ['\n'])
        if names == some "l" && found || names == some "L" && !found then
          Action.print (title ++ [if o.has "Z" then Char.ofNat 0 else '\n'])
  return if failed then 2 else if any then 0 else 1

/-- Prints the lines of files in which an expression matches. -/
def searchWith (form : PatternForm) : Tool := fun name args => do
  let forms := OptionForm.listOfText ("E/extended-regexp F/fixed-strings G/basic-regexp " ++
    "P/perl-regexp e/regexp= f/file= i/ignore-case y /no-ignore-case v/invert-match " ++
    "w/word-regexp x/line-regexp c/count l/files-with-matches L/files-without-match " ++
    "m/max-count= o/only-matching q/quiet q/silent s/no-messages b/byte-offset H/with-filename " ++
    "h/no-filename n/line-number T/initial-tab Z/null A/after-context= B/before-context= " ++
    "C/context= a/text I r/recursive R/dereference-recursive z/null-data U/binary " ++
    "/line-buffered /color? /colour? /label= /include= /exclude= /exclude-dir= /binary-files=")
  match Options.read forms true (withContext args) with
  | .error message => searchUsage name (some message)
  | .ok o =>
    let form : PatternForm :=
      match o.lastOf? ["E", "F", "G", "P"] with
      | some "E" | some "P" => .extended
      | some "F" => .fixed
      | some "G" => .basic
      | _ => form
    let badContext (s : Text) := refuse name (shown s ++ ": invalid context length argument") 2
    match ← givenPatterns o with
    | .error none => searchUsage name none
    | .error (some message) => refuse name message 2
    | .ok (texts, paths) =>
      match readPatterns form (o.has "i" || o.has "y") texts, contextOf o ["A", "C"],
        contextOf o ["B", "C"], (o.last? "m").map natural? with
      | _, .error s, _, _ | _, _, .error s, _ => badContext s
      | _, _, _, some none => refuse name "invalid max count" 2
      | .error e, _, _, _ => refuse name e.message 2
      | .ok (matcher, idle), .ok after, .ok before, most =>
        for sign in idle do
          let sign := if sign == '\x7b' then "\x7b...\x7d" else sign.toString
          fault name ("warning: " ++ sign ++ " at start of expression")
        let silent := o.has "c" || o.has "l" || o.has "L" || o.has "q"
        let brief := o.has "l" || o.has "L" || o.has "q"
        let most := most.bind fun m => m
        let titled :=
          match o.lastOf? ["H", "h"] with
          | some "H" => true
          | some _ => false
          | none => 1 < paths.length || o.has "r" || o.has "R"
        let s : SearchStyle :=
          { matcher, wholeLine := o.has "x", wholeWord := o.has "w", inverted := o.has "v", silent
            parts := o.has "o", titled, numbered := o.has "n", offsets := o.has "b", before, after
            context := o.has "A" || o.has "B" || o.has "C"
            most := if brief then some 1 else most
            mark := if o.has "z" then Char.ofNat 0 else '\n', asText := o.has "a" }
        if most == some 0 then return 1 else searchFiles name o s paths

/-- Prints the lines of files in which a basic expression matches. -/
def grep : Tool := searchWith .basic

/-- Prints the lines of files in which an extended expression matches. -/
def egrep : Tool := fun _ => searchWith .extended "grep".toList

/-- Prints the lines of files in which a text stands. -/
def fgrep : Tool := fun _ => searchWith .fixed "grep".toList

end Tool
end Shell
end StressBench
