/-
# A tool that walks through directories

`find` goes through the entries below some paths, a directory before what is in it unless the
wish says otherwise, and carries out an expression for each: tests on the entry and actions
with it.

Key definitions: `Wish`, `WishOptions`, `Wish.read`, `Tool.walk`, `Tool.find`.
-/
import StressBench.Shell.Tool.Listing

namespace StressBench
namespace Shell

/-- What is asked of an entry, or done with it. -/
inductive Wish
  | always
  | never
  /-- The name, or the whole path, fits a pattern. -/
  | fits (whole folds : Bool) (pattern : List Mark)
  | kind (letters : Text)
  | empty
  | newer (path : Text)
  | size (order : Ordering) (blocks unit : Nat)
  | print (mark : Char)
  | format (text : Text)
  | delete
  | quit
  /-- The entry is not gone into. -/
  | prune
  /-- A program is run, whose arguments hold the path in place of two braces. -/
  | run (command : List Text)
  /-- A program is run at the end, with all paths. -/
  | gather (command : List Text)
  | not (w : Wish)
  | both (a b : Wish)
  | either (a b : Wish)

/-- What is said about the whole walk. -/
structure WishOptions where
  leastDepth : Nat := 0
  mostDepth : Option Nat := none
  /-- What is in a directory comes before it. -/
  contentFirst : Bool := false
  /-- Whether something is done with the entries, so that they are not just printed. -/
  acts : Bool := false
  deriving DecidableEq, Repr

namespace Wish

/-- What is still to be read. -/
structure Words where
  rest : List Text
  options : WishOptions := {}

/-- Reading a wish. -/
abbrev Parse (α : Type) := StateT Words (Except String) α

/-- The word after another one, which needs it. -/
def argumentOf (name : Text) : Parse Text := do
  let w ← get
  match w.rest with
  | [] => throw ("missing argument to `" ++ shown name ++ "'")
  | a :: rest =>
    set { w with rest }
    return a

/-- A number after a word. -/
def numberOf (name : Text) : Parse Nat := do
  let a ← argumentOf name
  match natural? a with
  | some n => return n
  | none =>
    throw ("Expected a positive decimal integer argument to " ++ shown name ++ ", but got " ++
      Tool.inQuotes a)

/-- The words of a command up to its end, and whether it is run for all paths together. -/
def commandOf (name : Text) : Nat → List Text → Parse (List Text × Bool)
  | 0, _ => throw ("missing argument to `" ++ shown name ++ "'")
  | n + 1, done => do
    let a ← argumentOf name
    if a == [';'] then
      if done.isEmpty then throw ("invalid argument `;' to `" ++ shown name ++ "'")
      return (done.reverse, false)
    else if a == ['+'] && done.head? == some ['\x7b', '\x7d'] then
      return (done.reverse.dropLast, true)
    else commandOf name n (a :: done)

/-- Says that something is done with the entries. -/
def acting (w : Wish) : Parse Wish := do
  modify fun s => { s with options := { s.options with acts := true } }
  return w

/-- The size that a text gives: whether it is to be more, less or the same, and the unit. -/
def sizeOf? (s : Text) : Option Wish :=
  let (order, s) : Ordering × Text :=
    match s with
    | '+' :: s => (.gt, s)
    | '-' :: s => (.lt, s)
    | s => (.eq, s)
  let digits := s.takeWhile Char.isDigit
  let unit : Option Nat :=
    match s.drop digits.length with
    | [] | ['b'] => some 512
    | ['c'] => some 1
    | ['w'] => some 2
    | ['k'] => some 1024
    | ['M'] => some 1048576
    | _ => none
  if digits.isEmpty then none else unit.map fun u => .size order (digitsValue digits) u

mutual

/-- Reads alternatives. -/
def alternatives : Nat → Parse Wish
  | 0 => throw "invalid expression"
  | n + 1 => do
    let a ← sequence n
    let w ← get
    match w.rest with
    | o :: rest =>
      if o == "-o".toList || o == "-or".toList then
        set { w with rest }
        return .either a (← alternatives n)
      else return a
    | [] => return a

/-- Reads what must all hold. -/
def sequence : Nat → Parse Wish
  | 0 => throw "invalid expression"
  | n + 1 => do
    let a ← single n
    let w ← get
    match w.rest with
    | [] => return a
    | o :: rest =>
      if o == "-o".toList || o == "-or".toList || o == [')'] then return a
      else if o == "-a".toList || o == "-and".toList then
        set { w with rest }
        return .both a (← sequence n)
      else return .both a (← sequence n)

/-- Reads one test or action. -/
def single : Nat → Parse Wish
  | 0 => throw "invalid expression"
  | n + 1 => do
    let w ← get
    match w.rest with
    | [] => throw "invalid expression"
    | o :: rest =>
      set { w with rest }
      let change (f : WishOptions → WishOptions) : Parse Wish := do
        modify fun s => { s with options := f s.options }
        return .always
      match String.ofList o with
      | "!" | "-not" =>
        if rest.isEmpty then throw ("expected an expression after '" ++ shown o ++ "'")
        return .not (← single n)
      | "(" =>
        let inner ← alternatives n
        match (← get).rest with
        | [')'] :: rest =>
          modify fun s => { s with rest }
          return inner
        | _ =>
          throw ("invalid expression; I was expecting to find a ')' somewhere but did not see one.")
      | "-name" => return .fits false false (marksOfText (← argumentOf o))
      | "-iname" => return .fits false true (marksOfText ((← argumentOf o).map Char.toLower))
      | "-path" | "-wholename" => return .fits true false (marksOfText (← argumentOf o))
      | "-type" =>
        let letters := (← argumentOf o).filter (· != ',')
        match letters.find? fun c => !"bcdpfls".toList.contains c with
        | some c => throw ("Unknown argument to -type: " ++ c.toString)
        | none => return .kind letters
      | "-size" =>
        let a ← argumentOf o
        match sizeOf? a with
        | some w => return w
        | none => throw ("invalid -size type `" ++ shown (a.drop (a.length - 1)) ++ "'")
      | "-newer" => return .newer (← argumentOf o)
      | "-empty" => return .empty
      | "-true" => return .always
      | "-false" => return .never
      | "-prune" => return .prune
      | "-quit" => acting .quit
      | "-print" => acting (.print '\n')
      | "-print0" => acting (.print (Char.ofNat 0))
      | "-printf" => acting (.format (← argumentOf o))
      | "-delete" =>
        modify fun s => { s with options := { s.options with contentFirst := true } }
        acting .delete
      | "-exec" =>
        let (command, together) ← commandOf o (rest.length + 1) []
        acting (if together then .gather command else .run command)
      | "-depth" | "-d" => change fun s => { s with contentFirst := true }
      | "-maxdepth" =>
        let k ← numberOf o
        change fun s => { s with mostDepth := some k }
      | "-mindepth" =>
        let k ← numberOf o
        change fun s => { s with leastDepth := k }
      | "-xdev" | "-mount" | "-follow" | "-noleaf" => return .always
      | ")" => throw "you have too many ')'"
      | _ =>
        if o.head? == some '-' then throw ("unknown predicate `" ++ shown o ++ "'")
        else throw ("paths must precede expression: `" ++ shown o ++ "'")

end

/-- Reads a wish. -/
def read (words : List Text) : Except String (Wish × WishOptions) :=
  if words.isEmpty then .ok (.print '\n', {})
  else
    match (alternatives (8 * words.length + 8)).run { rest := words } with
    | .error e => .error e
    | .ok (_, { rest := [')'] :: _, .. }) => .error "you have too many ')'"
    | .ok (w, s) => .ok (if s.options.acts then w else .both w (.print '\n'), s.options)

end Wish

namespace Tool

/-- What is known of a walk: the paths that are gathered for a program, latest first, the status,
and whether the entry is not gone into and the walk is over. -/
structure Walk where
  gathered : List Text := []
  status : Nat := 0
  pruned : Bool := false
  stopped : Bool := false

/-- A path in a command in place of two braces. -/
def bracesReplaced (path : Text) : Text → Text
  | '\x7b' :: '\x7d' :: s => path ++ bracesReplaced path s
  | c :: s => c :: bracesReplaced path s
  | [] => []

/-- The letter of the kind of an entry. -/
def kindLetter : Entry → Char
  | .directory _ => 'd'
  | .file .. => 'f'
  | .link _ => 'l'
  | .device _ => 'c'

/-- A format with what is known of an entry. -/
def foundText (path : Text) (depth : Nat) (e : Entry) : Nat → Text → Text
  | 0, _ | _, [] => []
  | n + 1, '%' :: c :: s =>
    (match c with
      | 'p' => path
      | 'f' => lastName path
      | 'h' =>
        let dir := (path.reverse.dropWhile (· != '/')).drop 1 |>.reverse
        if path.contains '/' then dir else ['.']
      | 's' => numeral (sizeOf e)
      | 'd' => numeral depth
      | 'y' => [kindLetter e]
      | 'm' => Nat.toDigits 8 (modeBits e)
      | 'l' => match e with
        | .link target => ofBytes target
        | _ => []
      | '%' => ['%']
      | c => ['%', c]) ++ foundText path depth e n s
  | n + 1, c :: s => c :: foundText path depth e n s

/-- Carries a wish out for an entry, and says whether it holds. -/
def granted (r : Runner) (name : Text) (path : Text) (depth : Nat) (loc : Location) (e : Entry) :
    Wish → Walk → Action (Bool × Walk)
  | .always, k => return (true, k)
  | .never, k => return (false, k)
  | .fits whole folds pattern, k => do
    let s := if whole then path else lastName path
    return (matchesPattern pattern (if folds then s.map Char.toLower else s), k)
  | .kind letters, k => return (letters.contains (kindLetter e), k)
  | .empty, k => do
    match e with
    | .file content _ => return (content.isEmpty, k)
    | .directory _ => return (((← Action.disk).children loc).isEmpty, k)
    | _ => return (false, k)
  | .newer _, k => return (false, k)
  | .size order blocks unit, k => do
    return (compare ((sizeOf e + unit - 1) / unit) blocks == order, k)
  | .print mark, k => do
    Action.print (path ++ [mark])
    return (true, k)
  | .format s, k => do
    let (text, _) := unescape escapeAt s
    Action.print (foundText path depth e (text.length + 1) text)
    return (true, k)
  | .delete, k => do
    if path == ['.'] then return (true, k)
    else
      let error ← Action.onDisk fun d cwd =>
        if e.isDirectory then d.removeDirectory cwd (toBytes path)
        else
          match d.removeFile cwd (toBytes path) with
          | (.ok (), d) => .ok d
          | (.error e, _) => .error e
      match error with
      | none => return (true, k)
      | some error =>
        withWords name "cannot delete" path error
        return (false, { k with status := 1 })
  | .quit, k => return (true, { k with stopped := true })
  | .prune, k => return (true, { k with pruned := true })
  | .run command, k => do
    let words := command.map (bracesReplaced path)
    match ← r.start (words.headD []) (words.drop 1) with
    | .error error =>
      fault name (inQuotes (words.headD []) ++ ": " ++ Errno.text error)
      return (false, k)
    | .ok ending => return (ending.status == 0, k)
  | .gather _, k => return (true, { k with gathered := path :: k.gathered })
  | .not w, k => do
    let (b, k) ← granted r name path depth loc e w k
    return (!b, k)
  | .both a b, k => do
    let (holds, k) ← granted r name path depth loc e a k
    if holds && !k.stopped then granted r name path depth loc e b k else return (holds, k)
  | .either a b, k => do
    let (holds, k) ← granted r name path depth loc e a k
    if holds || k.stopped then return (holds, k) else granted r name path depth loc e b k

/-- The program that is run at the end. -/
def Wish.gathering? : Wish → Option (List Text)
  | .gather command => some command
  | .not w => gathering? w
  | .both a b | .either a b => (gathering? a).or (gathering? b)
  | _ => none

/-- Walks through an entry and what is below it. -/
def walk (r : Runner) (name : Text) (w : Wish) (o : WishOptions) :
    Nat → Nat → Text → Walk → Action Walk
  | 0, _, _, k => return k
  | n + 1, depth, path, k => do
    if k.stopped then return k
    else
      match ← entryAt? path with
      | none =>
        fault name (inQuotes path ++ ": " ++ Errno.text Errno.noEntry)
        return { k with status := 1 }
      | some (loc, e) =>
        let here (k : Walk) : Action Walk := do
          if depth < o.leastDepth then return k
          else return (← granted r name path depth loc e w k).2
        let below (k : Walk) : Action Walk := do
          if !e.isDirectory || k.pruned ||
            (o.mostDepth.map fun m => decide (m ≤ depth)).getD false then
            return { k with pruned := false }
          else if !(← Action.disk).mayList loc then
            fault name (inQuotes path ++ ": " ++ Errno.text Errno.accessDenied)
            return { k with status := 1 }
          else
            let mut k := k
            for child in (← Action.disk).children loc do
              k ← walk r name w o n (depth + 1) (inside path (ofBytes child)) k
            return k
        if o.contentFirst then return { ← here (← below k) with pruned := false }
        else below (← here { k with pruned := false })

/-- Walks through the entries below paths. -/
def find (r : Runner) : Tool := fun name args => do
  let args := args.dropWhile fun a => [['-', 'H'], ['-', 'L'], ['-', 'P']].contains a
  let isPath (a : Text) : Bool :=
    a.head? != some '-' && a != ['!'] && a != ['('] && a != [')']
  let paths := args.takeWhile isPath
  match Wish.read (args.drop paths.length) with
  | .error message => refuse name message 1
  | .ok (w, o) =>
    let mut k : Walk := {}
    for path in (if paths.isEmpty then [['.']] else paths) do
      k ← walk r name w o treeDepth 0 path k
    match Wish.gathering? w with
    | some command =>
      if k.gathered.isEmpty then return k.status
      else
        let words := command ++ k.gathered.reverse
        match ← r.start (words.headD []) (words.drop 1) with
        | .error error =>
          fault name (inQuotes (words.headD []) ++ ": " ++ Errno.text error)
          return 1
        | .ok ending => return if ending.status == 0 then k.status else 1
    | none => return k.status

end Tool
end Shell
end StressBench
