/-
# Tools that take lines apart

`cut` keeps parts of each line, `paste` puts lines side by side, `fold` breaks long lines,
`expand` and `unexpand` change tabs and blanks into each other, and `rev` turns each
line round.

Key definitions: `Tool.placesOf`, `Tool.cut`, `Tool.paste`, `Tool.fold`, `Tool.expand`,
`Tool.rev`.
-/
import StressBench.Shell.Tool.Reading

namespace StressBench
namespace Shell
namespace Tool

/-! ### Parts of lines -/

/-- Places from a first to a last, which may be missing. -/
abbrev Places := Nat × Option Nat

/-- Reads one range of places. -/
def rangeOf (fields : Bool) (s : Text) : Except String Places :=
  let kind := if fields then "field" else "byte or character"
  let fromOne :=
    if fields then "fields are numbered from 1" else "byte/character positions are numbered from 1"
  let number (s : Text) : Except String (Option Nat) :=
    if s.isEmpty then .ok none
    else
      match natural? s with
      | some 0 => .error fromOne
      | some n => .ok (some n)
      | none => .error ("invalid " ++ kind ++ " value " ++ inQuotes s)
  match s.splitOnP (· == '-') with
  | [a] => do
    match ← number a with
    | some n => return (n, some n)
    | none => throw fromOne
  | [a, b] => do
    match ← number a, ← number b with
    | none, none => throw "invalid range with no endpoint: -"
    | some n, none => return (n, none)
    | none, some m => return (1, some m)
    | some n, some m => if m < n then throw "invalid decreasing range" else return (n, some m)
  | _ => .error ("invalid " ++ kind ++ " range")

/-- Reads ranges of places with commas or blanks between them. -/
def placesOf (fields : Bool) (s : Text) : Except String (List Places) :=
  ((s.splitOnP fun c => c == ',' || c == ' ').mapM (rangeOf fields))

/-- Whether a place is in one of the ranges. -/
def isPlaced (places : List Places) (n : Nat) : Bool :=
  places.any fun (a, b) => a ≤ n && b.all (n ≤ ·)

/-- The elements at the places, numbered from 1. -/
def placed {α : Type} (keep : Nat → Bool) (s : List α) : List α :=
  (s.zipIdx.filter fun (_, i) => keep (i + 1)).map Prod.fst

/-- Prints parts of each line. -/
def cut : Tool :=
  withOptions ("b/bytes= c/characters= f/fields= d/delimiter= n s/only-delimited " ++
    "z/zero-terminated /output-delimiter= /complement") 1 fun name o => do
  let lists := o.given.filter fun g => ["b", "c", "f"].contains g.1
  match lists with
  | [] => misuse name "you must specify a list of bytes, characters, or fields" 1
  | _ :: _ :: _ => misuse name "only one list may be specified" 1
  | [(key, list)] =>
    let fields := key == "f"
    let delimiter := o.last? "d"
    if !fields && delimiter.isSome then
      misuse name "an input delimiter may be specified only when operating on fields" 1
    else if !fields && o.has "s" then
      misuse name ("suppressing non-delimited lines makes sense\n\tonly when operating on fields") 1
    else if 1 < (delimiter.getD ['\t']).length then
      misuse name "the delimiter must be a single character" 1
    else
      match placesOf fields list with
      | .error message => misuse name message 1
      | .ok places =>
        let d := (delimiter.getD ['\t']).headD (Char.ofNat 0)
        let between := (o.last? "output-delimiter").getD [d]
        let keep (n : Nat) := isPlaced places n != o.has "complement"
        let cutLine (l : Text) : Text :=
          if !fields then placed keep l ++ ['\n']
          else
            let parts := l.splitOnP (· == d)
            if parts.length ≤ 1 then (if o.has "s" then [] else l ++ ['\n'])
            else between.intercalate (placed keep parts) ++ ['\n']
        let mut status := 0
        for path in (if o.operands.isEmpty then [['-']] else o.operands) do
          match ← withInput path Action.readAll with
          | .ok text => Action.print ((linesOf text).flatMap cutLine)
          | .error e =>
            plainComplaint name path e
            status := 1
        return status

/-! ### Lines side by side -/

/-- The characters of a list of delimiters, some of which mean none. -/
def delimitersOf : Text → List Text
  | '\\' :: c :: s =>
    (match c with
      | 'n' => ['\n']
      | 't' => ['\t']
      | '0' => []
      | c => [c]) :: delimitersOf s
  | c :: s => [c] :: delimitersOf s
  | [] => []

/-- Texts with delimiters between them, which are used in turn. -/
def joinedBy (delimiters : List Text) (texts : List Text) : Text :=
  (texts.zipIdx.flatMap fun (s, i) =>
    if i == 0 then s
    else (delimiters[(i - 1) % max 1 delimiters.length]?.getD []) ++ s)

/-- The rows of several lists of lines. -/
def rowsOf : Nat → List (List Text) → List (List Text)
  | 0, _ => []
  | n + 1, lists =>
    if lists.all List.isEmpty then []
    else lists.map (·.headD []) :: rowsOf n (lists.map (·.drop 1))

/-- Puts the lines of files side by side, or those of each file into one. -/
def paste : Tool := withOptions "d/delimiters= s/serial z/zero-terminated" 1 fun name o => do
  let delimiters := delimitersOf ((o.last? "d").getD ['\t'])
  let delimiters := if delimiters.isEmpty then [[]] else delimiters
  let paths := if o.operands.isEmpty then [['-']] else o.operands
  let dashes := (paths.filter (· == ['-'])).length
  let mut lists : List (List Text) := []
  let mut input : Option (List Text) := none
  let mut turn := 0
  for path in paths do
    if path == ['-'] && 1 < dashes && !o.has "s" then
      let lines ← match input with
        | some lines => pure lines
        | none => do pure (linesOf (← Action.readAll))
      input := some lines
      let offset := turn
      lists := lists ++ [(lines.zipIdx.filter fun (_, i) => i % dashes == offset).map Prod.fst]
      turn := turn + 1
    else
      match ← withInput path Action.readAll with
      | .ok text => lists := lists ++ [linesOf text]
      | .error e =>
        plainComplaint name path e
        return 1
  let rows :=
    if o.has "s" then lists
    else rowsOf (lists.foldl (fun n l => max n l.length) 0) lists
  Action.print (rows.flatMap fun row => joinedBy delimiters row ++ ['\n'])
  return 0

/-! ### Widths -/

/-- The column after a character. -/
def columnAfter (column : Nat) (c : Char) : Nat :=
  match c.toNat with
  | 8 => column - 1
  | 9 => column + (8 - column % 8)
  | 13 => 0
  | _ => column + 1

/-- A line broken so that no piece is wider than so many columns; at blanks if that is
wanted. `piece` holds what has been read of a piece, latest first. -/
def brokenLine (width : Nat) (bytes atBlanks : Bool) : Nat → Text → Nat → Text → List Text →
    List Text
  | 0, piece, _, _, done => (piece.reverse :: done).reverse
  | _, piece, _, [], done => (piece.reverse :: done).reverse
  | n + 1, piece, column, c :: s, done =>
    let next := if bytes then column + 1 else columnAfter column c
    if width < next && !piece.isEmpty then
      let word := piece.takeWhile fun c => !(c == ' ' || c == '\t')
      if atBlanks && word.length < piece.length then
        let kept := piece.drop word.length
        let column := word.reverse.foldl (fun k c => if bytes then k + 1 else columnAfter k c) 0
        brokenLine width bytes atBlanks n word column (c :: s) (kept.reverse :: done)
      else brokenLine width bytes atBlanks n [] 0 (c :: s) (piece.reverse :: done)
    else brokenLine width bytes atBlanks n (c :: piece) next s done

/-- Breaks the long lines of files. -/
def fold : Tool := fun name args =>
  withOptions "b/bytes s/spaces w/width=" 1 (fun name o => do
    let text := (o.last? "w").getD ['8', '0']
    match natural? text with
    | none | some 0 => refuse name ("invalid number of columns: " ++ inQuotes text) 1
    | some width =>
      let mut status := 0
      for path in (if o.operands.isEmpty then [['-']] else o.operands) do
        match ← withInput path Action.readAll with
        | .ok text =>
          Action.print ((endedLines text).flatMap fun l =>
            let bare := if l.getLast? == some '\n' then l.dropLast else l
            ['\n'].intercalate
              (brokenLine width (o.has "b") (o.has "s") (4 * bare.length + 4) [] 0 bare []) ++
              l.drop bare.length)
        | .error e =>
          plainComplaint name path e
          status := 1
      return status) name (modern args)
where
  /-- The arguments with an old form of a width in the new one. -/
  modern : List Text → List Text
    | ('-' :: d :: ds) :: rest =>
      if (d :: ds).all Char.isDigit then ('-' :: 'w' :: d :: ds) :: rest
        else ('-' :: d :: ds) :: rest
    | args => args

/-- A text with its tabs changed into blanks. -/
def expandTabs (width : Nat) (onlyFirst : Bool) (s : Text) : Text :=
  (s.foldl (fun (state : Text × Nat × Bool) c =>
    let (done, column, first) := state
    if c == '\n' then (c :: done, 0, true)
    else if c == '\t' && (first || !onlyFirst) then
      let k := width - column % width
      (List.replicate k ' ' ++ done, column + k, first)
    else (c :: done, column + 1, first && c == ' ')) ([], 0, true)).1.reverse

/-- Changes tabs into blanks. -/
def expand : Tool := withOptions "i/initial t/tabs=" 1 fun name o => do
  let width := max 1 (((o.last? "t").bind natural?).getD 8)
  let mut status := 0
  for path in (if o.operands.isEmpty then [['-']] else o.operands) do
    match ← withInput path Action.readAll with
    | .ok text => Action.print (expandTabs width (o.has "i") text)
    | .error e =>
      plainComplaint name path e
      status := 1
  return status

/-- A line with the blanks in front changed into tabs, or all runs of them. -/
def unexpandLine (width : Nat) (all : Bool) (s : Text) : Text :=
  let rec go : Nat → Nat → Nat → Text → Text → Text
    | 0, _, _, _, done => done.reverse
    | _, _, pending, [], done => (List.replicate pending ' ' ++ done).reverse
    | n + 1, column, pending, c :: s, done =>
      if c == ' ' then
        let column := column + 1
        if column % width == 0 && 0 < pending then go n column 0 s ('\t' :: done)
        else if column % width == 0 && s.head? == some ' ' then go n column 0 s ('\t' :: done)
        else go n column (pending + 1) s done
      else if c == '\t' then go n (column + (width - column % width)) 0 s ('\t' :: done)
      else
        let done := c :: (List.replicate pending ' ' ++ done)
        if all then go n (column + 1) 0 s done else done.reverse ++ s
  go (s.length + 1) 0 0 s []

/-- Changes blanks into tabs. -/
def unexpand : Tool := withOptions "a/all t/tabs= /first-only" 1 fun name o => do
  let width := max 1 (((o.last? "t").bind natural?).getD 8)
  let all := (o.has "a" || o.has "t") && !o.has "first-only"
  let (text, status) ← readInputs o.operands (plainComplaint name)
  Action.print ((endedLines text).flatMap (unexpandLine width all))
  return status

/-- Turns each line round. -/
def rev : Tool := withOptions "h/help V/version 0/zero" 1 fun name o => do
  let mut status := 0
  for path in (if o.operands.isEmpty then [['-']] else o.operands) do
    match ← withInput path Action.readAll with
    | .ok text =>
      Action.print ((endedLines text).flatMap fun l =>
        let bare := if l.getLast? == some '\n' then l.dropLast else l
        bare.reverse ++ l.drop bare.length)
    | .error e =>
      fault name ("cannot open " ++ shown path ++ ": " ++ Errno.text e)
      status := 1
  return status

end Tool
end Shell
end StressBench
