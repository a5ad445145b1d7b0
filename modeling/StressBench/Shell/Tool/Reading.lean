/-
# Tools that read files

`cat` prints files, `head` and `tail` their beginnings and ends, `tac` their lines in
reverse, `nl` their lines with numbers, `wc` counts their lines, words and bytes, and
`tee` writes what it reads to files too.

Key definitions: `Tool.cat`, `Tool.head`, `Tool.tail`, `Tool.tac`, `Tool.nl`, `Tool.wc`,
`Tool.tee`.
-/
import StressBench.Shell.Tool.Numeral
import StressBench.Shell.Tool.Options

namespace StressBench
namespace Shell
namespace Tool

/-! ### Files one after the other -/

/-- What `cat` does to lines. -/
structure CatStyle where
  numbers : Bool
  onlyFilled : Bool
  ends : Bool
  tabs : Bool
  codes : Bool
  squeezed : Bool

/-- A character in the letters of `cat -v`. -/
def visible (tabs : Bool) (c : Char) : Text :=
  let n := c.toNat
  let low (n : Nat) : Text :=
    if n < 32 then ['^', Char.ofNat (n + 64)] else if n == 127 then ['^', '?'] else [Char.ofNat n]
  if n == 9 then (if tabs then ['^', 'I'] else [c])
  else if n < 128 then low n
  else ['M', '-'] ++ low (n - 128)

/-- The lines of a text by a style, given the number of the last line and whether it was
empty. -/
def catLines (s : CatStyle) : List Text → Nat → Bool → List Text → List Text × Nat × Bool
  | [], number, blank, done => (done.reverse, number, blank)
  | line :: rest, number, blank, done =>
    let bare := if line.getLast? == some '\n' then line.dropLast else line
    let ended := bare.length < line.length
    if s.squeezed && blank && bare.isEmpty && ended then catLines s rest number true done
    else
      let counted := if s.onlyFilled then !bare.isEmpty || !ended else s.numbers
      let number := if counted then number + 1 else number
      let head := if counted then padLeft 6 (numeral number) ++ ['\t'] else []
      let body :=
        if s.codes then bare.flatMap (visible s.tabs)
        else if s.tabs then bare.flatMap fun c => if c == '\t' then ['^', 'I'] else [c]
        else bare
      let tail := if ended then (if s.ends then ['$', '\n'] else ['\n']) else []
      catLines s rest number (bare.isEmpty && ended) ((head ++ body ++ tail) :: done)

/-- The lines of a text with their line ends. -/
def endedLines (s : Text) : List Text :=
  let pieces := s.splitOnP (· == '\n')
  let last := pieces.getLastD []
  pieces.dropLast.map (· ++ ['\n']) ++ if last.isEmpty then [] else [last]

/-- Whether the standard output leads to a file of a path that is not empty. -/
def isOwnOutput (path : Text) : Action Bool := do
  match ← Action.channel 1 with
  | some (.file n) =>
    let sys ← Action.system
    match sys.handles[n]?, sys.disk.lookup (← Action.own).cwd (toBytes path) with
    | some handle, .ok (loc, .file content _) =>
      return handle.loc == loc && (if handle.append then 0 else handle.position) < content.length
    | _, _ => return false
  | _ => return false

/-- Prints files. -/
def cat : Tool :=
  withOptions ("A/show-all b/number-nonblank e E/show-ends n/number s/squeeze-blank " ++
    "t T/show-tabs u v/show-nonprinting") 1 fun name o => do
  let has (keys : List String) := keys.any o.has
  let style : CatStyle :=
    { numbers := o.has "n", onlyFilled := o.has "b", ends := has ["E", "A", "e"],
      tabs := has ["T", "A", "t"], codes := has ["v", "A", "e", "t"], squeezed := o.has "s" }
  let plain := !(style.numbers || style.onlyFilled || style.ends || style.tabs || style.codes ||
    style.squeezed)
  let mut status := 0
  let mut number := 0
  let mut blank := false
  for path in (if o.operands.isEmpty then [['-']] else o.operands) do
    if path != ['-'] && (← isOwnOutput path) then
      fault name (shown path ++ ": input file is output file")
      status := 1
    else if plain then
      match ← withInput path (Action.repeatTurns Action.turnMax do
        let chunk ← Action.readChunk
        Action.print chunk
        if chunk.length == Action.chunkSize then Action.spend 1000
        return !chunk.isEmpty) with
      | .ok () => pure ()
      | .error e =>
        plainComplaint name path e
        status := 1
    else
      match ← withInput path Action.readAll with
      | .ok text =>
        let (lines, n, b) := catLines style (endedLines text) number blank []
        Action.print lines.flatten
        number := n
        blank := b
      | .error e =>
        plainComplaint name path e
        status := 1
  return status

/-! ### Beginnings and ends -/

/-- How much of a file is wanted: so many lines or bytes, counted from the end that a tool
begins with, or all but so many. -/
structure Extent where
  count : Nat := 10
  bytes : Bool := false
  fromOther : Bool := false
  deriving DecidableEq, Repr

/-- The arguments with an old form of a count, such as `-5`, in the new one. -/
def modernCount (args : List Text) : List Text :=
  match args with
  | ('-' :: d :: ds) :: rest =>
    let digits := (d :: ds).takeWhile Char.isDigit
    let letters := (d :: ds).drop digits.length
    if digits.isEmpty || !letters.all (fun c => ['c', 'q', 'v', 'l', 'f', 'n'].contains c) then args
    else
      let kind := if letters.contains 'c' then 'c' else 'n'
      let others := letters.filter fun c => c == 'q' || c == 'v' || c == 'f'
      (['-', kind] ++ digits) :: others.map (fun c => ['-', c]) ++ rest
  | args => args

/-- The extent that options ask for. A sign of `other` counts from the other end. -/
def extentOf (o : Options) (other : Char) : Except String Extent :=
  match o.lastOf? ["n", "c"] with
  | none => .ok {}
  | some key =>
    let s := (o.last? key).getD []
    let signed := s.head? == some '-' || s.head? == some '+'
    match Numeral.scaled? (if signed then s.drop 1 else s) with
    | some count => .ok ⟨count, key == "c", s.head? == some other⟩
    | none =>
      .error ("invalid number of " ++ (if key == "c" then "bytes" else "lines") ++ ": " ++
        inQuotes s)

/-- Takes so many lines from the standard input, a block at a time. What has been taken and
is not wanted is put back if that can be done. -/
def takeLines (count : Nat) : Action Text := do
  let store ← Action.newPipe ({} : Pipe)
  Action.iterate Action.turnMax count fun missing => do
    if missing == 0 then return none
    let block ← Action.readBlock Action.chunkSize
    if block.isEmpty then return none
    let (taken, left) := firstLines missing [] block
    Action.changePipe store fun p => p.put taken
    Action.putBack (block.drop taken.length)
    return some left
  return (← Action.pipeAt store).content
where
  /-- The first lines of a text, and how many are missing. -/
  firstLines : Nat → List Char → Text → Text × Nat
    | 0, done, _ => (done.reverse, 0)
    | n, done, [] => (done.reverse, n)
    | n + 1, done, c :: s => firstLines (if c == '\n' then n else n + 1) (c :: done) s

/-- Whether titles are wanted before several files. -/
def titled (o : Options) : Bool :=
  match o.lastOf? ["q", "v"] with
  | some "q" => false
  | some _ => true
  | none => 1 < o.operands.length

/-- Prints the title of a file. -/
def title (first : Bool) (path : Text) : Action Unit := do
  Action.print ((if first then [] else ['\n']) ++ "==> ".toList ++
    (if path == ['-'] then "standard input".toList else path) ++ " <==\n".toList)

/-- Prints a part of each file, with titles if they are wanted. -/
def eachPart (name : Text) (o : Options) (part : Action Text) : Action Nat := do
  let mut status := 0
  let mut first := true
  for path in (if o.operands.isEmpty then [['-']] else o.operands) do
    let act : Action Unit := do
      if titled o then title first path
      Action.print (← part)
    match ← withInput path act with
    | .ok () => first := false
    | .error e =>
      if e == Errno.isDirectory && titled o then
        title first path
        first := false
      readingComplaint name path e
      status := 1
  return status

/-- The text without its last bytes or lines. -/
def Extent.withoutEnd (e : Extent) (s : Text) : Text :=
  if e.bytes then s.take (s.length - e.count)
  else
    let lines := endedLines s
    (lines.take (lines.length - e.count)).flatten

/-- The end of a text. -/
def Extent.ending (e : Extent) (s : Text) : Text :=
  if e.bytes then
    if e.fromOther then s.drop (e.count - 1) else s.drop (s.length - e.count)
  else
    let lines := endedLines s
    (if e.fromOther then lines.drop (e.count - 1) else lines.drop (lines.length - e.count)).flatten

/-- Prints the beginnings of files. -/
def head : Tool := fun name args =>
  withOptions "n/lines= c/bytes= q/quiet q/silent v/verbose z/zero-terminated" 1
    (fun name o => do
      match extentOf o '-' with
      | .error message => refuse name message 1
      | .ok e =>
        eachPart name o do
          if e.fromOther then return e.withoutEnd (← Action.readAll)
          else if e.bytes then Action.readUpTo e.count
          else takeLines e.count) name (modernCount args)

/-- Prints the ends of files. -/
def tail : Tool := fun name args =>
  withOptions ("n/lines= c/bytes= q/quiet q/silent v/verbose f/follow? F z/zero-terminated " ++
    "s= /pid= " ++
    "/retry") 1
    (fun name o => do
      match extentOf o '+' with
      | .error message => refuse name message 1
      | .ok e =>
        let status ← eachPart name o (return e.ending (← Action.readAll))
        if (o.has "f" || o.has "F") && !o.operands.isEmpty then Action.forever else return status)
    name (modernCount args)

/-- Prints the lines of files in reverse. -/
def tac : Tool := withOptions "b/before r/regex s/separator=" 1 fun name o => do
  let mut status := 0
  for path in (if o.operands.isEmpty then [['-']] else o.operands) do
    match ← withInput path Action.readAll with
    | .ok text => Action.print (endedLines text).reverse.flatten
    | .error e =>
      if e == Errno.isDirectory then fault name (shown path ++ ": read error: " ++ Errno.text e)
      else fault name ("failed to open " ++ inQuotes path ++ " for reading: " ++ Errno.text e)
      status := 1
  return status

/-! ### Lines with numbers -/

/-- How `nl` numbers lines. -/
structure Numbering where
  filledOnly : Bool
  none : Bool
  width : Nat
  between : Text
  format : String
  step : Int

/-- A number in its field. -/
def Numbering.field (s : Numbering) (n : Int) : Text :=
  let digits := showInteger n
  match s.format with
  | "ln" => padRight s.width digits
  | "rz" =>
    let sign := if n < 0 then ['-'] else []
    sign ++ digitsIn 10 (s.width - sign.length) '0' n.natAbs
  | _ => padLeft s.width digits

/-- Lines with their numbers, from a first number on. -/
def numberedLines (s : Numbering) : Int → List Text → List Text → List Text × Int
  | n, [], done => (done.reverse, n)
  | n, line :: rest, done =>
    if !s.none && (!s.filledOnly || !line.isEmpty) then
      numberedLines s (n + s.step) rest ((s.field n ++ s.between ++ line ++ ['\n']) :: done)
    else
      let blank := List.replicate (s.width + s.between.length) ' '
      numberedLines s n rest ((blank ++ line ++ ['\n']) :: done)

/-- Prints files with numbered lines. -/
def nl : Tool := withOptions ("b/body-numbering= d/section-delimiter= f/footer-numbering= " ++
    "h/header-numbering= i/line-increment= l/join-blank-lines= n/number-format= p/no-renumber " ++
    "s/number-separator= v/starting-line-number= w/number-width=") 1 fun name o => do
  let style := (o.last? "b").getD ['t']
  let number (key : String) (default : Int) := ((o.last? key).bind integer?).getD default
  let format := String.ofList ((o.last? "n").getD ['r', 'n'])
  if !(["a", "t", "n"].contains (String.ofList style)) && style.head? != some 'p' then
    misuse name ("invalid body numbering style: " ++ inQuotes style) 1
  else if !(["ln", "rn", "rz"].contains format) then
    misuse name ("invalid line numbering format: " ++ inQuotes format.toList) 1
  else
    let s : Numbering :=
      { filledOnly := style == ['t'], none := style == ['n'], width := (number "w" 6).toNat,
        between := (o.last? "s").getD ['\t'], format, step := number "i" 1 }
    let (text, status) ← readInputs o.operands (plainComplaint name)
    Action.print (numberedLines s (number "v" 1) (linesOf text) []).1.flatten
    return status

/-! ### Counting -/

/-- The numbers of lines, words and bytes of a text, and the length of its longest line. -/
structure Counts where
  lines : Nat := 0
  words : Nat := 0
  bytes : Nat := 0
  longest : Nat := 0
  /-- The length of the line that has begun, and whether a word has. -/
  length : Nat := 0
  inWord : Bool := false

namespace Counts

/-- Counts a character. -/
def next (k : Counts) (c : Char) : Counts :=
  let n := c.toNat
  let ends := c == '\n' || c == '\r' || n == 12
  let length :=
    if ends then 0 else if c == '\t' then k.length + (8 - k.length % 8)
    else if 32 ≤ n && n < 127 then k.length + 1 else k.length
  let inWord := !isSpace c
  { lines := if c == '\n' then k.lines + 1 else k.lines
    words := if inWord && !k.inWord then k.words + 1 else k.words
    bytes := k.bytes + 1
    longest := max k.longest length
    length
    inWord }

/-- The counts of a text. -/
def ofText (s : Text) : Counts :=
  s.foldl next {}

/-- The counts of two texts together. -/
def add (a b : Counts) : Counts :=
  ⟨a.lines + b.lines, a.words + b.words, a.bytes + b.bytes, max a.longest b.longest, 0, false⟩

end Counts

/-- The size of the file of a path: none if it cannot be found, 0 and false if it is no
file. -/
def sizeOf? (path : Text) : Action (Option (Nat × Bool)) := do
  if path == ['-'] then
    match ← Action.channel 0 with
    | some (.feed n) =>
      match (← Action.pipeAt n).fileSize with
      | some size => return some (size, true)
      | none => return some (0, false)
    | _ => return some (0, false)
  else
    match (← Action.disk).lookup (← Action.own).cwd (toBytes path) with
    | .ok (_, .file content _) => return some (content.length, true)
    | .ok _ => return some (0, false)
    | .error _ => return none

/-- The width of the counts of files. -/
def countWidth (paths : List Text) (single : Bool) : Action Nat := do
  if single then return 1
  let mut total := 0
  let mut least := 1
  for path in paths do
    match ← sizeOf? path with
    | some (size, true) => total := total + size
    | some (_, false) => least := 7
    | none => pure ()
  return max least (numeral total).length

/-- Counts the lines, words and bytes of files. -/
def wc : Tool := withOptions "l/lines w/words c/bytes m/chars L/max-line-length /total=" 1
    fun name o => do
  let wanted := ["l", "w", "m", "c", "L"].filter o.has
  let wanted := if wanted.isEmpty then ["l", "w", "c"] else wanted
  let paths := if o.operands.isEmpty then [['-']] else o.operands
  let width ← countWidth paths (wanted.length == 1 && paths.length == 1)
  let row (k : Counts) (label : Text) : Text :=
    let fields := wanted.map fun key => padLeft width (numeral (match key with
      | "l" => k.lines
      | "w" => k.words
      | "L" => k.longest
      | _ => k.bytes))
    [' '].intercalate (fields ++ if label.isEmpty then [] else [label]) ++ ['\n']
  let mut status := 0
  let mut total : Counts := {}
  for path in paths do
    let label := if o.operands.isEmpty then [] else path
    match ← withInput path Action.readAll with
    | .ok text =>
      let k := Counts.ofText text
      Action.print (row k label)
      total := total.add k
    | .error e =>
      plainComplaint name path e
      if e == Errno.isDirectory then Action.print (row {} label)
      status := 1
  if 1 < paths.length then Action.print (row total "total".toList)
  return status

/-! ### What is read, written to files too -/

/-- Prints what it reads and writes it to files. -/
def tee : Tool := withOptions "a/append i/ignore-interrupts p/output-error?" 1 fun name o => do
  let mut status := 0
  let mut channels : List (Text × Channel) := []
  for path in o.operands do
    match ← Action.openForWriting (o.has "a") path with
    | .error e =>
      plainComplaint name path e
      status := 1
    | .ok channel => channels := channels ++ [(path, channel)]
  let bad ← Action.newPipe ({} : Pipe)
  Action.change fun p =>
    { p with streams := p.streams ++ channels.zipIdx.map fun (c, i) => (100 + i, c.2) }
  Action.repeatTurns Action.turnMax do
    let chunk ← Action.readChunk
    Action.print chunk
    for ((path, _), i) in channels.zipIdx do
      if let some e ← Action.tryWrite (100 + i) chunk then
        if (← Action.pipeAt bad).size == 0 then plainComplaint name path e
        Action.changePipe bad fun p => { p with size := 1 }
    return !chunk.isEmpty
  return if (← Action.pipeAt bad).size == 0 then status else 1

end Tool
end Shell
end StressBench
