/-
# Tools that work with blocks and parts

`dd` copies blocks of bytes from one file to another, `split` puts the parts of a file into
files of their own, and `tty` and `uname` tell of the terminal and the system.

Key definitions: `BlockCopy`, `Tool.dd`, `Tool.suffix`, `Tool.split`, `Tool.uname`, `Tool.tty`.
-/
import StressBench.Shell.Tool.Numeral
import StressBench.Shell.Tool.Options

namespace StressBench
namespace Shell

/-! ### Blocks -/

/-- How blocks are copied. -/
structure BlockCopy where
  input : Option Text := none
  output : Option Text := none
  readSize : Nat := 512
  writeSize : Nat := 512
  count : Option Nat := none
  skip : Nat := 0
  seek : Nat := 0
  conversions : List Text := []
  status : Text := []
  deriving DecidableEq, Repr

namespace BlockCopy

/-- The conversions there are. -/
def known : List String :=
  ["ucase", "lcase", "notrunc", "sync", "noerror", "fsync", "fdatasync", "excl", "nocreat", "swab"]

/-- A number, which may be a product. -/
def product? (s : Text) : Option Nat :=
  ((s.splitOnP (· == 'x')).map Numeral.scaled?).foldl
    (fun a b => a.bind fun m => b.map fun n => m * n) (some 1)

/-- The copy with one more setting; what is wrong with it, and whether more is said of that. -/
def adding (b : BlockCopy) (arg : Text) : Except (String × Bool) BlockCopy :=
  let key := arg.takeWhile (· != '=')
  let value := arg.drop (key.length + 1)
  let number (f : Nat → BlockCopy) : Except (String × Bool) BlockCopy :=
    match product? value with
    | some n => .ok (f n)
    | none => .error ("invalid number: " ++ Tool.inQuotes value, false)
  if key.length == arg.length then .error ("unrecognized operand " ++ Tool.inQuotes arg, true)
  else
    match String.ofList key with
    | "if" => .ok { b with input := some value }
    | "of" => .ok { b with output := some value }
    | "bs" => number fun n => { b with readSize := n, writeSize := n }
    | "ibs" => number fun n => { b with readSize := n }
    | "obs" => number fun n => { b with writeSize := n }
    | "count" => number fun n => { b with count := some n }
    | "skip" => number fun n => { b with skip := n }
    | "seek" => number fun n => { b with seek := n }
    | "status" => .ok { b with status := value }
    | "iflag" | "oflag" => .ok b
    | "conv" =>
      let names := value.splitOnP (· == ',')
      match names.find? fun n => !known.contains (String.ofList n) with
      | some n => .error ("invalid conversion: " ++ Tool.inQuotes n, true)
      | none => .ok { b with conversions := b.conversions ++ names }
    | _ => .error ("unrecognized operand " ++ Tool.inQuotes arg, true)

/-- All settings. -/
def ofArgs : BlockCopy → List Text → Except (String × Bool) BlockCopy
  | b, [] => .ok b
  | b, a :: rest =>
    match b.adding a with
    | .error e => .error e
    | .ok b => ofArgs b rest

/-- Whether a conversion is wanted. -/
def has (b : BlockCopy) (name : String) : Bool :=
  b.conversions.contains name.toList

/-- Two bytes each in the other order. -/
def swapped : Text → Text
  | a :: b :: s => b :: a :: swapped s
  | s => s

/-- A block after conversions. -/
def converted (b : BlockCopy) (s : Text) : Text :=
  let s := if b.has "swab" then swapped s else s
  let s := if b.has "ucase" then s.map Char.toUpper else s
  let s := if b.has "lcase" then s.map Char.toLower else s
  if b.has "sync" then s ++ List.replicate (b.readSize - s.length) (Char.ofNat 0) else s

end BlockCopy

namespace Tool

/-- How many blocks have been read in full and in part, and how many bytes have been written. -/
structure BlockCount where
  full : Nat := 0
  partly : Nat := 0
  bytes : Nat := 0

/-- A file before and behind what is written to it. -/
def keptAround (b : BlockCopy) (path : Text) : Action (Text × Text) := do
  let start := b.seek * b.writeSize
  match (← Action.disk).lookup (← Action.own).cwd (toBytes path) with
  | .ok (_, .file content _) =>
    let old := ofBytes content
    let front := old.take start
    return (front ++ List.replicate (start - front.length) (Char.ofNat 0), old.drop start)
  | _ => return (List.replicate start (Char.ofNat 0), [])

/-- Copies blocks from the standard input to the standard output. -/
def copyBlocks (b : BlockCopy) : Action BlockCount := do
  discard (Action.readUpTo (b.skip * b.readSize))
  Action.loop Action.turnMax ({} : BlockCount) fun k => do
    if b.count == some (k.full + k.partly) then return .inr k
    else
      let block ← Action.readBlock b.readSize
      if block.isEmpty then return .inr k
      else
        let text := b.converted block
        Action.print text
        let k := { k with bytes := k.bytes + text.length }
        return .inl
          (if block.length == b.readSize then { k with full := k.full + 1 }
          else { k with partly := k.partly + 1 })

/-- Tells how much has been copied. -/
def tellCount (b : BlockCopy) (k : BlockCount) : Action Unit := do
  if b.status != "none".toList then
    let full := k.bytes / b.writeSize
    let partly := if b.readSize == b.writeSize then k.partly
      else if k.bytes % b.writeSize == 0 then 0 else 1
    let full := if b.readSize == b.writeSize then k.full else full
    let records (full partly : Nat) (way : String) : String :=
      toString full ++ "+" ++ toString partly ++ " records " ++ way ++ "\n"
    Action.write 2 (Action.encoded (records k.full k.partly "in" ++ records full partly "out"))
    if b.status != "noxfer".toList then
      Action.write 2 (Action.encoded
        (toString k.bytes ++ (if k.bytes == 1 then " byte" else " bytes") ++
        " copied, 0.0001 s, " ++ toString (k.bytes / 100) ++ "." ++ toString (k.bytes / 10 % 10) ++
        " MB/s\n"))

/-- Copies blocks of bytes. -/
def dd : Tool := fun name args => do
  match BlockCopy.ofArgs {} args with
  | .error (message, more) => if more then misuse name message 1 else refuse name message 1
  | .ok b =>
    if b.readSize == 0 || b.writeSize == 0 then refuse name ("invalid number: " ++ inQuotes ['0']) 1
    else
      let failed (path : Text) (e : Nat) : Action Nat := do
        withWords name "failed to open" path e
        return 1
      let source : Except (Text × Nat) (Option Channel) ← match b.input with
        | none => pure (.ok none)
        | some path => do
          match ← Action.openForReading path with
          | .ok channel => pure (.ok (some channel))
          | .error e => pure (.error (path, e))
      match source with
      | .error (path, e) => failed path e
      | .ok source =>
        let fed (s : Streams) : Streams := (source.map fun c => Action.led 0 c s).getD s
        match b.output with
        | none =>
          let k ← Action.withStreams fed (copyBlocks b)
          tellCount b k
          return 0
        | some path =>
          let (front, back) ← keptAround b path
          match ← Action.openForWriting false path with
          | .error e => failed path e
          | .ok channel =>
            let k ← Action.withStreams (fun s => Action.led 1 channel (fed s)) do
              Action.print front
              let k ← copyBlocks b
              if b.has "notrunc" then Action.print (back.drop k.bytes)
              return k
            tellCount b k
            return 0

/-! ### Parts -/

/-- The ending of the name of a part: so many letters, or digits. -/
def suffix (digits : Bool) : Nat → Nat → Text
  | 0, _ => []
  | k + 1, n =>
    let base := if digits then 10 else 26
    let first := if digits then '0' else 'a'
    suffix digits k (n / base) ++ [Char.ofNat (first.toNat + n % base)]

/-- Puts the parts of a file into files of their own. -/
def split : Tool := withOptions ("l/lines= b/bytes= n/number= d a/suffix-length= " ++
    "/additional-suffix= /numeric-suffixes? e/elide-empty-files /verbose") 1 fun name o => do
  let number (key : String) (what : String) (other : Nat) : Except String Nat :=
    match o.last? key with
    | none => .ok other
    | some s =>
      match Numeral.scaled? s with
      | some 0 | none => .error ("invalid number of " ++ what ++ ": " ++ inQuotes s)
      | some n => .ok n
  match number "l" "lines" 1000, number "b" "bytes" 0, number "n" "chunks" 0 with
  | .error message, _, _ | _, .error message, _ | _, _, .error message => refuse name message 1
  | .ok lines, .ok bytes, .ok chunks =>
    let path := o.operands.headD ['-']
    let front := (o.operands.drop 1).headD ['x']
    match ← withInput path Action.readAll with
    | .error e =>
      fault name
        (if e == Errno.isDirectory then shown path ++ ": read error: " ++ Errno.text e
        else "cannot open " ++ inQuotes path ++ " for reading: " ++ Errno.text e)
      return 1
    | .ok text =>
      let pieces :=
        if bytes != 0 then piecesOf bytes text
        else if chunks != 0 then
          let size := text.length / chunks
          (List.range chunks).map fun i =>
            if i + 1 == chunks then text.drop (i * size) else (text.drop (i * size)).take size
        else (piecesOf lines (endedPieces text)).map List.flatten
      let width := ((o.last? "a").bind natural?).getD 2
      let ending := (o.last? "additional-suffix").getD []
      for (piece, i) in pieces.zipIdx do
        let target := front ++ suffix (o.has "d" || o.has "numeric-suffixes") width i ++ ending
        match ← Action.openForWriting false target with
        | .error e =>
          plainComplaint name target e
          return 1
        | .ok channel =>
          if o.has "verbose" then
            Action.printLine ("creating file ".toList ++ (inQuotes target).toList)
          Action.withStreams (Action.led 1 channel) (Action.print piece)
      return 0
where
  /-- The lines of a text with their ends. -/
  endedPieces (s : Text) : List Text :=
    let pieces := s.splitOnP (· == '\n')
    pieces.dropLast.map (· ++ ['\n']) ++ pieces.getLast?.toList.filter (!·.isEmpty)

/-! ### The system -/

/-- Tells of the system. -/
def uname : Tool := withOptions
    ("a/all s/kernel-name n/nodename r/kernel-release v/kernel-version " ++
    "m/machine p/processor i/hardware-platform o/operating-system") 1 fun name o => do
  match o.operands with
  | operand :: _ => extraOperand name operand
  | [] =>
    let told : List (String × String) :=
      [("s", "Linux"), ("n", "localhost"), ("r", "6.1.0"), ("v", "#1 SMP"), ("m", "x86_64"),
        ("o", "GNU/Linux")]
    let wanted := told.filter fun p => o.has p.1 || o.has "a"
    let shownParts := if o.given.isEmpty then ["Linux"] else wanted.map Prod.snd
    Action.printLine (" ".intercalate shownParts).toList
    return 0

/-- Tells the terminal, which there is not. -/
def tty : Tool := withOptions "s/silent /quiet" 2 fun name o => do
  match o.operands with
  | operand :: _ => misuse name ("extra operand " ++ inQuotes operand) 2
  | [] =>
    unless o.has "s" || o.has "quiet" do Action.printLine "not a tty".toList
    return 1

end Tool
end Shell
end StressBench
