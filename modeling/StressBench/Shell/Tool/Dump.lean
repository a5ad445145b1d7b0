/-
# Bytes as numbers

`od` writes bytes as numbers or characters, sixteen in a row, `cmp` finds the first byte in
which two files differ, and `base64` and `base32` write bytes in letters and read them back.

Key definitions: `ByteFormat`, `DumpPlan`, `Tool.od`, `Tool.cmp`, `Tool.base64`.
-/
import StressBench.Shell.Tool.Reading

namespace StressBench
namespace Shell

/-! ### Rows of bytes -/

/-- How `od` writes bytes: so many together as a number of some kind, or one as a
character. -/
structure ByteFormat where
  kind : Char
  size : Nat
  deriving DecidableEq, Repr

namespace ByteFormat

/-- The format of a letter and a size. -/
def of (kind : Char) (size : Text) : Option ByteFormat :=
  let bytes : Option Nat :=
    match size with
    | [] => some 4
    | ['C'] => some 1
    | ['S'] => some 2
    | ['I'] => some 4
    | ['L'] => some 8
    | digits => natural? digits
  if kind == 'a' || kind == 'c' then (if size.isEmpty then some ⟨kind, 1⟩ else none)
  else if ['d', 'o', 'u', 'x'].contains kind then
    bytes.bind fun n => if [1, 2, 4, 8].contains n then some ⟨kind, n⟩ else none
  else none

/-- The formats that the text after `-t` asks for. -/
def listOf : Nat → Text → Option (List ByteFormat)
  | _, [] => some []
  | 0, _ => none
  | n + 1, kind :: s =>
    let size :=
      match s with
      | c :: _ => if ['C', 'S', 'I', 'L'].contains c && kind != 'a' && kind != 'c' then [c]
          else s.takeWhile Char.isDigit
      | [] => []
    let rest := (s.drop size.length).dropWhile (· == 'z')
    match of kind size with
    | some f => (listOf n rest).map (f :: ·)
    | none => none

/-- The width of a number. -/
def width (f : ByteFormat) : Nat :=
  match f.kind, f.size with
  | 'a', _ | 'c', _ => 3
  | 'x', n => 2 * n
  | 'o', 1 => 3
  | 'o', 2 => 6
  | 'o', 4 => 11
  | 'o', _ => 22
  | 'u', 1 => 3
  | 'u', 2 => 5
  | 'u', 4 => 10
  | 'u', _ => 20
  | _, 1 => 4
  | _, 2 => 6
  | _, 4 => 11
  | _, _ => 20

/-- A byte as a character or as an escape. -/
def characterText (c : Char) : Text :=
  match c.toNat with
  | 0 => ['\\', '0']
  | 7 => ['\\', 'a']
  | 8 => ['\\', 'b']
  | 9 => ['\\', 't']
  | 10 => ['\\', 'n']
  | 11 => ['\\', 'v']
  | 12 => ['\\', 'f']
  | 13 => ['\\', 'r']
  | n => if 32 ≤ n && n < 127 then [c] else Tool.digitsIn 8 3 '0' n

/-- The names of the characters that have no form. -/
def controlNames : List String :=
  ["nul", "soh", "stx", "etx", "eot", "enq", "ack", "bel", "bs", "ht", "nl", "vt", "ff", "cr", "so",
    "si", "dle", "dc1", "dc2", "dc3", "dc4", "nak", "syn", "etb", "can", "em", "sub", "esc", "fs",
      "gs",
    "rs", "us", "sp"]

/-- A byte by its name, of which the highest bit does not count. -/
def nameText (c : Char) : Text :=
  let n := c.toNat % 128
  if n == 127 then "del".toList
  else match controlNames[n]? with
    | some s => s.toList
    | none => [Char.ofNat n]

/-- Some bytes in a format. The first byte of a number is its lowest. -/
def text (f : ByteFormat) (s : Text) : Text :=
  let n := s.reverse.foldl (fun n c => n * 256 + c.toNat) 0
  match f.kind with
  | 'a' => nameText (s.headD ' ')
  | 'c' => characterText (s.headD ' ')
  | 'x' => Tool.digitsIn 16 f.width '0' n
  | 'o' => Tool.digitsIn 8 f.width '0' n
  | 'u' => numeral n
  | _ =>
    let half := 1 <<< (8 * f.size - 1)
    showInteger (if half ≤ n then (n : Int) - 2 * half else n)

/-- The fields of a row in a format, spread over a width. -/
def row (f : ByteFormat) (perRow total : Nat) (s : Text) : Text :=
  let fields := perRow / f.size
  let slack := total - f.width * fields
  let cells := Tool.piecesOf f.size s
  cells.zipIdx.flatMap fun (cell, i) =>
    let before := slack * (fields - i) / fields
    let after := slack * (fields - i - 1) / fields
    let padded := cell ++ List.replicate (f.size - cell.length) (Char.ofNat 0)
    Tool.padLeft (before - after + f.width) (f.text padded)

end ByteFormat

/-- What a dump is to look like. -/
structure DumpPlan where
  address : Char
  formats : List ByteFormat
  verbose : Bool
  perRow : Nat
  offset : Nat

namespace DumpPlan

/-- The address of a row. -/
def place (p : DumpPlan) (n : Nat) : Text :=
  match p.address with
  | 'n' => []
  | 'x' => Tool.digitsIn 16 6 '0' n
  | 'd' => Tool.digitsIn 10 7 '0' n
  | _ => Tool.digitsIn 8 7 '0' n

/-- The lines of one row. -/
def lines (p : DumpPlan) (n : Nat) (row : Text) : Text :=
  let total := p.formats.foldl (fun w f => max w ((f.width + 1) * (p.perRow / f.size))) 0
  let margin := List.replicate (p.place 0).length ' '
  p.formats.zipIdx.flatMap fun (f, i) =>
    (if i == 0 then p.place n else margin) ++ f.row p.perRow total row ++ ['\n']

/-- The rows of a dump. A row like the one before is shown by a star, and several of them
by one. -/
def rows (p : DumpPlan) (s : Text) : Text :=
  let rows := Tool.piecesOf p.perRow s
  let (text, count, _, _) := rows.foldl
    (fun (state : List Text × Nat × Option Text × Bool) row =>
      let (done, n, previous, starred) := state
      let next := n + row.length
      if !p.verbose && previous == some row && row.length == p.perRow then
        (if starred then done else ['*', '\n'] :: done, next, previous, true)
      else (p.lines n row :: done, next, some row, false))
    ([], p.offset, none, false)
  text.reverse.flatten ++ if p.address == 'n' then [] else p.place count ++ ['\n']

end DumpPlan

namespace Tool

/-- The formats that the options ask for, in order. -/
def formatsOf (o : Options) : Except String (List ByteFormat) := do
  let mut formats : List ByteFormat := []
  for (key, s) in o.given do
    match key with
    | "t" =>
      match ByteFormat.listOf (s.length + 1) s with
      | some fs => formats := formats ++ fs
      | none => throw ("invalid type string " ++ inQuotes s)
    | "a" => formats := formats ++ [⟨'a', 1⟩]
    | "b" => formats := formats ++ [⟨'o', 1⟩]
    | "c" => formats := formats ++ [⟨'c', 1⟩]
    | "d" => formats := formats ++ [⟨'u', 2⟩]
    | "i" => formats := formats ++ [⟨'d', 4⟩]
    | "l" => formats := formats ++ [⟨'d', 8⟩]
    | "o" => formats := formats ++ [⟨'o', 2⟩]
    | "s" => formats := formats ++ [⟨'d', 2⟩]
    | "x" => formats := formats ++ [⟨'x', 2⟩]
    | _ => pure ()
  return if formats.isEmpty then [⟨'o', 2⟩] else formats

/-- Writes the bytes of files as numbers. -/
def od : Tool := withOptions ("A/address-radix= j/skip-bytes= N/read-bytes= t/format= " ++
    "v/output-duplicates w/width? a b c d i l o s x /endian= S/strings?") 1 fun name o => do
  match formatsOf o with
  | .error message => refuse name message 1
  | .ok formats =>
    let number (key : String) := (o.last? key).bind Numeral.scaled?
    let width :=
      match o.last? "w" with
      | none => 16
      | some [] => 32
      | some s => (natural? s).getD 16
    let address := (o.last? "A").getD ['o']
    if !(["d", "o", "x", "n"].contains (String.ofList address)) then
      refuse name ("invalid output address radix '" ++ shown (address.take 1) ++
        "'; it must be one character from [doxn]") 1
    else
      let mut chunks : List Text := []
      let mut status := 0
      for path in (if o.operands.isEmpty then [['-']] else o.operands) do
        let act :=
          match number "N" with
          | some n => Action.readUpTo (n + (number "j").getD 0)
          | none => Action.readAll
        match ← withInput path act with
        | .ok text => chunks := text :: chunks
        | .error e =>
          plainComplaint name path e
          status := 1
      let skip := (number "j").getD 0
      let text := chunks.reverse.flatten.drop skip
      let text := match number "N" with | some n => text.take n | none => text
      let plan : DumpPlan := ⟨address.headD 'o', formats, o.has "v", max 1 width, skip⟩
      Action.print (plan.rows text)
      return status

/-! ### Differing bytes -/

/-- The number of the first byte in which two texts differ, and the line it is in; none if one
begins with the other. -/
def firstDifference (s t : Text) : Option (Nat × Nat × Char × Char) :=
  go 1 1 s t
where
  /-- Goes on from a byte in a line. -/
  go (byte line : Nat) : Text → Text → Option (Nat × Nat × Char × Char)
    | a :: s, b :: t =>
      if a == b then go (byte + 1) (if a == '\n' then line + 1 else line) s t
      else some (byte, line, a, b)
    | _, _ => none

/-- Compares two files byte by byte. -/
def cmp : Tool :=
  withOptions "b/print-bytes l/verbose s/quiet s/silent n/bytes= i/ignore-initial=" 2
    fun name o => do
  match o.operands with
  | [] => misuse name ("missing operand after " ++ inQuotes name) 2
  | paths =>
    let paths := if paths.length == 1 then paths ++ [['-']] else paths.take 2
    let mut texts : List Text := []
    for path in paths do
      match ← withInput path Action.readAll with
      | .ok text => texts := texts ++ [text]
      | .error e =>
        plainComplaint name path e
        return 2
    let limit (s : Text) :=
      match (o.last? "n").bind Numeral.scaled? with
      | some n => s.take n
      | none => s
    let skip := ((o.last? "i").bind Numeral.scaled?).getD 0
    let a := limit ((texts[0]?.getD []).drop skip)
    let b := limit ((texts[1]?.getD []).drop skip)
    let (p, q) := (shown (paths[0]?.getD []), shown (paths[1]?.getD []))
    let shorter := if a.length < b.length then (a, p) else (b, q)
    let atEnd : Action Nat := do
      if a.length == b.length then return 0
      unless o.has "s" do
        let n := shorter.1.length
        let lines := shorter.1.count '\n'
        let place :=
          if n == 0 then "which is empty"
          else
            "after byte " ++ toString n ++
              if o.has "l" then ""
              else if shorter.1.getLast? == some '\n' then ", line " ++ toString lines
              else ", in line " ++ toString (lines + 1)
        fault name ("EOF on " ++ shorter.2 ++ " " ++ place)
      return 1
    if o.has "l" then
      let pairs := (a.zip b).zipIdx.filter fun (p, _) => p.1 != p.2
      let width := (numeral (max a.length b.length)).length
      Action.print (pairs.flatMap fun ((x, y), i) =>
        padLeft width (numeral (i + 1)) ++ ' ' :: digitsIn 8 3 ' ' x.toNat ++ ' ' ::
          digitsIn 8 3 ' ' y.toNat ++ ['\n'])
      let status ← atEnd
      return if pairs.isEmpty then status else 1
    else
      match firstDifference a b with
      | none => atEnd
      | some (byte, line, x, y) =>
        unless o.has "s" do
          let bytes :=
            if o.has "b" then
              " is " ++ String.ofList (digitsIn 8 3 ' ' x.toNat) ++ " " ++ shown (visible true x) ++
                " " ++ String.ofList (digitsIn 8 3 ' ' y.toNat) ++ " " ++ shown (visible true y)
            else ""
          let unit := if o.has "b" then "byte" else "byte"
          Action.printLine (Action.encoded (p ++ " " ++ q ++ " differ: " ++ unit ++ " " ++
            toString byte ++ ", line " ++ toString line ++ bytes))
        return 1

/-! ### Bytes in letters -/

/-- The letters of numbers of six bits. -/
def letters64 : Array Char :=
  "ABCDEFGHIJKLMNOPQRSTUVWXYZabcdefghijklmnopqrstuvwxyz0123456789+/".toList.toArray

/-- The letters of numbers of five bits. -/
def letters32 : Array Char :=
  "ABCDEFGHIJKLMNOPQRSTUVWXYZ234567".toList.toArray

/-- Bytes in letters of so many bits, in groups that are filled up. -/
def lettered (table : Array Char) (bits group : Nat) (s : Text) : Text :=
  let perGroup := group * bits / 8
  (piecesOf perGroup s).flatMap fun piece =>
    let value := piece.foldl (fun n c => n * 256 + c.toNat) 0 <<< (8 * (perGroup - piece.length))
    let used := (8 * piece.length + bits - 1) / bits
    (List.range group).map fun i =>
      if i < used then
        table[(value >>> (bits * (group - 1 - i))) % (1 <<< bits)]?.getD '='
      else '='

/-- The bytes that letters write, and whether all of them were letters. -/
def unlettered (table : Array Char) (bits group : Nat) (s : Text) : Text × Bool :=
  let perGroup := group * bits / 8
  let pieces := piecesOf group s
  let read := pieces.map fun piece =>
    let body := piece.takeWhile (· != '=')
    let values := body.map fun c => table.toList.idxOf? c
    let value := (values.foldl (fun n v => (n <<< bits) + v.getD 0) 0) <<<
      (bits * (group - body.length))
    let used := bits * body.length / 8
    let bytes := (List.range used).map fun i =>
      Char.ofNat ((value >>> (8 * (perGroup - 1 - i))) % 256)
    (bytes, values.all Option.isSome && piece.length == group)
  (read.flatMap Prod.fst, read.all Prod.snd)

/-- Writes bytes in letters, or with `-d` reads them back. -/
def inLetters (table : Array Char) (bits group : Nat) : Tool :=
  withOptions "d/decode i/ignore-garbage w/wrap=" 1 fun name o => do
    match o.operands with
    | _ :: extra :: _ => extraOperand name extra
    | operands =>
      match ← withInput (operands.headD ['-']) Action.readAll with
      | .error e =>
        if e == Errno.isDirectory then fault name ("read error: " ++ Errno.text e)
        else plainComplaint name (operands.headD []) e
        return 1
      | .ok text =>
        if o.has "d" then
          let s := text.filter fun c =>
            c != '\n' && (!o.has "i" || c == '=' || table.contains c)
          let (bytes, whole) := unlettered table bits group s
          Action.print bytes
          if whole then return 0 else refuse name "invalid input" 1
        else
          let written := lettered table bits group text
          match ((o.last? "w").map natural?).getD (some 76) with
          | none =>
            return (← refuse name ("invalid wrap size: " ++ inQuotes ((o.last? "w").getD [])) 1)
          | some 0 => Action.print written
          | some width => Action.print ((piecesOf width written).flatMap (· ++ ['\n']))
          return 0

/-- Bytes in letters of six bits. -/
def base64 : Tool := inLetters letters64 6 4

/-- Bytes in letters of five bits. -/
def base32 : Tool := inLetters letters32 5 8

end Tool
end Shell
end StressBench
