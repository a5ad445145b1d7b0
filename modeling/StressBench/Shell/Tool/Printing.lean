/-
# Tools that print their arguments

`echo` prints its arguments with blanks between them, `printf` by a format that is
used again as long as arguments are left. Each is a command of the shell and also a
program, and the two differ in the escapes that they know and in how they complain.

Key definitions: `Tool.escapeAt`, `Tool.unescape`, `Tool.shellEcho`, `Tool.echo`, `PrintStyle`,
`Tool.printWith`, `Tool.shellPrintf`, `Tool.printf`.
-/
import StressBench.Shell.Tool.Numeral

namespace StressBench
namespace Shell

/-! ### Escapes -/

namespace Tool

/-- The value of the digits of a base in front, at most so many, and how many there are. -/
def digitsWithin (base most : Nat) (s : Text) : Nat × Nat :=
  let digits := (s.take most).takeWhile fun c => (Arithmetic.digitValue? base c).isSome
  (digits.foldl (fun n c => n * base + (Arithmetic.digitValue? base c).getD 0) 0, digits.length)

/-- The character of the byte with a number. -/
def byteChar (n : Nat) : Char :=
  Char.ofNat (n % 256)

/-- The character that a letter after a backslash stands for. -/
def letterEscape? : Char → Option Char
  | 'a' => some (Char.ofNat 7)
  | 'b' => some (Char.ofNat 8)
  | 'e' => some (Char.ofNat 27)
  | 'f' => some (Char.ofNat 12)
  | 'n' => some '\n'
  | 'r' => some '\r'
  | 't' => some '\t'
  | 'v' => some (Char.ofNat 11)
  | '\\' => some '\\'
  | _ => none

/-- The characters that the text after a backslash stands for, and how many of it are
used up: a letter, or up to three octal digits. What makes no escape keeps its
backslash. -/
def escapeAt (s : Text) : Text × Nat :=
  match s.head?.bind letterEscape? with
  | some c => ([c], 1)
  | none =>
    let (value, n) := digitsWithin 8 3 s
    if n == 0 then (['\\'], 0) else ([byteChar value], n)

/-- As `escapeAt`, and up to two digits of base sixteen after an `x`. -/
def escapeWithHex (s : Text) : Text × Nat :=
  match s with
  | 'x' :: s =>
    let (value, n) := digitsWithin 16 2 s
    if n == 0 then (['\\'], 0) else ([byteChar value], n + 1)
  | s => escapeAt s

/-- The escape of a format, in which a number of a character may also be given, and a
quote. -/
def escapeInFormat (s : Text) : Text × Nat :=
  match s with
  | '"' :: _ => (['"'], 1)
  | 'u' :: s => code 4 s
  | 'U' :: s => code 8 s
  | s => escapeWithHex s
where
  /-- The character of a number of digits. -/
  code (most : Nat) (s : Text) : Text × Nat :=
    let (value, n) := digitsWithin 16 most s
    if n == 0 then (['\\'], 0) else (ofBytes (Utf8.encode [Char.ofNat value]), n + 1)

/-- A text with its escapes replaced, and whether it was broken off by `\c`. A number may
have a further zero in front. `done` holds what has been read, latest first. -/
def unescapeFrom (escape : Text → Text × Nat) : Nat → Text → Text → Text × Bool
  | 0, done, s => (done.reverse ++ s, false)
  | _, done, [] => (done.reverse, false)
  | n + 1, done, '\\' :: s =>
    match s with
    | 'c' :: _ => (done.reverse, true)
    | '0' :: s =>
      let (value, k) := digitsWithin 8 3 s
      unescapeFrom escape n (byteChar value :: done) (s.drop k)
    | s =>
      let (cs, k) := escape s
      unescapeFrom escape n (cs.reverse ++ done) (s.drop k)
  | n + 1, done, c :: s => unescapeFrom escape n (c :: done) s

/-- A text with its escapes replaced, and whether it was broken off by `\c`. -/
def unescape (escape : Text → Text × Nat) (s : Text) : Text × Bool :=
  unescapeFrom escape (s.length + 1) [] s

/-! ### Words with blanks between them -/

/-- Prints the arguments with blanks between them and a line end, which `-n` leaves out.
Escapes count. -/
def shellEcho : Tool := fun _ args => do
  let (ended, args) :=
    match args with
    | ['-', 'n'] :: rest => (false, rest)
    | args => (true, args)
  let (text, broken) := unescape escapeAt ([' '].intercalate args)
  Action.print (text ++ if ended && !broken then ['\n'] else [])
  return 0

/-- The letters at the beginning of the arguments of `echo`, and its other arguments. -/
def echoLetters : List Text → Text × List Text
  | ('-' :: c :: cs) :: rest =>
    if (c :: cs).all fun c => c == 'n' || c == 'e' || c == 'E' then
      let (letters, rest) := echoLetters rest
      (c :: cs ++ letters, rest)
    else ([], ('-' :: c :: cs) :: rest)
  | args => ([], args)

/-- Prints the arguments with blanks between them. Escapes count after `-e`. -/
def echo : Tool := fun _ args => do
  let (letters, args) := echoLetters args
  let text := [' '].intercalate args
  let escaped := (letters.filter fun c => c != 'n').getLast? == some 'e'
  let (text, broken) := if escaped then unescape escapeWithHex text else (text, false)
  Action.print (text ++ if letters.contains 'n' || broken then [] else ['\n'])
  return 0

end Tool

/-! ### Formats -/

/-- How a field of a format is laid out. -/
structure Layout where
  flags : Text := []
  width : Nat := 0
  precision : Option Nat := none

namespace Layout

/-- A text in a field. -/
def pad (l : Layout) (s : Text) : Text :=
  if l.flags.contains '-' then Tool.padRight l.width s else Tool.padLeft l.width s

/-- The sign in front of a number. -/
def sign (l : Layout) (negative : Bool) : Text :=
  if negative then ['-'] else if l.flags.contains '+' then ['+']
  else if l.flags.contains ' ' then [' '] else []

/-- A number with what stands in front of it, in a field that may be filled with zeros. -/
def padNumber (l : Layout) (zeros : Bool) (front digits : Text) : Text :=
  if l.flags.contains '0' && !l.flags.contains '-' && zeros then
    front ++ List.replicate (l.width - front.length - digits.length) '0' ++ digits
  else l.pad (front ++ digits)

/-- The digits of a whole number, as many as the precision asks for. -/
def digits (l : Layout) (base n : Nat) : Text :=
  let precision := l.precision.getD 1
  if n == 0 && precision == 0 then [] else Tool.digitsIn base precision '0' n

/-- A whole number with its sign. -/
def signed (l : Layout) (v : Int) : Text :=
  l.padNumber l.precision.isNone (l.sign (v < 0)) (l.digits 10 v.natAbs)

/-- A whole number without a sign, as a letter wants it. -/
def unsigned (l : Layout) (kind : Char) (n : Nat) : Text :=
  let base := if kind == 'o' then 8 else if kind == 'x' || kind == 'X' then 16 else 10
  let digits := l.digits base n
  let digits := if kind == 'X' then digits.map Char.toUpper else digits
  let marked := l.flags.contains '#' && n != 0
  let front := if marked && base == 16 then ['0', kind] else []
  let digits := if marked && base == 8 && digits.head? != some '0' then '0' :: digits else digits
  l.padNumber l.precision.isNone front digits

/-- A decimal number, as a letter wants it. -/
def real (l : Layout) (kind : Char) (negative : Bool) (q : Rat) : Text :=
  let places := l.precision.getD 6
  let full := l.flags.contains '#'
  let mark := if kind.isUpper then 'E' else 'e'
  let text :=
    match kind.toLower with
    | 'f' => Scientific.fixed places full q
    | 'e' => Scientific.exponential mark places full q
    | _ => Scientific.general mark places full q
  l.padNumber true (l.sign negative) text

end Layout

/-- How a `printf` reads its format and its arguments and how it complains. -/
structure PrintStyle where
  escape : Text → Text × Nat
  /-- The escapes in an argument for `%b`. -/
  argumentEscape : Text → Text × Nat
  /-- What is said of an argument that is no number, or is one only in part. -/
  noNumber : Text → Text
  partly : Text → Text
  /-- What is said of a directive that is none. -/
  badDirective : Text → Text
  /-- Whether an escape in a format may end it. -/
  stops : Bool
  /-- The significant bits of decimal numbers. -/
  bits : Nat

/-- What passes over a format have brought. -/
structure Pass where
  /-- The text so far, latest first. -/
  latest : Text := []
  args : List Text
  halted : Bool := false
  /-- What is to be complained of, latest first. -/
  faults : List Text := []
  /-- Whether the last complaint is about the format. -/
  broken : Bool := false
  /-- Whether an argument was asked for. -/
  used : Bool := false

namespace Pass

/-- Adds a text. -/
def add (p : Pass) (s : Text) : Pass :=
  { p with latest := s.reverse ++ p.latest }

/-- Adds a complaint. -/
def complain (p : Pass) (s : Text) : Pass :=
  { p with faults := s :: p.faults }

/-- Takes the next argument, if there is one. -/
def next (p : Pass) : Option Text × Pass :=
  (p.args.head?, { p with args := p.args.drop 1, used := true })

/-- Complains of what is left of an argument after its number. -/
def check (style : PrintStyle) (p : Pass) (arg rest : Text) : Pass :=
  if rest.isEmpty then p
  else p.complain (if rest.length == arg.length then style.noNumber arg else style.partly arg)

/-- The whole number of the next argument. A quote stands before a character whose number is
meant. -/
def integer (style : PrintStyle) (p : Pass) : Int × Pass :=
  let (arg, p) := p.next
  match arg.getD [] with
  | '\'' :: c :: _ | '"' :: c :: _ => (Int.ofNat c.toNat, p)
  | arg =>
    match Numeral.integerAt? arg with
    | some (v, rest) => (v, p.check style arg rest)
    | none => (0, p.check style arg arg)

/-- The decimal number of the next argument. -/
def real (style : PrintStyle) (p : Pass) : Rat × Pass :=
  let (arg, p) := p.next
  match arg.getD [] with
  | '\'' :: c :: _ | '"' :: c :: _ => ((c.toNat : Rat), p)
  | arg =>
    match Numeral.realAt? arg with
    | some (q, rest) => (q, p.check style arg rest)
    | none => (0, p.check style arg arg)

/-- The number of 64 bits that a whole number stands for. -/
def wrapped (v : Int) : Nat :=
  if v < 0 then (v + UInt64.size).toNat else v.toNat

/-- Puts the next argument into a field of a format. -/
def convert (style : PrintStyle) (p : Pass) (l : Layout) (kind : Char) : Pass :=
  match kind with
  | 's' =>
    let (arg, p) := p.next
    let arg := arg.getD []
    p.add (l.pad (match l.precision with | some k => arg.take k | none => arg))
  | 'b' =>
    let (arg, p) := p.next
    let (text, broken) := Tool.unescape style.argumentEscape (arg.getD [])
    let text := match l.precision with | some k => text.take k | none => text
    { p.add (l.pad text) with halted := broken }
  | 'c' =>
    let (arg, p) := p.next
    let c := (arg.getD []).headD (Char.ofNat 0)
    p.add (l.pad [c])
  | 'd' | 'i' =>
    let (v, p) := p.integer style
    p.add (l.signed v)
  | 'o' | 'u' | 'x' | 'X' =>
    let (v, p) := p.integer style
    p.add (l.unsigned kind (wrapped v))
  | _ =>
    let (q, p) := p.real style
    p.add (l.real kind (q < 0) (Scientific.withBits style.bits (if q < 0 then -q else q)))

/-- The letters of conversions. -/
def kinds : Text := "sbcdiouxXeEfFgG".toList

/-- A number in a format, or the next argument for a star. -/
def count (style : PrintStyle) (p : Pass) (s : Text) : Option Int × Text × Pass :=
  match s with
  | '*' :: s =>
    let (v, p) := p.integer style
    (some v, s, p)
  | s =>
    let digits := s.takeWhile Char.isDigit
    (if digits.isEmpty then none else some (Int.ofNat (digitsValue digits)), s.drop digits.length,
      p)

/-- One pass over a format. -/
def run (style : PrintStyle) : Nat → Text → Pass → Pass
  | 0, _, p | _, [], p => p
  | n + 1, '\\' :: s, p =>
    if style.stops && s.head? == some 'c' then { p with halted := true }
    else
      let (cs, k) := style.escape s
      run style n (s.drop k) (p.add cs)
  | n + 1, '%' :: '%' :: s, p => run style n s (p.add ['%'])
  | n + 1, '%' :: directive, p =>
    let flags := directive.takeWhile fun c => ['-', '+', ' ', '#', '0', '\''].contains c
    let (width, s, p) := p.count style (directive.drop flags.length)
    let (precision, s, p) :=
      match s with
      | '.' :: s =>
        let (precision, s, p) := p.count style s
        (some (precision.getD 0), s, p)
      | s => (none, s, p)
    let s := s.dropWhile fun c => style.bits == 64 && ['h', 'l', 'L', 'j', 'z', 't'].contains c
    match s with
    | [] =>
      { p.complain (style.badDirective ('%' :: directive)) with halted := true, broken := true }
    | kind :: rest =>
      if kinds.contains kind then
        let width := width.getD 0
        let flags := if width < 0 then '-' :: flags else flags
        let precision := precision.bind fun k => if k < 0 then none else some k.toNat
        let p := p.convert style ⟨flags, width.natAbs, precision⟩ kind
        if p.halted then p else run style n rest p
      else
        let written := '%' :: directive.take (directive.length - rest.length)
        { p.complain (style.badDirective written) with halted := true, broken := true }
  | n + 1, c :: s, p => run style n s (p.add [c])

/-- Passes over a format as long as arguments are left and are used up. -/
def repeated (style : PrintStyle) (format : Text) : Nat → Pass → Pass
  | 0, p => p
  | n + 1, p =>
    let before := p.args.length
    let p := run style (format.length + 1) format p
    if p.halted || p.args.isEmpty || p.args.length == before then p else repeated style format n p

end Pass

namespace Tool

/-- The style of the command of the shell. -/
def shellStyle : PrintStyle where
  escape := escapeAt
  argumentEscape := escapeAt
  noNumber := fun s => s ++ ": expected numeric value".toList
  partly := fun s => s ++ ": not completely converted".toList
  badDirective := fun s =>
    if s.getLast?.map Char.isAlpha == some true then s ++ ": invalid directive".toList
    else "missing format character".toList
  stops := false
  bits := 53

/-- The style of the program. -/
def programStyle : PrintStyle where
  escape := escapeInFormat
  argumentEscape := escapeWithHex
  noNumber := fun s => Action.encoded (inQuotes s ++ ": expected a numeric value")
  partly := fun s => Action.encoded (inQuotes s ++ ": value not completely converted")
  badDirective := fun s => s ++ ": invalid conversion specification".toList
  stops := true
  bits := 64

/-- All passes over a format. -/
def printWith (style : PrintStyle) (format : Text) (args : List Text) : Pass :=
  Pass.repeated style format (args.length + 1) { args }

/-- Prints the arguments by a format, as the shell does. -/
def shellPrintf : Tool := fun _ args => do
  match (if args.head? == some ['-', '-'] then args.drop 1 else args) with
  | [] => giveUp "usage: printf format [arg ...]"
  | format :: args =>
    let p := printWith shellStyle format args
    for fault in (if p.broken then p.faults.drop 1 else p.faults).reverse do
      complainWith fault
    Action.print p.latest.reverse
    if p.broken then giveUpWith (p.faults.headD [])
    return if p.faults.isEmpty then 0 else 1

/-- Prints the arguments by a format. -/
def printf : Tool := fun name args => do
  match (if args.head? == some ['-', '-'] then args.drop 1 else args) with
  | [] => missingOperand name "operand"
  | format :: args =>
    let p := printWith programStyle format args
    for fault in p.faults.reverse do
      Action.write 2 (name ++ [':', ' '] ++ fault ++ ['\n'])
    Action.print p.latest.reverse
    if !p.used && !args.isEmpty && !p.halted then
      fault name ("warning: ignoring excess arguments, starting with " ++ inQuotes (args.headD []))
    return if p.faults.isEmpty then 0 else 1

end Tool
end Shell
end StressBench
