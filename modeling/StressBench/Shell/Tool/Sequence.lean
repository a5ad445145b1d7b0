/-
# Tools that print without end or by counting

`seq` counts from one number to another by steps and prints the decimal numbers it
passes, each with as many places as the first number or the step is written with.
`yes` prints a line for ever.

Key definitions: `Bound`, `Bound.ofText?`, `Progression`, `Progression.values`, `Tool.seq`,
`Tool.yes`.
-/
import StressBench.Shell.Tool.Options
import StressBench.Shell.Tool.Printing

namespace StressBench
namespace Shell

/-! ### Numbers to count by -/

/-- A number to count by: its value, the number of its places unless it is written in
base sixteen with a point, and the width that it takes. -/
structure Bound where
  value : Rat
  places : Option Nat
  width : Int

namespace Bound

/-- The shape of a decimal numeral: its places and its width when it is written out. -/
def shapeOf (s : Text) : Nat × Int :=
  let isMark (c : Char) := c == 'e' || c == 'E'
  let mantissa := s.takeWhile (!isMark ·)
  let whole := mantissa.takeWhile (· != '.')
  let pointed := whole.length < mantissa.length
  let fraction := (mantissa.drop (whole.length + 1)).length
  let bare := !((whole.getLast?.map Char.isDigit).getD false)
  let pointWidth : Int :=
    if !pointed then 0 else if fraction == 0 then -1 else if bare then 1 else 0
  let width : Int := mantissa.length + pointWidth
  if mantissa.length == s.length then (fraction, width)
  else
    let exponent := (Scientific.exponentAt (s.drop mantissa.length)).1
    if exponent < 0 then
      let extra : Int := if pointed && fraction != 0 then 0 else 1
      (fraction + exponent.natAbs, width + extra + exponent.natAbs)
    else
      let moved := min fraction exponent.natAbs
      let places := fraction - moved
      let extra : Int := if pointed && places == 0 && fraction != 0 then -1 else 0
      (places, width + extra + (exponent.natAbs - moved : Nat))

/-- The number that a text writes. -/
def ofText? (s : Text) : Option Bound :=
  let s := s.dropWhile fun c => Tool.isSpace c || c == '+'
  match Numeral.realAt? s with
  | some (value, []) =>
    if s.any fun c => c == 'x' || c == 'X' then
      some ⟨value, if s.any fun c => c == '.' || c == 'p' then none else some 0, 0⟩
    else
      let (places, width) := shapeOf s
      some ⟨value, some places, width⟩
  | _ => none

end Bound

/-! ### Counting -/

/-- A way from one number to another, by steps, and how a number is written. -/
structure Progression where
  first : Rat
  step : Rat
  last : Rat
  write : Rat → Text

namespace Progression

/-- The number of a step, unless it lies behind the last. -/
def value? (p : Progression) (i : Nat) : Option Rat :=
  let x := p.first + (i : Rat) * p.step
  if (if p.step < 0 then x < p.last else p.last < x) then none else some x

/-- Numbers in turn, at most so many, from one of them on. -/
def values (p : Progression) (i count : Nat) : List Rat :=
  (List.range count).filterMap fun k => p.value? (i + k)

/-- A number with a number of places, behind zeros up to a width. -/
def written (places : Nat) (width : Int) (x : Rat) : Text :=
  let sign := if x < 0 then ['-'] else []
  let digits := Scientific.fixed places false (if x < 0 then -x else x)
  sign ++ List.replicate (width.toNat - sign.length - digits.length) '0' ++ digits

/-- How numbers between two are written: with the places of the first and of the step, and
with the same width if that is wanted. -/
def style (equal : Bool) (first step last : Bound) : Rat → Text :=
  match first.places, step.places, last.places with
  | some a, some b, some c =>
    let places := max a b
    let point (own : Nat) : Int := if own == 0 && places != 0 then 1 else 0
    let firstWidth := first.width + (places - a : Nat) + point a
    let lastWidth := last.width + places - c + point c - (if c != 0 && places == 0 then 1 else 0)
    written places (if equal then max firstWidth lastWidth else 0)
  | _, _, _ => fun x => (({} : Layout).real 'g' (x < 0) (if x < 0 then -x else x))

end Progression

/-! ### Formats -/

/-- Reads a format with one directive for a decimal number, and gives how it writes one. -/
def realFormat? (format : Text) : Except String (Rat → Text) :=
  let quoted := Tool.inQuotes format
  match pieceBefore (format.length + 1) [] format with
  | (_, []) => .error ("format " ++ quoted ++ " has no % directive")
  | (before, s) =>
    let flags := s.takeWhile fun c => ['-', '+', '#', '0', ' ', '\''].contains c
    let s := s.drop flags.length
    let width := s.takeWhile Char.isDigit
    let s := s.drop width.length
    let (precision, s) :=
      match s with
      | '.' :: s => (some (digitsValue (s.takeWhile Char.isDigit)), s.dropWhile Char.isDigit)
      | s => (none, s)
    let s := if s.head? == some 'L' then s.drop 1 else s
    match s with
    | [] => .error ("format " ++ quoted ++ " ends in %")
    | kind :: s =>
      if !"efgEFG".toList.contains kind then
        .error ("format " ++ quoted ++ " has unknown %" ++ kind.toString ++ " directive")
      else
        match pieceBefore (s.length + 1) [] s with
        | (_, _ :: _) => .error ("format " ++ quoted ++ " has too many % directives")
        | (after, []) =>
          let layout : Layout := ⟨flags, digitsValue width, precision⟩
          .ok fun x =>
            let size := Scientific.withBits 64 (if x < 0 then -x else x)
            before ++ layout.real kind (x < 0) size ++ after
where
  /-- The text before a directive, and what comes after its percent sign. Two percent signs
  are one in the text. -/
  pieceBefore : Nat → Text → Text → Text × Text
    | 0, done, s => (done.reverse, s)
    | _, done, [] => (done.reverse, [])
    | n + 1, done, '%' :: '%' :: s => pieceBefore n ('%' :: done) s
    | _, done, ['%'] => (done.reverse, ['%'])
    | _, done, '%' :: s => (done.reverse, s)
    | n + 1, done, c :: s => pieceBefore n (c :: done) s

namespace Tool

/-- How many numbers or lines are printed at a time. -/
def blockCount : Nat := 512

/-- Prints numbers with a text between them and a line end at the end. -/
def printNumbers (p : Progression) (between : Text) : Action Unit :=
  Action.iterate Action.turnMax 0 fun i => do
    let texts := (p.values i blockCount).map p.write
    if texts.isEmpty then
      if i != 0 then Action.print ['\n']
      return none
    Action.print ((if i == 0 then [] else between) ++ between.intercalate texts)
    Action.spend (100 * texts.length)
    if texts.length < blockCount then
      Action.print ['\n']
      return none
    return some (i + blockCount)

/-- Whether an argument is a number behind a minus sign. -/
def isNegative : Text → Bool
  | '-' :: c :: _ => c == '.' || c.isDigit
  | _ => false

/-- The operands and the options of a call in which numbers may begin with a minus sign. -/
def countingOptions (forms : String) (args : List Text) : Except String Options :=
  let before := args.takeWhile (!isNegative ·)
  (Options.read (OptionForm.listOfText forms) false before).map fun o =>
    { o with operands := o.operands ++ args.drop before.length }

/-- Prints the numbers between two. -/
def seq : Tool := fun name args => do
  match countingOptions "f/format= s/separator= w/equal-width" args with
  | .error message => misuse name message 1
  | .ok o =>
    match o.operands with
    | [] => missingOperand name "operand"
    | _ :: _ :: _ :: extra :: _ => extraOperand name extra
    | operands =>
      match operands.find? fun s => (Bound.ofText? s).isNone with
      | some bad => misuse name ("invalid floating point argument: " ++ inQuotes bad) 1
      | none =>
        let one : Bound := ⟨1, some 0, 1⟩
        let (first, step, last) :=
          match operands.filterMap Bound.ofText? with
          | [last] => (one, one, last)
          | [first, last] => (first, one, last)
          | first :: step :: last :: _ => (first, step, last)
          | [] => (one, one, one)
        let stepText := operands[1]?.getD []
        if step.value == 0 then
          misuse name ("invalid Zero increment value: " ++ inQuotes stepText) 1
        else if o.has "f" && o.has "w" then
          misuse name "format string may not be specified when printing equal width strings" 1
        else
          let between := (o.last? "s").getD ['\n']
          let progression := Progression.mk first.value step.value last.value
          match (o.last? "f").map realFormat? with
          | some (.error message) => refuse name message 1
          | some (.ok write) =>
            printNumbers (progression write) between
            return 0
          | none =>
            printNumbers (progression (Progression.style (o.has "w") first step last)) between
            return 0

/-- Prints a line for ever. -/
def yes : Tool := withOptions "" 1 fun _ o => do
  let line := (if o.operands.isEmpty then ['y'] else [' '].intercalate o.operands) ++ ['\n']
  let block := (List.replicate (Action.chunkSize / line.length + 1) line).flatten
  Action.repeatTurns Action.turnMax do
    Action.print block
    Action.spend 20000
    return true
  return 0

end Tool
end Shell
end StressBench
