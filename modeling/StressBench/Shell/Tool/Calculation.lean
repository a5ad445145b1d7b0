/-
# Tools that calculate

`expr` takes an expression word by word: numbers and texts, with operators between them
that bind more and more strongly from alternatives to matches. `factor` takes numbers
apart.

Key definitions: `Calculation.Fault`, `Calculation.valueAt`, `Calculation.evaluate`,
`Tool.expr`, `Tool.factor`.
-/
import StressBench.Shell.Regex.Reader
import StressBench.Shell.Tool.Options

namespace StressBench
namespace Shell
namespace Calculation

/-! ### Values -/

/-- The whole number that a text writes: digits, perhaps behind a minus sign. -/
def number? : Text → Option Int
  | '-' :: s => (natural? s).map fun n => -(Int.ofNat n)
  | s => (natural? s).map Int.ofNat

/-- Whether a value counts as false: no text, or nothing but zeros. -/
def isNull (s : Text) : Bool :=
  let digits := if s.head? == some '-' then s.drop 1 else s
  s.isEmpty || (!digits.isEmpty && digits.all (· == '0'))

/-- The value of a truth. -/
def ofTruth (b : Bool) : Text :=
  if b then ['1'] else ['0']

/-- What is wrong with an expression. -/
inductive Fault
  | missingAfter (word : Text)
  | unexpected (word : Text)
  | expecting (after : Text)
  | expectingNot (word : Text)
  | noNumber
  | divisionByZero
  | badPattern (fault : Regex.Fault)
  deriving DecidableEq, Repr

/-- What is said of a fault. -/
def Fault.message : Fault → String
  | .missingAfter word => "syntax error: missing argument after " ++ Tool.inQuotes word
  | .unexpected word =>
    if word == [')'] then "syntax error: unexpected ')'"
    else "syntax error: unexpected argument " ++ Tool.inQuotes word
  | .expecting word => "syntax error: expecting ')' after " ++ Tool.inQuotes word
  | .expectingNot word => "syntax error: expecting ')' instead of " ++ Tool.inQuotes word
  | .noNumber => "non-integer argument"
  | .divisionByZero => "division by zero"
  | .badPattern fault => fault.message

/-! ### Operators -/

/-- The operators of a level. -/
def operators : Nat → List String
  | 0 => ["|"]
  | 1 => ["&"]
  | 2 => ["<", "<=", "=", "==", "!=", ">=", ">"]
  | 3 => ["+", "-"]
  | 4 => ["*", "/", "%"]
  | 5 => [":"]
  | _ => []

/-- How two values compare: as numbers if both are numbers, else as texts. -/
def compareValues (a b : Text) : Ordering :=
  match number? a, number? b with
  | some m, some n => compare m n
  | _, _ => compare (a.map Char.toNat) (b.map Char.toNat)

/-- The text of the first group of an expression that matches at the beginning of a text, or
the length of the match if there are no groups. -/
def matched (s pattern : Text) : Except Fault Text :=
  match Regex.Reading.run {} (pattern.length + 1) {} pattern, Matcher.read {} pattern with
  | .error e, _ | _, .error e => .error (.badPattern e)
  | .ok reading, .ok m =>
    match m.matchAt? (fun _ _ => true) (.start s) with
    | some found => .ok (if reading.groups == 0 then numeral found.length else found.group 1)
    | none => .ok (if reading.groups == 0 then ['0'] else [])

/-- The value of an operator between two values. -/
def apply (op : String) (a b : Text) : Except Fault Text :=
  let order := compareValues a b
  let arithmetic (f : Int → Int → Except Fault Int) : Except Fault Text :=
    match number? a, number? b with
    | some m, some n => (f m n).map showInteger
    | _, _ => .error .noNumber
  let divided (f : Int → Int → Int) := arithmetic fun m n =>
    if n == 0 then .error .divisionByZero else .ok (f m n)
  match op with
  | "|" => .ok (if !isNull a then a else if isNull b then ['0'] else b)
  | "&" => .ok (if isNull a || isNull b then ['0'] else a)
  | "<" => .ok (ofTruth (order == .lt))
  | "<=" => .ok (ofTruth (order != .gt))
  | "=" | "==" => .ok (ofTruth (order == .eq))
  | "!=" => .ok (ofTruth (order != .eq))
  | ">=" => .ok (ofTruth (order != .lt))
  | ">" => .ok (ofTruth (order == .gt))
  | "+" => arithmetic fun m n => .ok (m + n)
  | "-" => arithmetic fun m n => .ok (m - n)
  | "*" => arithmetic fun m n => .ok (m * n)
  | "/" => divided Int.tdiv
  | "%" => divided Int.tmod
  | _ => matched a b

/-- The part of a text from a position on, with a length. -/
def part (s position length : Text) : Text :=
  match number? position, number? length with
  | some p, some n => if p ≤ 0 || n ≤ 0 then [] else (s.drop (p.toNat - 1)).take n.toNat
  | _, _ => []

/-- The position of the first character of a text that is among others, or zero. -/
def position (s among : Text) : Nat :=
  ((s.findIdx? among.contains).map (· + 1)).getD 0

/-! ### Expressions -/

/-- The words that are still to be read, and the one before them. -/
structure Words where
  before : Text := []
  rest : List Text

/-- The next word. -/
def Words.take (w : Words) : Except Fault (Text × Words) :=
  match w.rest with
  | a :: rest => .ok (a, ⟨a, rest⟩)
  | [] => .error (.missingAfter w.before)

mutual

/-- The value at the beginning of words, of the operators of a level and of those that bind
more strongly. What is not `wanted` is read but not worked out. -/
def valueAt : Nat → Nat → Bool → Words → Except Fault (Text × Words)
  | 0, _, _, w => .error (.unexpected w.before)
  | n + 1, level, wanted, w =>
    if (operators level).isEmpty then operandAt n wanted w
    else
      match valueAt n (level + 1) wanted w with
      | .error e => .error e
      | .ok (a, w) => rowAt n level wanted a w

/-- The value of a row of operators of a level after its first operand. -/
def rowAt : Nat → Nat → Bool → Text → Words → Except Fault (Text × Words)
  | 0, _, _, _, w => .error (.unexpected w.before)
  | n + 1, level, wanted, a, w =>
    match w.rest with
    | [] => .ok (a, w)
    | word :: rest =>
      let op := String.ofList word
      if !(operators level).contains op then .ok (a, w)
      else
        let settled := op == "|" && !isNull a || op == "&" && isNull a
        match valueAt n (level + 1) (wanted && !settled) ⟨word, rest⟩ with
        | .error e => .error e
        | .ok (b, w) =>
          match (if wanted then apply op a (if settled then a else b) else .ok a) with
          | .error e => .error e
          | .ok value => rowAt n level wanted value w

/-- The value of one operand: of a word, of a function of operands, or of what stands in
brackets. -/
def operandAt : Nat → Bool → Words → Except Fault (Text × Words)
  | 0, _, w => .error (.unexpected w.before)
  | n + 1, wanted, w => do
    let (word, after) ← w.take
    match String.ofList word with
    | "+" => after.take
    | "length" =>
      let (s, w) ← operandAt n wanted after
      return (numeral s.length, w)
    | "match" =>
      let (s, w) ← operandAt n wanted after
      let (pattern, w) ← operandAt n wanted w
      return (← if wanted then matched s pattern else .ok [], w)
    | "index" =>
      let (s, w) ← operandAt n wanted after
      let (among, w) ← operandAt n wanted w
      return (numeral (position s among), w)
    | "substr" =>
      let (s, w) ← operandAt n wanted after
      let (start, w) ← operandAt n wanted w
      let (length, w) ← operandAt n wanted w
      return (part s start length, w)
    | "(" =>
      let (value, w) ← valueAt n 0 wanted after
      match w.rest with
      | [] => .error (.expecting w.before)
      | close :: rest =>
        if close == [')'] then return (value, ⟨close, rest⟩) else .error (.expectingNot close)
    | ")" => .error (.unexpected word)
    | _ => return (word, after)

end

/-- The value of an expression. -/
def evaluate (words : List Text) : Except Fault Text := do
  let (value, w) ← valueAt (16 * words.length + 16) 0 true ⟨[], words⟩
  match w.rest with
  | [] => return value
  | word :: _ => .error (.unexpected word)

end Calculation

namespace Tool

/-- Prints the value of an expression. -/
def expr : Tool := fun name args => do
  let words := if args.head? == some ['-', '-'] then args.drop 1 else args
  if words.isEmpty then misuse name "missing operand" 2
  else
    match Calculation.evaluate words with
    | .error fault => refuse name fault.message 2
    | .ok value =>
      Action.printLine value
      return if Calculation.isNull value then 1 else 0

/-! ### Prime factors -/

/-- The prime factors of a number from a divisor on, the least first. -/
def factorsFrom : Nat → Nat → Nat → List Nat
  | 0, _, n => if n < 2 then [] else [n]
  | fuel + 1, d, n =>
    if n < 2 then []
    else if n < d * d then [n]
    else if n % d == 0 then d :: factorsFrom fuel d (n / d)
    else factorsFrom fuel (if d == 2 then 3 else d + 2) n

/-- Prints the prime factors of numbers. -/
def factor : Tool := withOptions "h/exponents" 1 fun name o => do
  let words ←
    if o.operands.isEmpty then pure ((← Action.readAll).splitOnP isSpace |>.filter (!·.isEmpty))
    else pure o.operands
  let mut status := 0
  for word in words do
    match natural? (if word.head? == some '+' then word.drop 1 else word) with
    | some n =>
      let factors := factorsFrom (n.sqrt + 64) 2 n
      Action.printLine (numeral n ++ ':' :: factors.flatMap fun p => ' ' :: numeral p)
    | none =>
      fault name (inQuotes word ++ " is not a valid positive integer")
      status := 1
  return status

end Tool
end Shell
end StressBench
