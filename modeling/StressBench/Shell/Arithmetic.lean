/-
# Expressions over whole numbers

Numbers, variables and the usual operators in ranks of binding, a choice by a
condition, and the giving of values to variables. Numbers have 64 bits and wrap. A
comparison gives 1 or 0, and what a condition leaves out is not looked at.

Key definitions: `Shell.Arithmetic`, `Arithmetic.ofText`, `Arithmetic.evaluate`.
-/
import StressBench.Shell.Cursor

namespace StressBench
namespace Shell

/-- An expression over whole numbers. -/
inductive Arithmetic
  | number (n : Int64)
  | variable (name : Text)
  | unary (op : Char) (operand : Arithmetic)
  | binary (op : String) (left right : Arithmetic)
  | choice (test yes no : Arithmetic)
  /-- A variable is given a value, with an operator the value of that on its old one. -/
  | assignment (op : String) (name : Text) (value : Arithmetic)

namespace Arithmetic

/-! ### Reading -/

/-- Why a text is no expression. -/
inductive Fault
  | noPrimary
  | notEnded
  | notClosed
  | noAlternative
  | divisionByZero
  deriving DecidableEq, Repr

/-- The fault in words. -/
def Fault.message : Fault → String
  | .noPrimary => "expecting primary"
  | .notEnded => "expecting EOF"
  | .notClosed => "expecting ')'"
  | .noAlternative => "expecting ':'"
  | .divisionByZero => "division by zero"

/-- The operators, from those that bind least to those that bind most. -/
def ranks : List (List String) :=
  [["||"], ["&&"], ["|"], ["^"], ["&"], ["==", "!="], ["<=", ">=", "<", ">"], ["<<", ">>"],
    ["+", "-"], ["*", "/", "%"]]

/-- The operators that may be joined with an equals sign. -/
def assigners : List String := ["", "*", "/", "%", "+", "-", "<<", ">>", "&", "^", "|"]

/-- All marks, the longest first. -/
def marks : List String :=
  ["<<=", ">>=", "||", "&&", "==", "!=", "<=", ">=", "<<", ">>", "*=", "/=", "%=", "+=", "-=", "&=",
    "^=", "|=", "|", "^", "&", "=", "<", ">", "+", "-", "*", "/", "%", "!", "~", "(", ")", "?", ":"]

/-- The text without the blanks in front. -/
def pastSpace (s : Text) : Text :=
  s.dropWhile fun c => c == ' ' || c == '\t' || c == '\n'

/-- The mark in front, and what comes after it. -/
def markAt (s : Text) : String × Text :=
  let s := pastSpace s
  match marks.find? fun m => m.toList.isPrefixOf s with
  | some m => (m, s.drop m.length)
  | none => ("", s)

/-- The value of a digit in a base up to sixteen. -/
def digitValue? (base : Nat) (c : Char) : Option Nat :=
  let n :=
    if c.isDigit then c.toNat - 48
    else if 'a' ≤ c.toLower && c.toLower ≤ 'f' then c.toLower.toNat - 87
    else base
  if n < base then some n else none

/-- The number that digits of a base in front write, and what comes after them. -/
def digitsAt (base : Nat) (s : Text) : Nat × Text :=
  let digits := s.takeWhile fun c => (digitValue? base c).isSome
  (digits.foldl (fun n c => n * base + (digitValue? base c).getD 0) 0, s.drop digits.length)

/-- The number in front, if there is one: in base sixteen after `0x`, in base eight
after `0`, else in base ten. -/
def numberAt? (s : Text) : Option (Nat × Text) :=
  match s with
  | '0' :: x :: c :: r =>
    if (x == 'x' || x == 'X') && (digitValue? 16 c).isSome then some (digitsAt 16 (c :: r))
    else some (digitsAt 8 s)
  | '0' :: _ => some (digitsAt 8 s)
  | c :: _ => if c.isDigit then some (digitsAt 10 s) else none
  | [] => none

/-- The greatest number. -/
def greatest : Nat := 9223372036854775807

/-- A number cut down to the greatest one. -/
def saturated (n : Nat) : Int64 :=
  Int64.ofNat (min n greatest)

mutual

/-- An expression with its assignments. -/
def assignmentAt : Nat → Text → Except Fault (Arithmetic × Text)
  | 0, _ => .error .noPrimary
  | n + 1, s => do
    let s := pastSpace s
    let name := nameAt s
    let (op, rest) := markAt (s.drop name.length)
    let base := String.ofList (op.toList.dropLast)
    if !name.isEmpty && op.toList.getLast? == some '=' && assigners.contains base then
      let (value, rest) ← assignmentAt n rest
      return (.assignment base name value, rest)
    else choiceAt n s

/-- An expression with a condition. -/
def choiceAt : Nat → Text → Except Fault (Arithmetic × Text)
  | 0, _ => .error .noPrimary
  | n + 1, s => do
    let (test, s) ← operandsAt n ranks s
    let (op, rest) := markAt s
    if op == "?" then
      let (yes, s) ← assignmentAt n rest
      let (op, rest) := markAt s
      if op != ":" then throw .noAlternative
      let (no, rest) ← choiceAt n rest
      return (.choice test yes no, rest)
    else return (test, s)

/-- An expression of the operators of the ranks. -/
def operandsAt : Nat → List (List String) → Text → Except Fault (Arithmetic × Text)
  | 0, _, _ => .error .noPrimary
  | n + 1, [], s => primaryAt n s
  | n + 1, rank :: above, s => do
    let (left, s) ← operandsAt n above s
    rowAt n rank above left s

/-- A row of operators of one rank, given what stands left of it. -/
def rowAt : Nat → List String → List (List String) → Arithmetic → Text →
    Except Fault (Arithmetic × Text)
  | 0, _, _, _, _ => .error .noPrimary
  | n + 1, rank, above, left, s => do
    let (op, rest) := markAt s
    if rank.contains op then
      let (right, s) ← operandsAt n above rest
      rowAt n rank above (.binary op left right) s
    else return (left, s)

/-- A number, a variable, a sign with its operand, or an expression in brackets. -/
def primaryAt : Nat → Text → Except Fault (Arithmetic × Text)
  | 0, _ => .error .noPrimary
  | n + 1, s => do
    let s := pastSpace s
    match s with
    | '(' :: s =>
      let (inner, s) ← assignmentAt n s
      match pastSpace s with
      | ')' :: s => return (inner, s)
      | _ => throw .notClosed
    | c :: r =>
      match numberAt? s, nameAt s with
      | some (k, rest), _ => return (.number (saturated k), rest)
      | none, [] =>
        if c == '+' then primaryAt n r
        else if c == '-' || c == '~' || c == '!' then
          let (operand, rest) ← primaryAt n r
          return (.unary c operand, rest)
        else throw .noPrimary
      | none, name => return (.variable name, s.drop name.length)
    | [] => throw .noPrimary

end

/-- The expression that a text writes. -/
def ofText (s : Text) : Except Fault Arithmetic := do
  let (e, rest) ← assignmentAt (32 * (s.length + 2)) s
  if (pastSpace rest).isEmpty then return e else throw .notEnded

/-! ### Values -/

/-- The number of a truth value. -/
def ofTruth (b : Bool) : Int64 :=
  if b then 1 else 0

/-- The value of an operator; none for a division by zero. -/
def valueOf? (op : String) (a b : Int64) : Option Int64 :=
  match op with
  | "|" => some (a ||| b)
  | "^" => some (a ^^^ b)
  | "&" => some (a &&& b)
  | "==" => some (ofTruth (a == b))
  | "!=" => some (ofTruth (a != b))
  | "<=" => some (ofTruth (a ≤ b))
  | ">=" => some (ofTruth (b ≤ a))
  | "<" => some (ofTruth (a < b))
  | ">" => some (ofTruth (b < a))
  | "<<" => some (a <<< b)
  | ">>" => some (a >>> b)
  | "+" => some (a + b)
  | "-" => some (a - b)
  | "*" => some (a * b)
  | "/" => if b == 0 then none else some (a / b)
  | "%" => if b == 0 then none else some (a % b)
  | _ => none

/-- The value of an expression, with the ways to look a variable up, to give it a
value and to complain of a division by zero. -/
def evaluate {m : Type → Type} [Monad m] (look : Text → m Int64) (give : Text → Int64 → m Unit)
    (divided : m Int64) : Arithmetic → m Int64
  | .number n => return n
  | .variable name => look name
  | .unary op e => do
    let a ← evaluate look give divided e
    return match op with
      | '-' => -a
      | '~' => -a - 1
      | _ => ofTruth (a == 0)
  | .binary "&&" e f => do
    if (← evaluate look give divided e) == 0 then return 0
    return ofTruth ((← evaluate look give divided f) != 0)
  | .binary "||" e f => do
    if (← evaluate look give divided e) != 0 then return 1
    return ofTruth ((← evaluate look give divided f) != 0)
  | .binary op e f => do
    let a ← evaluate look give divided e
    let b ← evaluate look give divided f
    match valueOf? op a b with
    | some c => return c
    | none => divided
  | .choice test yes no => do
    if (← evaluate look give divided test) != 0 then evaluate look give divided yes
    else evaluate look give divided no
  | .assignment op name e => do
    let b ← evaluate look give divided e
    let value ←
      if op.isEmpty then pure b
      else do
        match valueOf? op (← look name) b with
        | some c => pure c
        | none => divided
    give name value
    return value

end Arithmetic

end Shell
end StressBench
