/-
# Conditions

`test` decides a condition on texts, numbers and files, and says by its status
whether it holds. Under the name `[` it wants a bracket at the end. What is wrong with
a condition is said in other words by the command of the shell and by the program.

Key definitions: `Test.Lexeme`, `Test.anyOf`, `Test.decideAll`, `Tool.shellTest`,
`Tool.test`.
-/
import StressBench.Shell.Tool.Numeral

namespace StressBench
namespace Shell
namespace Test

/-- What a condition is made of. -/
inductive Lexeme
  | ended
  | operand
  | unary (letter : Char)
  | binary (op : String)
  | negation
  | conjunction
  | disjunction
  | opening
  | closing
  deriving DecidableEq, Repr

/-- Why a text is no condition. -/
inductive Fault
  | illegalNumber (text : Text)
  | argumentExpected (op : Text)
  | notClosed
  | unexpectedOperator (text : Text)
  deriving DecidableEq, Repr

/-- The letters of conditions on one operand. -/
def unaryLetters : Text := "rwxefdcbpugkstznhLOGS".toList

/-- The operators between two operands. -/
def binaryOperators : List String :=
  ["=", "!=", "<", ">", "-eq", "-ne", "-gt", "-ge", "-lt", "-le", "-nt", "-ot", "-ef"]

/-- What a word is, on its own. -/
def operator? (s : Text) : Option Lexeme :=
  if binaryOperators.contains (String.ofList s) then some (.binary (String.ofList s))
  else
    match s with
    | ['!'] => some .negation
    | ['('] => some .opening
    | [')'] => some .closing
    | ['-', 'a'] => some .conjunction
    | ['-', 'o'] => some .disjunction
    | ['-', c] => if unaryLetters.contains c then some (.unary c) else none
    | _ => none

/-- Whether a word is an operator between two operands. -/
def isBinary (s : Text) : Bool :=
  binaryOperators.contains (String.ofList s)

/-- What the first of some words is among the others. -/
def lexeme (words : List Text) : Lexeme :=
  match words with
  | [] => .ended
  | s :: rest =>
    match operator? s, rest with
    | some (.unary _), [] => .operand
    | some (.unary c), [_] => .unary c
    | some (.unary c), next :: _ :: _ => if isBinary next then .operand else .unary c
    | some .opening, [] => .operand
    | some l, _ => l
    | none, _ => .operand

/-! ### What holds -/

/-- A way to decide a condition on a file. -/
abbrev FileTest := Char → Path → Bool

/-- Whether a condition of a letter holds of a file. -/
def holdsOfFile (d : Disk) (cwd : Location) : FileTest := fun letter path =>
  match letter with
  | 'h' | 'L' =>
    match d.resolve .never cwd path with
    | .ok (.name parent n false) =>
      match d.get (n :: parent) with
      | some (.link _) => true
      | _ => false
    | _ => false
  | _ =>
    match d.lookup cwd path with
    | .error _ => false
    | .ok (_, entry) =>
      match letter, entry with
      | 'e', _ | 'O', _ | 'G', _ => true
      | 'f', .file .. | 'd', .directory _ | 'c', .device _ => true
      | 's', .file content _ => !content.isEmpty
      | 's', .directory _ => true
      | 'r', .file _ mode | 'r', .directory mode => mode.canRead
      | 'w', .file _ mode | 'w', .directory mode => mode.canWrite
      | 'x', .file _ mode | 'x', .directory mode => mode.canExecute
      | 'r', _ | 'w', _ => true
      | 'u', .file _ mode => mode &&& 0o4000 != 0
      | 'g', .file _ mode => mode &&& 0o2000 != 0
      | 'k', .file _ mode => mode &&& 0o1000 != 0
      | _, _ => false

/-- What a condition is decided with. -/
structure Setting where
  disk : Disk
  cwd : Location
  /-- Whether a file that is not there is older than one that is. -/
  missingIsOld : Bool

/-- The whole number that a word writes. -/
def numberOf (s : Text) : Except Fault Int :=
  let blank := s.dropWhile Tool.isSpace
  let (negative, digits) := Numeral.pastSign s
  let written := digits.takeWhile Char.isDigit
  let rest := digits.drop written.length
  if written.isEmpty || !(rest.dropWhile Tool.isSpace).isEmpty || blank.isEmpty then
    .error (.illegalNumber s)
  else
    let n : Int := digitsValue written
    .ok (if negative then -n else n)

/-- Whether a condition of a letter holds of a word. -/
def unaryHolds (e : Setting) (letter : Char) (s : Text) : Except Fault Bool :=
  match letter with
  | 'z' => .ok s.isEmpty
  | 'n' => .ok (!s.isEmpty)
  | 't' => (numberOf s).map fun _ => false
  | c => .ok (holdsOfFile e.disk e.cwd c (toBytes s))

/-- Whether a relation holds between two words. -/
def binaryHolds (e : Setting) (op : String) (a b : Text) : Except Fault Bool := do
  let numbers (rel : Int → Int → Bool) : Except Fault Bool := do
    return rel (← numberOf a) (← numberOf b)
  let locationOf (s : Text) : Option Location :=
    match e.disk.lookup e.cwd (toBytes s) with
    | .ok (loc, _) => some loc
    | .error _ => none
  match op with
  | "=" => return a == b
  | "!=" => return a != b
  | "<" => return decide (a < b)
  | ">" => return decide (b < a)
  | "-eq" => numbers fun x y => x == y
  | "-ne" => numbers fun x y => x != y
  | "-lt" => numbers fun x y => x < y
  | "-le" => numbers fun x y => x ≤ y
  | "-gt" => numbers fun x y => y < x
  | "-ge" => numbers fun x y => y ≤ x
  | "-ef" => return (locationOf a).isSome && locationOf a == locationOf b
  | "-nt" => return e.missingIsOld && (locationOf a).isSome && (locationOf b).isNone
  | _ => return e.missingIsOld && (locationOf a).isNone && (locationOf b).isSome

/-! ### Reading a condition -/

mutual

/-- Conditions joined by `-o`. Gives the words from the last one that was used on. -/
def anyOf (e : Setting) : Nat → List Text → Except Fault (Bool × List Text)
  | 0, words => .ok (false, words)
  | n + 1, words => do
    let (a, words) ← allOf e n words
    if lexeme (words.drop 1) == .disjunction then
      let (b, words) ← anyOf e n (words.drop 2)
      return (a || b, words)
    else return (a, words)

/-- Conditions joined by `-a`. -/
def allOf (e : Setting) : Nat → List Text → Except Fault (Bool × List Text)
  | 0, words => .ok (false, words)
  | n + 1, words => do
    let (a, words) ← denied e n words
    if lexeme (words.drop 1) == .conjunction then
      let (b, words) ← allOf e n (words.drop 2)
      return (a && b, words)
    else return (a, words)

/-- One condition, perhaps denied. -/
def denied (e : Setting) : Nat → List Text → Except Fault (Bool × List Text)
  | 0, words => .ok (false, words)
  | n + 1, words => do
    if lexeme words == .negation then
      if words.length == 1 then return (true, words)
      else
        let (b, words) ← denied e n (words.drop 1)
        return (!b, words)
    else single e n words

/-- One condition. -/
def single (e : Setting) : Nat → List Text → Except Fault (Bool × List Text)
  | 0, words => .ok (false, words)
  | n + 1, words => do
    match lexeme words, words with
    | .opening, _ :: inner =>
      if lexeme inner == .closing then return (false, inner)
      let (b, words) ← anyOf e n inner
      if lexeme (words.drop 1) == .closing then return (b, words.drop 1)
      else throw .notClosed
    | .unary c, _ :: s :: rest => return (← unaryHolds e c s, s :: rest)
    | .unary c, _ => throw (.argumentExpected ['-', c])
    | _, a :: rest =>
      match lexeme rest, rest with
      | .binary op, _ :: b :: more => return (← binaryHolds e op a b, b :: more)
      | .binary op, _ => throw (.argumentExpected op.toList)
      | _, _ => return (!a.isEmpty, words)
    | _, [] => return (false, [])

end

/-- Decides the condition that words make. -/
def decideAll (e : Setting) : Nat → List Text → Except Fault Bool
  | 0, _ => .ok false
  | n + 1, words => do
    let whole (words : List Text) : Except Fault Bool := do
      let (b, rest) ← anyOf e (4 * words.length + 4) words
      match rest with
      | a :: _ :: _ => throw (.unexpectedOperator a)
      | _ => return b
    match words with
    | [] => return false
    | [a, op, b] => if isBinary op then whole words else between n whole a [op, b]
    | a :: rest => if rest.length == 3 then between n whole a rest else whole words
where
  /-- A condition of three or four words: one in brackets, one that is denied, or
  another. -/
  between (n : Nat) (whole : List Text → Except Fault Bool) (a : Text) (rest : List Text) :
      Except Fault Bool :=
    if a == ['('] && rest.getLast? == some [')'] then whole rest.dropLast
    else if a == ['!'] then (decideAll e n rest).map (!·)
    else whole (a :: rest)

/-- The fault in the words of the shell. -/
def Fault.message : Fault → Text
  | .illegalNumber s => "Illegal number: ".toList ++ s
  | .argumentExpected op => op ++ ": argument expected".toList
  | .notClosed => "closing paren expected".toList
  | .unexpectedOperator s => s ++ ": unexpected operator".toList

/-- The fault in the words of the program. -/
def Fault.description : Fault → String
  | .illegalNumber s => "invalid integer " ++ Tool.inQuotes s
  | .argumentExpected op => "missing argument after " ++ Tool.inQuotes op
  | .notClosed => "')' expected"
  | .unexpectedOperator s => "extra argument " ++ Tool.inQuotes s

end Test

namespace Tool

/-- The words of a condition, without the bracket that closes it; none if that is
missing. -/
def conditionWords? (bracketed : Bool) (args : List Text) : Option (List Text) :=
  if !bracketed then some args
  else if args.getLast? == some [']'] then some args.dropLast
  else none

/-- Decides a condition, as the shell does. -/
def shellTest (bracketed : Bool) : Tool := fun _ args => do
  match conditionWords? bracketed args with
  | none => giveUp "missing ]"
  | some words =>
    let e : Test.Setting := ⟨← Action.disk, (← Action.own).cwd, false⟩
    match Test.decideAll e (words.length + 1) words with
    | .ok holds => return if holds then 0 else 1
    | .error fault => giveUpWith fault.message

/-- What is wrong with two or three words that are no condition. -/
def conditionFault? (words : List Text) : Option String :=
  match words with
  | [a, b] =>
    match Test.operator? a with
    | some (.unary _) | some .negation => none
    | _ =>
      if a.head? == some '-' && a.length == 2 then
        some (inQuotes a ++ ": unary operator expected")
      else some ("missing argument after " ++ inQuotes b)
  | [a, op, b] =>
    if (Test.operator? op).isSome || a == ['!'] || op == "==".toList ||
      (a == ['('] && b == [')']) then
      none
    else some (inQuotes op ++ ": binary operator expected")
  | _ => none

/-- Decides a condition. -/
def test : Tool := fun name args => do
  match conditionWords? (name.getLast? == some '[') args with
  | none => refuse name "missing ']'" 2
  | some words =>
    match conditionFault? words with
    | some message => refuse name message 2
    | none =>
      let e : Test.Setting := ⟨← Action.disk, (← Action.own).cwd, true⟩
      let words := words.map fun s => if s == "==".toList then ['='] else s
      match Test.decideAll e (words.length + 1) words with
      | .ok holds => return if holds then 0 else 1
      | .error fault => refuse name fault.description 2

end Tool
end Shell
end StressBench
