/-
# Rules for records: the language

A program is a list of rules, each a condition and what is done with the records that meet
it, and of functions. Values are numbers and texts, and arrays go from texts to values.

Key definitions: `Rule.Expr`, `Rule.Statement`, `Rule.Condition`, `Rule.Clause`, `Rule.Function`,
`Rule.Program`.
-/
import StressBench.Number.Timeout
import StressBench.Shell.Regex.Reader
import StressBench.Shell.Variable

namespace StressBench
namespace Shell
namespace Rule

/-- An operator of arithmetic. -/
inductive Arith
  | add
  | subtract
  | multiply
  | divide
  | remainder
  | power
  deriving DecidableEq, Repr

/-- A comparison. -/
inductive Comparison
  | less
  | atMost
  | equal
  | different
  | atLeast
  | greater
  deriving DecidableEq, Repr

/-- The functions that are there from the beginning. -/
inductive Builtin
  | length
  | substr
  | index
  | split
  | sub
  | gsub
  | matchText
  | sprintf
  | sin
  | cos
  | atan2
  | exp
  | log
  | sqrt
  | int
  | rand
  | srand
  | tolower
  | toupper
  | system
  | close
  | fflush
  | time
  deriving DecidableEq, Repr

/-- An expression. -/
inductive Expr
  | number (v : Rat)
  | text (s : Text)
  /-- Whether an expression matches in the record. -/
  | regex (m : Matcher)
  | name (n : Text)
  | field (e : Expr)
  | item (array : Text) (subscripts : List Expr)
  | assign (op : Option Arith) (target value : Expr)
  /-- One more or one less, and the value before or after that. -/
  | step (before : Bool) (up : Bool) (target : Expr)
  | choice (test yes no : Expr)
  | both (a b : Expr)
  | either (a b : Expr)
  | not (e : Expr)
  | negate (e : Expr)
  | plus (e : Expr)
  | arith (op : Arith) (a b : Expr)
  | compare (op : Comparison) (a b : Expr)
  | matching (negated : Bool) (e pattern : Expr)
  | join (a b : Expr)
  | contains (subscripts : List Expr) (array : Text)
  | call (function : Text) (args : List Expr)
  | builtin (b : Builtin) (args : List Expr)
  /-- The next record of the input, or of a file. -/
  | getline (target : Option Expr) (file : Option Expr)
  /-- The next record that a command prints. -/
  | getlineFrom (command : Expr) (target : Option Expr)
  /-- Expressions in brackets. -/
  | group (es : List Expr)

/-- Where something is printed to. -/
inductive Outlet
  | write
  | append
  | command
  deriving DecidableEq, Repr

/-- A statement. -/
inductive Statement
  | expr (e : Expr)
  | print (args : List Expr) (outlet : Option (Outlet × Expr))
  | printf (args : List Expr) (outlet : Option (Outlet × Expr))
  | branch (test : Expr) (yes : Statement) (no : Option Statement)
  | loop (test : Expr) (body : Statement)
  | loopAfter (body : Statement) (test : Expr)
  | count (start : Option Statement) (test : Option Expr) (step : Option Statement)
      (body : Statement)
  | each (name : Text) (array : Text) (body : Statement)
  | block (statements : List Statement)
  | next
  | nextFile
  | exit (status : Option Expr)
  | giveBack (value : Option Expr)
  | leave
  | proceed
  | delete (array : Text) (subscripts : List Expr)

/-- When a rule applies. -/
inductive Condition
  | start
  | finish
  | always
  | test (e : Expr)
  /-- From a record that meets the first expression to one that meets the second. -/
  | range (first last : Expr)

/-- A rule; without an action the record is printed. -/
structure Clause where
  condition : Condition
  action : Option Statement

/-- A function with the names of its arguments. -/
structure Function where
  params : List Text
  body : Statement

/-- A program. -/
structure Program where
  rules : List Clause := []
  functions : List (Text × Function) := []

/-! ### Regular expressions -/

/-- The dialect of regular expressions. -/
def dialect : Dialect :=
  { extended := true, escapes := true, words := false }

/-- An expression that is ready to be looked for. -/
def matcherIn (s : Text) : Except String Matcher :=
  match Matcher.read dialect s with
  | .ok m => .ok m
  | .error .openGroup | .error .closedGroup =>
    .error ("regular expression compile failed (missing ')')\n" ++ shown s)
  | .error e => .error ("regular expression compile failed (" ++ e.message ++ ")\n" ++ shown s)

/-- What is wrong with a program: the line and what is said. -/
structure Fault where
  message : String
  deriving DecidableEq, Repr

end Rule
end Shell
end StressBench
