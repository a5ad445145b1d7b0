/-
# Variables and complaints

A variable may be declared without a value, handed on to the programs that are
started, or fixed for good. A complaint of the shell names the script, the line
and the command of the shell that it is about.

Key definitions: `Shell.complainHere`, `Shell.giveUp`, `Shell.valueOf`, `Shell.assign`,
`Shell.environment`, `Shell.valueOfParameter`.
-/
import StressBench.Shell.Field
import StressBench.Shell.Cursor
import StressBench.Shell.Stream

namespace StressBench
namespace Shell

/-! ### Complaints -/

/-- The text of bytes as a message shows it. -/
def shown (s : Text) : String :=
  String.ofList (Utf8.decodeLossy (toBytes s))

/-- What stands in front of a complaint: the script, the line and the command. -/
def complaintHead (p : Process) : Text :=
  p.name ++ ": ".toList ++ (toString p.line).toList ++ ": ".toList ++
    match p.inside with
    | some name => name ++ ": ".toList
    | none => []

/-- Complains of the command that is run. -/
def complainWith (message : Text) : Action Unit := do
  Action.write 2 (complaintHead (← Action.own) ++ message ++ ['\n'])

/-- Complains of the command that is run. -/
def complainHere (message : String) : Action Unit :=
  complainWith (Action.encoded message)

/-- Complains and gives the command up. -/
def giveUpWith {α : Type} (message : Text) : Action α := do
  complainWith message
  throw .refused

/-- Complains and gives the command up. -/
def giveUp {α : Type} (message : String) : Action α :=
  giveUpWith (Action.encoded message)

/-! ### Numbers -/

/-- The text of a number. -/
def numeral (n : Nat) : Text :=
  Nat.toDigits 10 n

/-- The text of a whole number. -/
def showInteger (n : Int) : Text :=
  if n < 0 then '-' :: numeral n.natAbs else numeral n.natAbs

/-- The number that a text of digits writes. -/
def natural? (s : Text) : Option Nat :=
  if !s.isEmpty && s.all Char.isDigit then some (digitsValue s) else none

/-- The whole number that a text writes, perhaps with a sign. -/
def integer? : Text → Option Int
  | '-' :: s => (natural? s).map fun n => -(Int.ofNat n)
  | '+' :: s => (natural? s).map Int.ofNat
  | s => (natural? s).map Int.ofNat

/-- The number that a text of digits writes, or a refusal. -/
def numberOrGiveUp (s : Text) : Action Nat := do
  match natural? s with
  | some n => return n
  | none => giveUpWith ("Illegal number: ".toList ++ s)

/-! ### Variables -/

/-- The variable of a name. -/
def variableOf? (p : Process) (name : Text) : Option Variable :=
  p.vars.lookup name

/-- The value of a variable, if it has one. -/
def valueOf? (p : Process) (name : Text) : Option Text :=
  (p.vars.lookup name).bind Variable.value

/-- The value of a variable, or no characters. -/
def valueOf (p : Process) (name : String) : Text :=
  (valueOf? p name.toList).getD []

/-- The names that mean something to the shell itself. -/
def optionIndexName : Text := "OPTIND".toList

/-- The name of the variable with the search path. -/
def pathName : Text := "PATH".toList

/-- The variables with one of them put in place. -/
def withVariable (vars : List (Text × Variable)) (name : Text) (v : Variable) :
    List (Text × Variable) :=
  if vars.any fun p => p.1 == name then vars.map fun p => if p.1 == name then (name, v) else p
  else vars ++ [(name, v)]

/-- Puts a variable in place. -/
def setVariable (name : Text) (v : Variable) : Action Unit :=
  Action.change fun p =>
    { p with
      vars := withVariable p.vars name v
      known := if name == pathName then [] else p.known
      optionOffset := if name == optionIndexName then 0 else p.optionOffset }

/-- Refuses to change a variable that is fixed. -/
def requireWritable (name : Text) : Action Variable := do
  let v := (variableOf? (← Action.own) name).getD {}
  if v.readOnly then giveUpWith (name ++ ": is read only".toList)
  return v

/-- Refuses what is not the name of a variable. -/
def requireName (name : Text) : Action Unit := do
  unless isName name do giveUpWith (name ++ ": bad variable name".toList)

/-- Gives a variable a value. -/
def assign (name value : Text) : Action Unit := do
  let v ← requireWritable name
  let all := (← Action.own).options.contains 'a'
  setVariable name { v with value := some value, exported := v.exported || all }

/-- Takes a variable away. -/
def forget (name : Text) : Action Unit := do
  let _ ← requireWritable name
  Action.change fun p =>
    { p with
      vars := p.vars.filter fun v => v.1 != name
      known := if name == pathName then [] else p.known }

/-- The place of a name in a table of so many chains. -/
def chainOf (count : Nat) (name : Text) : Nat :=
  (name.foldl (fun n c => n + c.toNat) ((name.headD 'A').toNat * 16)) % 32768 % count

/-- The chains of the table of variables, in whose order they are handed on. -/
def variableChains : Nat := 39

/-- The variables that are handed on to programs, in order. -/
def environment (p : Process) : List (Text × Text) :=
  let handed := p.vars.filterMap fun (name, v) =>
    if v.exported then v.value.map fun s => (name, s) else none
  handed.mergeSort fun a b => chainOf variableChains a.1 ≤ chainOf variableChains b.1

/-- The variables of a program that is started with an environment. -/
def imported (env : List (Text × Text)) : List (Text × Variable) :=
  env.map fun (name, value) => (name, { value := some value, exported := true })

/-- A text in quotes, so that the shell reads it back: single quotes around what has
none, double quotes around those. -/
def quotedText (s : Text) : Text :=
  quoteFrom (s.length + 1) s
where
  /-- Quotes the pieces of a text in turn. -/
  quoteFrom : Nat → Text → Text
    | 0, _ => []
    | n + 1, s =>
      let piece := s.takeWhile (· != '\'')
      let quotes := (s.drop piece.length).takeWhile (· == '\'')
      let rest := s.drop (piece.length + quotes.length)
      ['\''] ++ piece ++ ['\''] ++ (if quotes.isEmpty then [] else ['"'] ++ quotes ++ ['"']) ++
        if rest.isEmpty then [] else quoteFrom n rest

/-! ### Parameters -/

/-- The characters that fields are split at. -/
def separators (p : Process) : Separators :=
  match valueOf? p "IFS".toList with
  | some chars => { chars }
  | none => {}

/-- The letters of options in the order in which they are shown. -/
def optionLetters : Text := "ubaCEVvxsnmiIfe".toList

/-- The value of a parameter, if it has one. -/
def valueOfParameter (p : Process) : Parameter → Option Text
  | .variable name => valueOf? p name
  | .argument 0 => some p.name
  | .argument (n + 1) => p.args[n]?
  | .joined | .separate =>
    if p.args.isEmpty then none
    else
      let between := ((separators p).chars.head?.map fun c => [c]).getD []
      some (between.intercalate p.args)
  | .count => some (numeral p.args.length)
  | .status => some (numeral p.status)
  | .processId => some (numeral p.shellId)
  | .lastJob => p.lastJob.map numeral
  | .options => some (optionLetters.filter p.options.contains)

/-- The name of a parameter as a complaint shows it. -/
def nameOfParameter : Parameter → Text
  | .variable name => name
  | .argument n => numeral n
  | .joined => ['*']
  | .separate => ['@']
  | .count => ['#']
  | .status => ['?']
  | .processId => ['$']
  | .lastJob => ['!']
  | .options => ['-']

end Shell
end StressBench
