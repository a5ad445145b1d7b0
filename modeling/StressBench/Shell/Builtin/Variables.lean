/-
# Commands of the shell on variables and arguments

Variables are declared, fixed, forgotten and made local to a named command; a line is
read into them, and the arguments of the script are set, shifted and taken apart
as options.

Key definitions: `Builtin.declare`, `Builtin.unset`, `Builtin.makeLocal`, `Builtin.set`,
`Builtin.shift`, `Builtin.getopts`, `Builtin.read`.
-/
import StressBench.Shell.Builtin.Basic

namespace StressBench
namespace Shell
namespace Builtin

/-! ### Declarations -/

/-- The name and the value, if any, of a declaration. -/
def declarationOf (a : Text) : Text × Option Text :=
  let name := a.takeWhile (· != '=')
  (name, if name.length < a.length then some (a.drop (name.length + 1)) else none)

/-- Lists variables as commands that declare them, in the order of their names. -/
def listVariables (head : Text) (wanted : Variable → Bool) : Action Unit := do
  let vars := ((← Action.own).vars.filter fun v => wanted v.2).mergeSort fun a b =>
    Text.order a.1 b.1 != .gt
  Action.print (vars.flatMap fun (name, v) =>
    (if head.isEmpty then [] else head ++ [' ']) ++ name ++
      (match v.value with
        | some value => '=' :: quotedText value
        | none => []) ++ ['\n'])

/-- Declares variables as handed on or as fixed, perhaps with values. -/
def declare (fixed : Bool) (args : List Text) : Action Nat := do
  let (given, names) ← options "p" "" args
  if !given.isEmpty || names.isEmpty then
    listVariables (if fixed then "readonly" else "export").toList fun v =>
      if fixed then v.readOnly else v.exported
  else
    for a in names do
      let (name, value) := declarationOf a
      requireName name
      if let some value := value then assign name value
      let v := (variableOf? (← Action.own) name).getD {}
      setVariable name
        { v with exported := v.exported || !fixed, readOnly := v.readOnly || fixed }
  return 0

/-- Forgets variables, or with `-f` named commands. -/
def unset (args : List Text) : Action Nat := do
  let (given, names) ← options "vf" "" args
  for name in names do
    if given.getLast?.map Prod.fst == some 'f' then
      Action.change fun p => { p with definitions := p.definitions.filter fun d => d.1 != name }
    else
      requireName name
      forget name
  return 0

/-- Makes variables local to the named command that is run. -/
def makeLocal (args : List Text) : Action Nat := do
  match (← Action.own).locals with
  | [] => giveUp "not in a function"
  | _ :: _ =>
    for a in args do
      let (name, value) := declarationOf a
      if name == ['-'] then pure ()
      else
        requireName name
        let before := variableOf? (← Action.own) name
        Action.change fun p =>
          { p with
            locals :=
              match p.locals with
              | frame :: frames =>
                (if frame.any fun l => l.1 == name then frame
                  else (name, before) :: frame) :: frames
              | [] => [] }
        if let some value := value then assign name value
        else if before.isNone then setVariable name {}
    return 0

/-- Puts the variables back that were made local last. -/
def dropLocals : Action Unit := do
  let p ← Action.own
  for (name, before) in p.locals.headD [] do
    match before with
    | some v => setVariable name v
    | none => Action.change fun p => { p with vars := p.vars.filter fun v => v.1 != name }
  Action.change fun p => { p with locals := p.locals.drop 1 }

/-! ### Arguments and options of the script -/

/-- The options of the shell: their names and their letters. -/
def optionNames : List (String × Char) :=
  [("errexit", 'e'), ("noglob", 'f'), ("ignoreeof", 'I'), ("interactive", 'i'), ("monitor", 'm'),
    ("noexec", 'n'), ("stdin", 's'), ("xtrace", 'x'), ("verbose", 'v'), ("vi", 'V'), ("emacs", 'E'),
    ("noclobber", 'C'), ("allexport", 'a'), ("notify", 'b'), ("nounset", 'u'),
    ("privileged", 'p'), ("nolog", 'l'), ("debug", 'd')]

/-- Sets or clears an option. -/
def putOption (on : Bool) (letter : Char) : Action Unit :=
  Action.change fun p =>
    let others := p.options.filter (· != letter)
    { p with options := if on then letter :: others else others }

/-- Sets or clears the options of the letters of a word. Gives the arguments after it,
from which names of options are taken. -/
def putLetters (on : Bool) : Text → List Text → Action (List Text)
  | [], rest => return rest
  | 'o' :: s, rest => do
    let rest ←
      match rest with
      | [] => do
        let p ← Action.own
        if on then
          Action.print ("Current option settings\n".toList ++ optionNames.flatMap fun (name, c) =>
            name.toList ++ List.replicate (16 - name.length) ' ' ++
              (if p.options.contains c then "on\n" else "off\n").toList)
        else
          Action.print (optionNames.flatMap fun (name, c) =>
            (if p.options.contains c then "set -o " else "set +o ").toList ++ name.toList ++ ['\n'])
        pure []
      | name :: rest =>
        match optionNames.lookup (String.ofList name) with
        | some c => do
          putOption on c
          pure rest
        | none => giveUpWith ("Illegal option ".toList ++
            (if on then '-' else '+') :: 'o' :: ' ' :: name)
    putLetters on s rest
  | c :: s, rest => do
    if (optionNames.map Prod.snd).contains c then
      putOption on c
      putLetters on s rest
    else giveUpWith ("Illegal option ".toList ++ (if on then '-' else '+') :: [c])

/-- Sets and clears options, and gives the arguments after them and whether there were two
dashes. -/
def putOptions : Nat → List Text → Action (List Text × Bool)
  | 0, args => return (args, false)
  | n + 1, args => do
    match args with
    | ['-', '-'] :: rest => return (rest, true)
    | ['-'] :: rest => do
      putOption false 'x'
      putOption false 'v'
      return (rest, !rest.isEmpty)
    | ('-' :: cs) :: rest => do putOptions n (← putLetters true cs rest)
    | ('+' :: c :: cs) :: rest => do putOptions n (← putLetters false (c :: cs) rest)
    | args => return (args, false)

/-- Sets options and the arguments of the script, or lists all variables. -/
def set (args : List Text) : Action Nat := do
  if args.isEmpty then listVariables [] fun v => v.value.isSome
  else
    let (rest, given) ← putOptions (args.length + 1) args
    if given || !rest.isEmpty then Action.change fun p => { p with args := rest, optionOffset := 0 }
  return 0

/-- Drops the first arguments of the script. -/
def shift (args : List Text) : Action Nat := do
  let count ← match args with
    | [] => pure 1
    | a :: _ => numberOrGiveUp a
  if (← Action.own).args.length < count then giveUp "can't shift that many"
  Action.change fun p => { p with args := p.args.drop count, optionOffset := 0 }
  return 0

/-- The place from which options are read: the number of the argument that comes next, and
how many letters of the one before it have been read, or 0 if it is done. -/
structure OptionPlace where
  index : Nat
  offset : Nat

/-- What has been read as an option. -/
inductive OptionFound
  /-- A letter, perhaps with its argument. -/
  | option (letter : Char) (argument : Text)
  | unknown (letter : Char)
  | noArgument (letter : Char)
  /-- There are no more options. -/
  | ended

/-- What a letter stands for in a list of letters, of which those before a colon take an
argument: none if it is not there. -/
def takesArgument? (c : Char) : Text → Option Bool
  | [] => none
  | [d] => if c == d then some false else none
  | d :: ':' :: s => if c == d then some true else takesArgument? c s
  | d :: s => if c == d then some false else takesArgument? c s

/-- Takes the next option from arguments, and gives the place after it. -/
def nextOption (letters : Text) (args : List Text) (place : OptionPlace) :
    OptionFound × OptionPlace :=
  let begun :=
    if place.offset == 0 || place.index ≤ 1 then []
    else (args[place.index - 2]?.getD []).drop place.offset
  if begun.isEmpty then
    match args[place.index - 1]? with
    | some ['-', '-'] => (.ended, ⟨place.index + 1, 0⟩)
    | some ('-' :: c :: rest) => after c rest (place.index + 1) 2
    | _ => (.ended, ⟨place.index, 0⟩)
  else after (begun.headD '?') (begun.drop 1) place.index (place.offset + 1)
where
  /-- Deals with a letter, given the rest of its word and the place of that. -/
  after (c : Char) (rest : Text) (index offset : Nat) : OptionFound × OptionPlace :=
    let place : OptionPlace := ⟨index, if rest.isEmpty then 0 else offset⟩
    match takesArgument? c letters with
    | none => (.unknown c, place)
    | some false => (.option c [], place)
    | some true =>
      if !rest.isEmpty then (.option c rest, ⟨index, 0⟩)
      else
        match args[index - 1]? with
        | some a => (.option c a, ⟨index + 1, 0⟩)
        | none => (.noArgument c, ⟨index, 0⟩)

/-- Takes the next option from the arguments of the script, or from the given ones. -/
def getopts (args : List Text) : Action Nat := do
  match args with
  | letters :: name :: rest =>
    let p ← Action.own
    let index := max 1 ((natural? (valueOf p "OPTIND")).getD 1)
    let quiet := letters.head? == some ':'
    let (found, place) :=
      nextOption letters (if rest.isEmpty then p.args else rest) ⟨index, p.optionOffset⟩
    let argumentName := "OPTARG".toList
    let complain (letter : Char) (message : Text) : Action Unit := do
      if quiet then assign argumentName [letter]
      else
        forget argumentName
        Action.write 2 (message ++ ['\n'])
    let shownLetter ←
      match found with
      | .option c a => do
        assign argumentName a
        pure c
      | .unknown c => do
        complain c ("Illegal option -".toList ++ [c])
        pure '?'
      | .noArgument c => do
        complain c ("No arg for -".toList ++ c :: " option".toList)
        pure (if quiet then ':' else '?')
      | .ended => pure '?'
    assign optionIndexName (numeral place.index)
    Action.change fun p => { p with optionOffset := place.offset }
    assign name [shownLetter]
    return match found with
      | .ended => 1
      | _ => 0
  | _ => giveUp "Usage: getopts optstring var [arg...]"

/-! ### Reading a line -/

/-- A character of a line that is read, and whether a backslash keeps it from separating. -/
abbrev LineChar := Char × Bool

/-- Whether a character of a line separates. -/
def splitsAt (sep : Separators) (c : LineChar) : Bool :=
  !c.2 && sep.separates c.1

/-- Whether a character of a line separates as a blank does. -/
def blankAt (sep : Separators) (c : LineChar) : Bool :=
  !c.2 && sep.isBlank c.1

/-- The text after a field and the one separator behind it. -/
def pastSeparator (sep : Separators) (s : List LineChar) : List LineChar :=
  let s := s.dropWhile (blankAt sep)
  match s with
  | c :: r => if splitsAt sep c then r.dropWhile (blankAt sep) else s
  | [] => []

/-- The text for the last variable: one separator at its end is left out, and blanks. -/
def lastField (sep : Separators) (s : List LineChar) : Text :=
  let field := s.takeWhile fun c => !splitsAt sep c
  if (pastSeparator sep (s.drop field.length)).isEmpty then field.map Prod.fst
  else (s.reverse.dropWhile (blankAt sep)).reverse.map Prod.fst

/-- The texts for so many variables. -/
def fieldsFor (sep : Separators) : Nat → List LineChar → List Text
  | 0, _ => []
  | 1, s => [lastField sep s]
  | n + 1, s =>
    let field := s.takeWhile fun c => !splitsAt sep c
    field.map Prod.fst :: fieldsFor sep n (pastSeparator sep (s.drop field.length))

/-- The characters of a line without its backslashes, and whether the line goes on
because its end has one in front. -/
def unescapeLine : Text → List LineChar × Bool
  | [] => ([], false)
  | '\\' :: '\n' :: _ => ([], true)
  | '\\' :: c :: s =>
    let (cs, more) := unescapeLine s
    ((c, true) :: cs, more)
  | ['\\'] => ([], false)
  | '\n' :: _ => ([], false)
  | c :: s =>
    let (cs, more) := unescapeLine s
    ((c, false) :: cs, more)

/-- Reads a line, joined with the next if its end has a backslash in front, and says whether
it was whole. -/
def lineChars (raw : Bool) : Action (List LineChar × Bool) := do
  let store ← Action.newPipe ({} : Pipe)
  let mut ended := false
  Action.repeatTurns Action.turnMax do
    let line ← Action.readLine
    Action.changePipe store fun p => p.put line
    let joined := !raw && line.getLast? == some '\n' &&
      ((line.dropLast.reverse.takeWhile (· == '\\')).length % 2 == 1)
    return joined
  let text := (← Action.pipeAt store).content.filter fun c => c.toNat != 0
  ended := text.getLast? == some '\n'
  if raw then
    return (((if ended then text.dropLast else text).map fun c => (c, false)), ended)
  else return (joinedChars (text.length + 1) text, ended)
where
  /-- The characters of lines that are joined. -/
  joinedChars : Nat → Text → List LineChar
    | 0, _ => []
    | n + 1, s =>
      let (cs, more) := unescapeLine s
      if more then
        cs ++ joinedChars n (afterJoin s)
      else cs
  /-- The text after the first line end that has a backslash in front. -/
  afterJoin : Text → Text
    | '\\' :: '\n' :: s => s
    | '\\' :: _ :: s => afterJoin s
    | _ :: s => afterJoin s
    | [] => []

/-- Reads a line into variables. The status is 1 if there was no whole line. -/
def read (args : List Text) : Action Nat := do
  let (given, names) ← options "r" "p" args
  if names.isEmpty then giveUp "arg count"
  let raw := (given.map Prod.fst).contains 'r'
  let (line, ended) ← lineChars raw
  let sep := separators (← Action.own)
  let values := fieldsFor sep names.length (line.dropWhile (blankAt sep))
  for (name, value) in names.zip values do
    requireName name
    assign name value
  return if ended then 0 else 1

end Builtin
end Shell
end StressBench
