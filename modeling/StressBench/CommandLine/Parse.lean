/-
# Reading the arguments

The arguments are read from the left. A value that stands apart from its option
is looked at only when the next setting begins or the arguments end, so that an
unknown argument behind a bad value is told first. After `--` every argument is
positional. At the end the settings are checked against each other, and then for
the number of lines, which must be there.

Key definitions: `CommandLine.Args`, `UsageError`, `parseNumLines`, `Draft`, `Draft.commit`,
`scan`, `CommandLine.parse`.
-/
import StressBench.CommandLine.Item

namespace StressBench
namespace CommandLine

/-! ### Settings -/

/-- The settings that a command line gives. -/
structure Args where
  numLines : Nat
  baseDir : Option Path
  compiler : Option Path
  output : Option Path
  seed : Option UInt64
  timeout : Option Duration
  generateOnly : Bool
  keep : Bool
  verbose : Nat
  quiet : Nat
  deriving DecidableEq, Repr

/-- Why a text is not a number of lines. -/
inductive NumLinesFault
  | notANumber
  | tooFew (n : Nat)
  deriving DecidableEq, Repr

/-- The number of lines that a text gives, blanks around it aside. -/
def parseNumLines (text : Text) : Except NumLinesFault Nat :=
  match Decimal.readBelow UInt64.size (Text.trim text) with
  | .error _ => .error .notANumber
  | .ok n => if n < minLines then .error (.tooFew n) else .ok n

/-- The seed that a text gives. -/
def parseSeed (text : Text) : Except Decimal.Fault UInt64 :=
  match Decimal.readBelow UInt64.size text with
  | .error e => .error e
  | .ok n => .ok (UInt64.ofNat n)

/-! ### Errors -/

/-- What is wrong with a value. -/
inductive ValueFault
  | numLines (fault : NumLinesFault)
  | seed (fault : Decimal.Fault)
  | timeout (fault : Timeout.Fault)
  deriving DecidableEq, Repr

/-- The sentence that names the fault of a value. -/
def ValueFault.message (value : Text) : ValueFault → String
  | .numLines .notANumber => "`" ++ String.ofList value ++ "` is not a non-negative integer"
  | .numLines (.tooFew n) =>
    "corpus needs at least " ++ toString minLines ++ " lines (header and terminator), got " ++
      toString n
  | .seed f => f.message
  | .timeout f => f.message value

/-- Why a command line gives no settings: it asks for the help or the version, or
something is wrong with it. -/
inductive UsageError
  | help
  | version
  | unknownArgument (text : Text)
  | missingValue (item : Item)
  | badValue (item : Item) (value : Text) (fault : ValueFault)
  | notUnicode
  | repeated (item : Item)
  | conflict (item other : Item)
  | unexpectedValue (item : Item) (value : Text)
  | missingNumLines
  deriving DecidableEq, Repr

namespace UsageError

open Terminal (setOff)

/-- The sentence that names the error, with what it quotes set off; none for the help
and the version. -/
def sentence? : UsageError → Option String
  | .help | .version => none
  | .unknownArgument t => some ("unexpected argument '" ++ setOff (String.ofList t) ++ "' found")
  | .missingValue i =>
    some ("a value is required for '" ++ setOff i.label ++ "' but none was supplied")
  | .badValue i v f =>
    some ("invalid value '" ++ setOff (String.ofList v) ++ "' for '" ++ setOff i.label ++ "': " ++
      f.message v)
  | .notUnicode => some "invalid UTF-8 was detected in one or more arguments"
  | .repeated i => some ("the argument '" ++ setOff i.label ++ "' cannot be used multiple times")
  | .conflict i j =>
    some ("the argument '" ++ setOff i.label ++ "' cannot be used with '" ++ setOff j.label ++ "'")
  | .unexpectedValue i v =>
    some ("unexpected value '" ++ setOff (String.ofList v) ++ "' for '" ++ setOff i.label ++
      "' found; no more were expected")
  | .missingNumLines =>
    some ("the following required arguments were not provided:\n  " ++ setOff Item.numLines.label)

/-- Whether the error is one of a single value, so that it does not help to show how
the program is called. -/
def isOfValue : UsageError → Bool
  | .missingValue _ | .badValue .. => true
  | _ => false

/-- What is shown, before the escape sequences are taken out: the help, the version,
or the error, how the program is called, and where to learn more. -/
def marked (name : String) (e : UsageError) : String :=
  match e.sentence? with
  | none => if e = .version then versionText else helpText name
  | some sentence =>
    setOff "error:" ++ " " ++ sentence ++
      (if e.isOfValue then "" else "\n\n" ++ usageLine name) ++
      "\n\nFor more information, try '" ++ setOff "--help" ++ "'.\n"

/-- What is shown. `name` is what the program was called by. -/
def message (name : String) (e : UsageError) : String :=
  Terminal.plainString (e.marked name)

/-- Whether what was asked for is shown, and nothing is wrong. -/
def isDisplay : UsageError → Bool
  | .help | .version => true
  | _ => false

/-- The exit code of the program after the error. -/
def exitCode (e : UsageError) : Nat :=
  if e.isDisplay then 0 else 2

end UsageError

/-! ### A command line read in part -/

/-- The settings read so far. `modes` are the flags given that may be given once,
in order. `pending` is an item that has begun, with its value if that has come. -/
structure Draft where
  numLines : Option Nat := none
  baseDir : Option Path := none
  compiler : Option Path := none
  output : Option Path := none
  seed : Option UInt64 := none
  timeout : Option Duration := none
  modes : List Item := []
  verbose : Nat := 0
  quiet : Nat := 0
  pending : Option (Item × Option Bytes) := none
  deriving DecidableEq, Repr

/-- The most that a flag is counted. -/
def countMax : Nat := 255

/-- A setting that must not be there yet. -/
def onlyOnce {α : Type} (item : Item) (earlier : Option α) (new : Except UsageError α) :
    Except UsageError (Option α) :=
  match earlier with
  | some _ => .error (.repeated item)
  | none => new.map some

/-- A path as a value: any bytes, at least one. -/
def pathValue (item : Item) (value : Bytes) : Except UsageError Path :=
  if value.isEmpty then .error (.missingValue item) else .ok value

/-- A value that is read from its text. -/
def textValue {α ε : Type} (item : Item) (value : Bytes) (read : Text → Except ε α)
    (fault : ε → ValueFault) : Except UsageError α :=
  match Utf8.decode? value with
  | none => .error .notUnicode
  | some text =>
    match read text with
    | .ok a => .ok a
    | .error e => .error (.badValue item text (fault e))

namespace Draft

/-- Gives an item its value. -/
def assign (d : Draft) (item : Item) (value : Bytes) : Except UsageError Draft :=
  match item with
  | .numLines => do
    let v ← onlyOnce item d.numLines (textValue item value parseNumLines .numLines)
    return { d with numLines := v }
  | .baseDir => do
    let v ← onlyOnce item d.baseDir (pathValue item value)
    return { d with baseDir := v }
  | .compiler => do
    let v ← onlyOnce item d.compiler (pathValue item value)
    return { d with compiler := v }
  | .output => do
    let v ← onlyOnce item d.output (pathValue item value)
    return { d with output := v }
  | .seed => do
    let v ← onlyOnce item d.seed (textValue item value parseSeed .seed)
    return { d with seed := v }
  | .timeout => do
    let v ← onlyOnce item d.timeout (textValue item value Timeout.parse .timeout)
    return { d with timeout := v }
  | _ => .ok d

/-- Ends the item that has begun. -/
def commit (d : Draft) : Except UsageError Draft :=
  match d.pending with
  | none => .ok d
  | some (item, none) => .error (.missingValue item)
  | some (item, some value) => { d with pending := none }.assign item value

/-- Gives an item a value that is attached to it. -/
def attach (d : Draft) (item : Item) (value : Bytes) : Except UsageError Draft := do
  let d ← d.commit
  d.assign item value

/-- Begins an item whose value, if there is one, comes next. -/
def start (d : Draft) (item : Item) (value : Option Bytes) : Except UsageError Draft := do
  let d ← d.commit
  return { d with pending := some (item, value) }

/-- Sets a flag. -/
def flag (d : Draft) (item : Item) : Except UsageError Draft := do
  let d ← d.commit
  match item with
  | .help => .error .help
  | .version => .error .version
  | .verbose => .ok { d with verbose := min countMax (d.verbose + 1) }
  | .quiet => .ok { d with quiet := min countMax (d.quiet + 1) }
  | _ =>
    if item ∈ d.modes then .error (.repeated item)
    else .ok { d with modes := d.modes ++ [item] }

/-- The option that waits for its value. -/
def awaiting? (d : Draft) : Option Item :=
  match d.pending with
  | some (item, none) => some item
  | _ => none

/-- Whether the number of lines has been given, if not yet looked at. -/
def hasNumLines (d : Draft) : Bool :=
  d.numLines.isSome ||
    match d.pending with
    | some (item, _) => item = .numLines
    | none => false

/-- Takes a positional argument: the number of lines, once. -/
def positional (d : Draft) (arg : Bytes) : Except UsageError Draft :=
  if d.hasNumLines then .error (.unknownArgument (Utf8.decodeLossy arg))
  else d.start .numLines (some arg)

/-- Takes an argument of two dashes, a name and perhaps `=` and a value. -/
def long (d : Draft) (name : Bytes) (value : Option Bytes) : Except UsageError Draft :=
  match (Utf8.decode? name).bind Item.ofLong? with
  | none => .error (.unknownArgument ('-' :: '-' :: Utf8.decodeLossy name))
  | some item =>
    match item.takesValue, value with
    | true, some v => d.attach item v
    | true, none => d.start item none
    | false, some v => .error (.unexpectedValue item (Utf8.decodeLossy v))
    | false, none => d.flag item

/-- Takes the letters after one dash, and the bytes after them that are no text.
A letter that takes a value takes the rest, without `=` in front. -/
def letters (d : Draft) (broken : Bytes) : Text → Except UsageError Draft
  | [] =>
    if broken.isEmpty then .ok d
    else .error (.unknownArgument ('-' :: Utf8.decodeLossy broken))
  | c :: cs =>
    match Item.ofShort? c with
    | none => .error (.unknownArgument ['-', c])
    | some item =>
      if item.takesValue then
        match cs, Utf8.encode cs ++ broken with
        | _, [] => d.start item none
        | '=' :: cs, _ => d.attach item (Utf8.encode cs ++ broken)
        | _, rest => d.attach item rest
      else
        match d.flag item with
        | .error e => .error e
        | .ok d => d.letters broken cs

/-- The settings, once all arguments have been read. -/
def finish (d : Draft) : Except UsageError Args := do
  let d ← d.commit
  match d.modes, d.numLines with
  | i :: j :: _, _ => .error (.conflict i j)
  | _, none => .error .missingNumLines
  | _, some numLines =>
    return {
      numLines
      baseDir := d.baseDir
      compiler := d.compiler
      output := d.output
      seed := d.seed
      timeout := d.timeout
      generateOnly := .generateOnly ∈ d.modes
      keep := .keep ∈ d.modes
      verbose := d.verbose
      quiet := d.quiet }

end Draft

/-! ### The whole command line -/

/-- The name and the value of the bytes after two dashes. -/
def splitLong (bs : Bytes) : Bytes × Option Bytes :=
  let name := bs.takeWhile (· != 0x3D)
  match bs.drop name.length with
  | [] => (name, none)
  | _ :: value => (name, some value)

/-- Takes an argument that is neither an option nor a flag: a value that is waited
for, or a positional argument. -/
def Draft.plain (d : Draft) (arg : Bytes) : Except UsageError Draft :=
  match d.awaiting? with
  | some item => .ok { d with pending := some (item, some arg) }
  | none => d.positional arg

/-- Takes one argument, not after `--`. -/
def Draft.take (d : Draft) : Bytes → Except UsageError Draft
  | 0x2D :: 0x2D :: rest =>
    let (name, value) := splitLong rest
    d.long name value
  | [0x2D] => d.plain [0x2D]
  | 0x2D :: rest =>
    let (text, broken) := Utf8.splitAtBreak rest
    d.letters broken text
  | arg => d.plain arg

/-- Reads the arguments; `positionalOnly` says that `--` has been passed. -/
def scan (positionalOnly : Bool) (d : Draft) : List Bytes → Except UsageError Draft
  | [] => .ok d
  | arg :: rest =>
    if positionalOnly then
      match d.positional arg with
      | .error e => .error e
      | .ok d => scan true d rest
    else if arg = [0x2D, 0x2D] then scan true d rest
    else
      match d.take arg with
      | .error e => .error e
      | .ok d => scan false d rest

/-- The settings that a command line gives; its first argument is the name that
the program was called by. -/
def parse (argv : List Bytes) : Except UsageError Args :=
  match scan false {} argv.tail with
  | .error e => .error e
  | .ok d => d.finish

end CommandLine
end StressBench
