/-
# Expansions

Before a command is run its words are replaced by fields: a tilde by a home directory,
a parameter by its value, a command by what it prints, an expression by its value. How
a command is run is not known here; a taker runs it and gives what it has printed.

Key definitions: `Taker`, `Expansion.glyphs`, `Expansion.text`, `Expansion.fields`,
`Expansion.commandFields`.
-/
import StressBench.Shell.Arithmetic
import StressBench.Shell.Reader
import StressBench.Shell.Variable

namespace StressBench
namespace Shell

/-- A way to run a command and to take what it prints. -/
abbrev Taker := Command → Action Text

namespace Expansion

/-! ### Home directories -/

/-- The home directory of a user; no name stands for the user itself. -/
def homeOf? (p : Process) (user : Text) : Option Text :=
  if user.isEmpty then valueOf? p "HOME".toList
  else if user == "root".toList then some "/root".toList
  else none

/-- The parts of a text with tildes replaced: at its beginning if that is where a word
begins, and in the value of a variable also behind colons. `atEnd` says that the word ends
with the text. -/
def tildesIn (p : Process) (inValue begins atEnd : Bool) : Nat → Text → Word
  | 0, s => [.text s false]
  | n + 1, s =>
    let isEnd (c : Char) := c == '/' || (inValue && c == ':')
    let user := (s.drop 1).takeWhile fun c => !isEnd c
    let behind := s.drop (user.length + 1)
    let replaced? :=
      if begins && s.head? == some '~' && (atEnd || !behind.isEmpty) then homeOf? p user else none
    let (front, s) : Word × Text :=
      match replaced? with
      | some home => ([.text home true], behind)
      | none => ([], s)
    let plain := if inValue then s.takeWhile (· != ':') else s
    let rest := s.drop plain.length
    if rest.isEmpty then front ++ if s.isEmpty && !front.isEmpty then [] else [.text s false]
    else
      front ++ .text (plain ++ [':']) false :: tildesIn p inValue true atEnd n (rest.drop 1)

/-- A word with its tildes replaced. -/
def withTildes (p : Process) (inValue : Bool) (begins : Bool) : Word → Word
  | [] => []
  | .text s false :: parts =>
    if s.contains '~' then
      tildesIn p inValue begins parts.isEmpty (s.length + 1) s ++
        withTildes p inValue (inValue && s.getLast? == some ':') parts
    else .text s false :: withTildes p inValue (inValue && s.getLast? == some ':') parts
  | part :: parts => part :: withTildes p inValue false parts

/-! ### Parameters -/

/-- The glyphs of texts that are fields of their own. -/
def apart (texts : List Text) (quoted : Bool) : List Glyph :=
  [Glyph.border].intercalate (texts.map fun a => glyphsOf a quoted)

/-- Refuses a parameter that is not set, in the words that are given for that. -/
def refuseUnset {α : Type} (p : Parameter) (words : Text) : Action α :=
  giveUpWith (nameOfParameter p ++ ':' :: ' ' :: words)

/-- Refuses a parameter that is not set, if the shell has been told to. -/
def requireSet (p : Parameter) (value : Option Text) : Action Unit := do
  let isList := match p with
    | .joined | .separate => true
    | _ => false
  if value.isNone && !isList && (← Action.own).options.contains 'u' then
    refuseUnset p "parameter not set".toList

/-- The glyphs of the value of a parameter. All arguments are fields of their own where
fields are split. -/
def valueGlyphs (split : Bool) (p : Parameter) (quoted : Bool) : Action (List Glyph) := do
  let process ← Action.own
  let value := valueOfParameter process p
  requireSet p value
  match p with
  | .separate =>
    if split then return apart process.args quoted
    else return glyphsOf ([' '].intercalate process.args) quoted
  | .joined =>
    if split && !quoted then return apart process.args false
    else return glyphsOf (value.getD []) quoted
  | _ => return glyphsOf (value.getD []) quoted

/-- What is said of a parameter that is not set. -/
def unsetWords (filled : Bool) : Text :=
  "parameter not set".toList ++ if filled then " or null".toList else []

/-- The glyphs of an expansion outside quotes, which may be split. -/
def loosened (gs : List Glyph) : List Glyph :=
  gs.map fun g =>
    match g with
    | .char c false => .loose c
    | g => g

/-! ### Expressions -/

/-- The number of a variable in an expression. -/
def numberOfVariable (name : Text) : Action Int64 := do
  let p ← Action.own
  match valueOf? p name with
  | none =>
    requireSet (.variable name) none
    return 0
  | some s =>
    let text := s.dropWhile fun c => c == ' ' || c == '\t' || c == '\n'
    let (negative, digits) :=
      match text with
      | '-' :: r => (true, r)
      | '+' :: r => (false, r)
      | r => (false, r)
    match Arithmetic.numberAt? digits with
    | some (n, rest) =>
      if (Arithmetic.pastSpace rest).isEmpty then
        let n := Arithmetic.saturated n
        return if negative then -n else n
      else giveUpWith ("Illegal number: ".toList ++ s)
    | none => if text.isEmpty then return 0 else giveUpWith ("Illegal number: ".toList ++ s)

/-- Refuses an expression. -/
def refuseExpression {α : Type} (source : Text) (fault : Arithmetic.Fault) : Action α :=
  giveUpWith ("arithmetic expression: ".toList ++ fault.message.toList ++ ": \"".toList ++ source ++
    ['"'])

/-- The value of an expression. -/
def valueOfExpression (source : Text) : Action Text := do
  match Arithmetic.ofText source with
  | .error fault => refuseExpression source fault
  | .ok e =>
    let value ← Arithmetic.evaluate numberOfVariable
      (fun name v => assign name (showInteger v.toInt))
      (refuseExpression source .divisionByZero) e
    return showInteger value.toInt

/-! ### Words -/

mutual

/-- The glyphs of the parts of a word. -/
def glyphs (take : Taker) (split : Bool) : Nat → Word → Action (List Glyph)
  | 0, _ => throw (.killed 11)
  | _, [] => return []
  | n + 1, [part] => partGlyphs take split n part
  | n + 1, part :: parts => do
    let here ← partGlyphs take split n part
    return here ++ (← glyphs take split n parts)

/-- The glyphs of a part of a word. -/
def partGlyphs (take : Taker) (split : Bool) : Nat → Part → Action (List Glyph)
  | 0, _ => throw (.killed 11)
  | n + 1, part => do
    match part with
    | .text s quoted => return if s.isEmpty then [.mark] else s.map fun c => .char c quoted
    | .output command quoted => return glyphsOf (← take command) quoted
    | .arithmetic parts quoted => do
      let source := textOfGlyphs (← glyphs take false n parts)
      return glyphsOf (← valueOfExpression source) quoted
    | .parameter p .value _ quoted => valueGlyphs split p quoted
    | .parameter p use word quoted => useGlyphs take split n p use word quoted

/-- The glyphs of what an expansion makes of a parameter. -/
def useGlyphs (take : Taker) (split : Bool) : Nat → Parameter → Use → Word → Bool →
    Action (List Glyph)
  | 0, _, _, _, _ => throw (.killed 11)
  | n + 1, p, use, word, quoted => do
    let process ← Action.own
    let value := valueOfParameter process p
    let lacks (filled : Bool) := value.isNone || (filled && (value.getD []).isEmpty)
    let inWord (split : Bool) : Action (List Glyph) := do
      let here ← Action.own
      let word := if quoted then word else withTildes here false true word
      let gs ← glyphs take split n word
      return if quoted then .mark :: gs else loosened gs
    match use with
    | .value => valueGlyphs split p quoted
    | .unknown => giveUp "Bad substitution"
    | .size => do
      requireSet p value
      return glyphsOf (numeral (value.getD []).length) quoted
    | .fallback filled => if lacks filled then inWord split else valueGlyphs split p quoted
    | .instead filled =>
      if lacks filled then return if quoted then [.mark] else [] else inWord split
    | .initial filled =>
      if lacks filled then do
        let text := textOfGlyphs (← inWord false)
        requireName (nameOfParameter p)
        assign (nameOfParameter p) text
        return glyphsOf text quoted
      else valueGlyphs split p quoted
    | .demand filled =>
      if lacks filled then do
        let text := textOfGlyphs (← inWord false)
        refuseUnset p (if word.isEmpty then unsetWords filled else text)
      else valueGlyphs split p quoted
    | .withoutFront longest => do
      requireSet p value
      let marks := marksOf (patternOfGlyphs (← glyphs take false n word))
      return glyphsOf (withoutFront marks longest (value.getD [])) quoted
    | .withoutBack longest => do
      requireSet p value
      let marks := marksOf (patternOfGlyphs (← glyphs take false n word))
      return glyphsOf (withoutBack marks longest (value.getD [])) quoted

end

/-- The most parts that a word has within one another and in a row. -/
def depthMax : Nat := 1000000

/-- The glyphs of a word that is not split, its tildes replaced. -/
def unsplit (take : Taker) (inValue : Bool) (word : Word) : Action (List Glyph) := do
  glyphs take false depthMax (withTildes (← Action.own) inValue true word)

/-- The text of a word that is not split. -/
def text (take : Taker) (inValue : Bool) (word : Word) : Action Text := do
  return textOfGlyphs (← unsplit take inValue word)

/-- The fields of a word. -/
def fieldsOfWord (take : Taker) (word : Word) : Action (List Text) := do
  match word with
  | [.text s true] => return [s]
  | word =>
    let gs ← glyphs take true depthMax (withTildes (← Action.own) false true word)
    let p ← Action.own
    let d ← Action.disk
    let fields := splitFields (separators p) gs
    if p.options.contains 'f' then return fields.map textOfGlyphs
    else return fields.flatMap (fieldTexts d p.cwd)

/-- The fields of words. -/
def fields (take : Taker) (words : List Word) : Action (List Text) := do
  match words with
  | [word] => fieldsOfWord take word
  | words =>
    let mut found : List (List Text) := []
    for word in words do
      found := (← fieldsOfWord take word) :: found
    return found.reverse.flatten

/-! ### Words of a command -/

/-- The commands of the shell whose arguments may give variables values. -/
def declaring : List Text :=
  ["export", "readonly", "local", "alias"].map String.toList

/-- Whether the first fields of a command name one whose arguments may give variables
values. -/
def isDeclaring (fields : List Text) : Bool :=
  match fields.dropWhile (· == "command".toList) with
  | name :: _ => declaring.contains name
  | [] => false

/-- The fields of the words of a command. What gives a variable a value is not split, where
the command wants that. -/
def commandFields (take : Taker) (words : List Word) : Action (List Text) := do
  let mut found : List Text := []
  for word in words do
    if isDeclaring found then
      match assignmentOf? word with
      | some (name, value) => found := found ++ [name ++ '=' :: (← text take true value)]
      | none => found := found ++ (← fieldsOfWord take word)
    else if found.isEmpty then found := ← fieldsOfWord take word
    else found := found ++ (← fieldsOfWord take word)
  return found

end Expansion
end Shell
end StressBench
