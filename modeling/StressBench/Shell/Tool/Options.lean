/-
# Options of tools

An option is a letter behind a dash or a name behind two, which may be cut short as
long as it is clear. Some take an argument, in the same word or in the next. Options
and other arguments may be mixed, unless a tool wants the options first; after two
dashes there are no more options.

Key definitions: `OptionForm`, `Options`, `Options.read`, `Tool.withOptions`.
-/
import StressBench.Shell.Tool.Basic

namespace StressBench
namespace Shell

/-- Whether an option takes an argument. -/
inductive Taking
  | nothing
  | argument
  | perhaps
  deriving DecidableEq, Repr

/-- A form of option: its letter, its name and whether it takes an argument. -/
structure OptionForm where
  letter : Option Char
  name : String
  taking : Taking
  deriving DecidableEq, Repr

namespace OptionForm

/-- What the option is looked up by: its letter if it has one, else its name. -/
def key (f : OptionForm) : String :=
  match f.letter with
  | some c => c.toString
  | none => f.name

/-- Reads a form such as `n/lines=`: a letter, a name, and an equals sign for an
argument or a question mark for one that may be missing. -/
def ofText (s : Text) : OptionForm :=
  let taking : Taking :=
    match s.getLast? with
    | some '=' => .argument
    | some '?' => .perhaps
    | _ => .nothing
  let s := if taking == .nothing then s else s.dropLast
  match s with
  | '/' :: name => ⟨none, String.ofList name, taking⟩
  | c :: '/' :: name => ⟨some c, String.ofList name, taking⟩
  | c :: _ => ⟨some c, "", taking⟩
  | [] => ⟨none, "", taking⟩

/-- Reads forms with blanks between them. -/
def listOfText (s : String) : List OptionForm :=
  ((s.toList.splitOnP (· == ' ')).filter (!·.isEmpty)).map ofText

end OptionForm

/-- The options and the other arguments of a call, in order. -/
structure Options where
  given : List (String × Text) := []
  operands : List Text := []
  deriving DecidableEq, Repr

namespace Options

/-- Whether an option was given. -/
def has (o : Options) (key : String) : Bool :=
  o.given.any fun p => p.1 == key

/-- The argument with which an option was given last. -/
def last? (o : Options) (key : String) : Option Text :=
  (o.given.reverse.find? fun p => p.1 == key).map Prod.snd

/-- Which of some options was given last. -/
def lastOf? (o : Options) (keys : List String) : Option String :=
  (o.given.reverse.find? fun p => keys.contains p.1).map Prod.fst

/-- Adds an option. -/
def give (o : Options) (key : String) (argument : Text) : Options :=
  { o with given := (key, argument) :: o.given }

/-- Adds an argument that is no option. -/
def operand (o : Options) (s : Text) : Options :=
  { o with operands := s :: o.operands }

/-- The options of one word of letters. The argument of the last may be the next word,
in which case it is asked for. -/
def letters (forms : List OptionForm) (o : Options) : Text → Except String (Options × Option String)
  | [] => .ok (o, none)
  | c :: s =>
    match forms.find? fun f => f.letter == some c with
    | none => .error ("invalid option -- '" ++ shown [c] ++ "'")
    | some f =>
      match f.taking with
      | .nothing => letters forms (o.give f.key []) s
      | .perhaps => .ok (o.give f.key s, none)
      | .argument => if s.isEmpty then .ok (o, some f.key) else .ok (o.give f.key s, none)

/-- The form that a name stands for. -/
def formOf (forms : List OptionForm) (name : Text) : Except String OptionForm :=
  let full := "'--" ++ shown name ++ "'"
  match forms.find? fun f => !f.name.isEmpty && f.name.toList == name with
  | some f => .ok f
  | none =>
    match forms.filter fun f => !f.name.isEmpty && name.isPrefixOf f.name.toList with
    | [f] => .ok f
    | [] => .error ("unrecognized option " ++ full)
    | f :: fs =>
      if fs.all fun g => g.key == f.key then .ok f
      else
        .error ("option " ++ full ++ " is ambiguous; possibilities:" ++
          String.join ((f :: fs).map fun f => " '--" ++ f.name ++ "'"))

/-- Reads arguments. `mixed` says that options may stand behind other arguments. The
options are given latest first. -/
def readOn (forms : List OptionForm) (mixed : Bool) (o : Options) : List Text →
    Except String Options
  | [] => .ok o
  | ['-', '-'] :: rest => .ok { o with operands := rest.reverse ++ o.operands }
  | ('-' :: '-' :: s) :: rest =>
    let name := s.takeWhile (· != '=')
    let argument := if name.length < s.length then some (s.drop (name.length + 1)) else none
    match formOf forms name with
    | .error e => .error e
    | .ok f =>
      let full := "'--" ++ f.name ++ "'"
      match f.taking, argument, rest with
      | .nothing, some _, _ => .error ("option " ++ full ++ " doesn't allow an argument")
      | .argument, none, [] => .error ("option " ++ full ++ " requires an argument")
      | .argument, none, a :: rest => readOn forms mixed (o.give f.key a) rest
      | _, a, rest => readOn forms mixed (o.give f.key (a.getD [])) rest
  | ('-' :: c :: cs) :: rest =>
    match letters forms o (c :: cs), rest with
    | .error e, _ => .error e
    | .ok (o, none), rest => readOn forms mixed o rest
    | .ok (_, some key), [] => .error ("option requires an argument -- '" ++ key ++ "'")
    | .ok (o, some key), a :: rest => readOn forms mixed (o.give key a) rest
  | a :: rest =>
    if mixed then readOn forms mixed (o.operand a) rest
    else .ok { o with operands := (a :: rest).reverse ++ o.operands }

/-- Reads arguments by the forms of options there are. -/
def read (forms : List OptionForm) (mixed : Bool) (args : List Text) : Except String Options :=
  (readOn forms mixed {} args).map fun o => ⟨o.given.reverse, o.operands.reverse⟩

end Options

namespace Tool

/-- A tool with options of some forms, which gives a status to arguments that it does
not understand. -/
def withOptions (forms : String) (status : Nat) (tool : Text → Options → Action Nat) : Tool :=
  fun name args => do
    match Options.read (OptionForm.listOfText forms) true args with
    | .error message => misuse name message status
    | .ok o => tool name o

/-- A tool with options of some forms that stand in front of its other arguments. -/
def withLeadingOptions (forms : String) (status : Nat) (tool : Text → Options → Action Nat) :
    Tool := fun name args => do
  match Options.read (OptionForm.listOfText forms) false args with
  | .error message => misuse name message status
  | .ok o => tool name o

end Tool
end Shell
end StressBench
