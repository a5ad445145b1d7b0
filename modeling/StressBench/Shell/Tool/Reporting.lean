/-
# A tool that carries out rules for records

`awk` runs a program on the records of files, which are their lines unless it says otherwise.

Key definitions: `RuleOptions`, `RuleOptions.read`, `Tool.awk`.
-/
import StressBench.Shell.Rule.Run
import StressBench.Shell.Tool.Basic

namespace StressBench
namespace Shell
namespace Tool

/-- What the options say, and the arguments behind them. -/
structure RuleOptions where
  /-- Files with the text of the program. -/
  files : List Text := []
  /-- The variables that are set before. -/
  settings : List (Text × Text) := []
  operands : List Text := []

namespace RuleOptions

/-- The options with one more; what is said of a setting that is none. -/
def adding (o : RuleOptions) (letter : Char) (value : Text) : Except String RuleOptions :=
  match letter with
  | 'F' => .ok { o with settings := o.settings ++ [("FS".toList, value)] }
  | 'f' => .ok { o with files := o.files ++ [value] }
  | _ =>
    let name := value.takeWhile fun c => c.isAlphanum || c == '_'
    match name.head?, value.drop name.length with
    | some c, '=' :: text =>
      if c.isDigit then .error ("improper assignment: -v " ++ shown value)
      else .ok { o with settings := o.settings ++ [(name, text)] }
    | _, _ => .error ("improper assignment: -v " ++ shown value)

/-- Reads the options; what is wrong with them. -/
def read : RuleOptions → List Text → Except String RuleOptions
  | o, [] => .ok o
  | o, ['-', '-'] :: rest => .ok { o with operands := rest }
  | o, ('-' :: 'W' :: _) :: rest => read o rest
  | o, ('-' :: letter :: value) :: rest =>
    if ['F', 'f', 'v'].contains letter then
      match value, rest with
      | [], [] => .error ("option -" ++ letter.toString ++ " lacks argument")
      | [], value :: rest =>
        match o.adding letter value with
        | .error message => .error message
        | .ok o => read o rest
      | value, rest =>
        match o.adding letter value with
        | .error message => .error message
        | .ok o => read o rest
    else .error ("not an option: " ++ shown ('-' :: letter :: value))
  | o, operands => .ok { o with operands }

end RuleOptions

/-- The text of a program in files; the file that cannot be read. -/
def programIn : List Text → Action (Except (Text × Nat) Text)
  | [] => return .ok []
  | path :: rest => do
    match ← withInput path Action.readAll with
    | .error e => return .error (path, e)
    | .ok text => return (← programIn rest).map fun more => text ++ '\n' :: more

/-- Carries out rules for the records of files. -/
def awk (r : Runner) : Tool := fun name args => do
  match RuleOptions.read {} args with
  | .error message => refuse name message 2
  | .ok o =>
    let source ← match o.files, o.operands with
      | [], [] => pure (.ok none)
      | [], text :: operands => pure (.ok (some (text, operands)))
      | files, operands => do
        pure ((← programIn files).map fun text => some (text, operands))
    match source with
    | .error (path, e) =>
      refuse name ("cannot open " ++ "\"" ++ shown path ++ "\" (" ++ Errno.text e ++ ")") 2
    | .ok none => return 0
    | .ok (some (text, operands)) =>
      match Rule.Program.read text with
      | .error fault => refuse name fault.message 2
      | .ok program =>
        let environment := (← Action.own).vars.filterMap fun v => v.2.value.map fun s => (v.1, s)
        let (status, message) ← Rule.run ⟨r, program⟩ (name :: operands) o.settings environment
        match message with
        | some message => refuse name message status
        | none => return status

end Tool
end Shell
end StressBench
