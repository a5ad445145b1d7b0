/-
# The arguments of the program

The program takes one positional argument, the number of lines, options with a
value, flags that may be given once, flags that are counted, and the two flags
that ask for the help and the version. A setting that is given badly is told by
its label.

Key definitions: `CommandLine.Item`, `Item.ofLong?`, `Item.ofShort?`, `Item.label`,
`CommandLine.helpText`.
-/
import StressBench.Harness
import StressBench.Number.Timeout
import StressBench.Text.Terminal

namespace StressBench
namespace CommandLine

/-- The name of the program. -/
def programName : String := "sasm-stress"

/-- The version of the program. -/
def version : String := "0.3.0"

/-- An argument that can be given. -/
inductive Item
  | numLines
  | baseDir
  | compiler
  | output
  | seed
  | timeout
  | generateOnly
  | keep
  | verbose
  | quiet
  | help
  | version
  deriving DecidableEq, Repr

namespace Item

/-- The name after two dashes. -/
def long : Item → Option String
  | .numLines => none
  | .baseDir => some "base-dir"
  | .compiler => some "compiler"
  | .output => some "output"
  | .seed => some "seed"
  | .timeout => some "timeout"
  | .generateOnly => some "generate-only"
  | .keep => some "keep"
  | .verbose => some "verbose"
  | .quiet => some "quiet"
  | .help => some "help"
  | .version => some "version"

/-- The letter after one dash. -/
def short : Item → Option Char
  | .output => some 'o'
  | .verbose => some 'v'
  | .quiet => some 'q'
  | .help => some 'h'
  | .version => some 'V'
  | _ => none

/-- The name of the value, for an item that takes one. -/
def valueName : Item → Option String
  | .numLines => some "NUM_LINES"
  | .baseDir => some "DIR"
  | .compiler | .output => some "PATH"
  | .seed => some "SEED"
  | .timeout => some "SECS"
  | _ => none

/-- Whether the item is followed by a value. -/
def takesValue (i : Item) : Bool :=
  i.valueName.isSome

/-- Whether the item counts how often it is given. -/
def isCounted : Item → Bool
  | .verbose | .quiet => true
  | _ => false

/-- The item as an error message names it. -/
def label (i : Item) : String :=
  let value := (i.valueName.map fun v => "<" ++ v ++ ">").getD ""
  match i.long with
  | none => value
  | some name =>
    "--" ++ name ++ (if i.isCounted then "..." else "") ++
      (if value.isEmpty then "" else " " ++ value)

/-- The items that are given by a name or a letter. -/
def named : List Item :=
  [.baseDir, .compiler, .output, .seed, .timeout, .generateOnly, .keep, .verbose, .quiet, .help,
    .version]

/-- The item of a name. -/
def ofLong? (name : Text) : Option Item :=
  named.find? fun i => i.long == some (String.ofList name)

/-- The item of a letter. -/
def ofShort? (letter : Char) : Option Item :=
  named.find? fun i => i.short == some letter

end Item

/-! ### Help -/

/-- The name that the help shows: the last name of the path that the program was
called by, if it is a text. -/
def calledAs (command : Path) : String :=
  match command.fileName?.bind Utf8.decode? with
  | some name => String.ofList name
  | none => programName

/-- The line that shows how the program is called, with its name set off. -/
def usageLine (name : String) : String :=
  "Usage: " ++ Terminal.setOff name ++ " [OPTIONS] <NUM_LINES>"

/-- The help of the program. -/
def helpText (name : String) : String :=
  "Generate and run a StartASM front-end stress test\n\n" ++ usageLine name ++ "\n\n" ++
  "Arguments:\n" ++
  "  <NUM_LINES>  Number of lines to include in the stress test file (at least 2)\n\n" ++
  "Options:\n" ++
  "      --base-dir <DIR>   Anchor directory for relative paths and the compiler's working " ++
  "directory [default: directory of this executable]\n" ++
  "      --compiler <PATH>  Compiler executable [default: <base-dir>/../startasm]\n" ++
  "  -o, --output <PATH>    Scratch corpus file [default: <base-dir>/StressTest.sasm]\n" ++
  "      --seed <SEED>      Seed the generator for a reproducible corpus\n" ++
  "      --timeout <SECS>   Kill the compiler if it runs longer than this many seconds\n" ++
  "      --generate-only    Only write the corpus (kept on disk); do not run the compiler\n" ++
  "      --keep             Keep the scratch corpus after the benchmark\n" ++
  "  -v, --verbose...       More progress output (repeatable)\n" ++
  "  -q, --quiet...         Less progress output (repeatable)\n" ++
  "  -h, --help             Print help\n" ++
  "  -V, --version          Print version\n"

/-- The version of the program as it is shown. -/
def versionText : String :=
  programName ++ " " ++ version ++ "\n"

end CommandLine
end StressBench
