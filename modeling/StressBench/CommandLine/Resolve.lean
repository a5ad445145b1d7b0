/-
# From arguments to the settings of a run

The base directory is made absolute from the current directory, and the paths of
the compiler and of the scratch file are made absolute from it. Without a base
directory the one of the program's executable is taken. The flags `-v` and `-q`
move the display level up and down between 0 and 4.

Key definitions: `levelOfFlags`, `Surroundings`, `Surroundings.ofProcess`, `ConfigError`,
`Args.base?`, `Args.toConfig`.
-/
import StressBench.CommandLine.Parse

namespace StressBench

/-- The display level without flags. -/
def defaultLevel : Nat := 2

/-- The highest display level. -/
def maxLevel : Nat := 4

/-- A display level that is set: none is higher than the highest. -/
def clampLevel (level : Nat) : Nat :=
  min level maxLevel

/-- The display level for so many flags up and down. -/
def levelOfFlags (verbose quiet : Nat) : Nat :=
  clampLevel (defaultLevel + verbose - quiet)

namespace CommandLine

/-- The display level that the arguments ask for. -/
def Args.displayLevel (a : Args) : Nat :=
  levelOfFlags a.verbose a.quiet

/-- What the program knows of where it runs: the current directory and the
directory of its executable, if they can be told. -/
structure Surroundings where
  currentDir : Except IoError Path
  executableDir : Except IoError Path

/-- The directory that an executable lies in. -/
def anchorOf (executable : Path) : Except IoError Path :=
  match executable.parent? with
  | some dir => .ok dir
  | none => .error (.custom .notFound "harness executable has no parent directory")

/-- What a process knows that can tell the current directory and the path of its executable. -/
def Surroundings.ofProcess (currentDir executable : Except IoError Path) : Surroundings where
  currentDir
  executableDir := executable.bind anchorOf

/-- Why there are no settings although the arguments are right. -/
inductive ConfigError
  | currentDir (source : IoError)
  | executableDir (source : IoError)
  deriving DecidableEq, Repr

/-- The sentence that names the error. -/
def ConfigError.message : ConfigError → String
  | .currentDir e => "cannot read the current directory: " ++ e.message
  | .executableDir e => "cannot locate the harness executable: " ++ e.message

/-- The base directory: the one given, from the current directory, or else the
executable's. -/
def Args.base? (a : Args) (s : Surroundings) : Except ConfigError Path :=
  match a.baseDir with
  | some dir =>
    if dir.isAbsolute then .ok dir
    else
      match s.currentDir with
      | .ok cwd => .ok (Path.join cwd dir)
      | .error e => .error (.currentDir e)
  | none =>
    match s.executableDir with
    | .ok dir => .ok dir
    | .error e => .error (.executableDir e)

/-- The settings of a run with a base directory. -/
def Args.configAt (a : Args) (base : Path) : Config :=
  let config := Config.ofBase a.numLines base
  { config with
    compiler :=
      match a.compiler with
      | some p => Path.join base p
      | none => defaultCompiler base
    scratchPath :=
      match a.output with
      | some p => Path.join base p
      | none => config.scratchPath
    seed := a.seed
    timeout := a.timeout
    keepScratch := a.keep }

/-- The settings of a run. -/
def Args.toConfig (a : Args) (s : Surroundings) : Except ConfigError Config :=
  (a.base? s).map a.configAt

end CommandLine
end StressBench
