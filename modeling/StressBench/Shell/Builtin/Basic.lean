/-
# Commands of the shell: options

A command of the shell is carried out in the shell's own process. Its options are
letters; the first word that has none ends them.

Key definitions: `Builtin.options`.
-/
import StressBench.Shell.Variable

namespace StressBench
namespace Shell
namespace Builtin

/-- Reads the letters of one word. A letter in `taking` takes the rest of the word, or
else the next word. -/
def letters (allowed taking : Text) (rest : List Text) : Text →
    Action (List (Char × Text) × List Text)
  | [] => return ([], rest)
  | c :: s => do
    if taking.contains c then
      match s, rest with
      | [], [] => giveUpWith ("No arg for -".toList ++ [c] ++ " option".toList)
      | [], a :: rest => return ([(c, a)], rest)
      | s, rest => return ([(c, s)], rest)
    else if allowed.contains c then
      let (more, rest) ← letters allowed taking rest s
      return ((c, []) :: more, rest)
    else giveUpWith ("Illegal option -".toList ++ [c])

/-- The options at the beginning of arguments, and the other arguments. -/
def optionsWithin : Nat → Text → Text → List Text → Action (List (Char × Text) × List Text)
  | 0, _, _, args => return ([], args)
  | n + 1, allowed, taking, args => do
    match args with
    | ['-', '-'] :: rest => return ([], rest)
    | ('-' :: c :: cs) :: rest =>
      let (given, rest) ← letters allowed taking rest (c :: cs)
      let (more, rest) ← optionsWithin n allowed taking rest
      return (given ++ more, rest)
    | args => return ([], args)

/-- The options at the beginning of arguments, and the other arguments. Options that
are not allowed are refused. -/
def options (allowed taking : String) (args : List Text) : Action
    (List (Char × Text) × List Text) :=
  optionsWithin (args.length + 1) allowed.toList taking.toList args

end Builtin
end Shell
end StressBench
