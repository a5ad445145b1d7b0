/-
# Patterns for names

A star in a pattern stands for any characters, a question mark for any one, and a
set in brackets for one of its characters, or with `!` for one that is not among
them. A name that begins with a dot is not matched by any of these at its
beginning.

Key definitions: `Shell.CharSet`, `Shell.Mark`, `Shell.marksOf`, `Shell.matchesPattern`,
`Shell.matchesName`.
-/
import StressBench.Shell.Command

namespace StressBench
namespace Shell

/-! ### Sets of characters -/

/-- A set of characters: those in some ranges, or all but those. -/
structure CharSet where
  ranges : List (Char × Char)
  others : Bool := false
  deriving DecidableEq, Repr

/-- Whether a character is in a set. -/
def CharSet.contains (set : CharSet) (c : Char) : Bool :=
  (set.ranges.any fun r => r.1.toNat ≤ c.toNat && c.toNat ≤ r.2.toNat) != set.others

/-- The set of one character. -/
def CharSet.single (c : Char) : CharSet :=
  ⟨[(c, c)], false⟩

/-- The ranges of a named class of ASCII characters. -/
def classRanges? (name : String) : Option (List (Char × Char)) :=
  match name with
  | "upper" => some [('A', 'Z')]
  | "lower" => some [('a', 'z')]
  | "digit" => some [('0', '9')]
  | "alpha" => some [('A', 'Z'), ('a', 'z')]
  | "alnum" => some [('0', '9'), ('A', 'Z'), ('a', 'z')]
  | "xdigit" => some [('0', '9'), ('A', 'F'), ('a', 'f')]
  | "space" => some [('\t', '\r'), (' ', ' ')]
  | "blank" => some [('\t', '\t'), (' ', ' ')]
  | "punct" => some [('!', '/'), (':', '@'), ('[', Char.ofNat 96), ('\x7b', '~')]
  | "print" => some [(' ', '~')]
  | "graph" => some [('!', '~')]
  | "cntrl" => some [(Char.ofNat 0, Char.ofNat 31), (Char.ofNat 127, Char.ofNat 127)]
  | _ => none

/-- The name of the class that is written `[:name:]` here, and how many characters
that takes. -/
def classAt? (s : Text) : Option (List (Char × Char) × Nat) :=
  match s with
  | '[' :: ':' :: s =>
    let name := s.takeWhile Char.isAlpha
    match s.drop name.length with
    | ':' :: ']' :: _ => (classRanges? (String.ofList name)).map fun r => (r, name.length + 4)
    | _ => none
  | _ => none

/-! ### Patterns -/

/-- An element of a pattern. -/
inductive Mark
  | char (c : Char)
  | one
  | many
  | among (set : CharSet)
  deriving DecidableEq, Repr

/-- A character of a pattern, and whether it is quoted and so stands for itself. -/
abbrev PatternChar := Char × Bool

/-- The ranges of a set up to the bracket that closes it, and what comes after that.
The first character is taken even if it is a bracket. -/
def rangesAt : Nat → Bool → List PatternChar →
    Option (List (Char × Char) × List PatternChar)
  | 0, _, _ | _, _, [] => none
  | n + 1, first, (c, quoted) :: s =>
    if c == ']' && !quoted && !first then some ([], s)
    else
      match (if quoted then none else classAt? (((c, quoted) :: s).map Prod.fst)) with
      | some (ranges, length) =>
        (rangesAt n false (s.drop (length - 1))).map fun (rs, rest) => (ranges ++ rs, rest)
      | none =>
        let (c, s) :=
          match c == '\\' && !quoted, s with
          | true, (x, _) :: s => (x, s)
          | _, s => (c, s)
        match s with
        | ('-', false) :: (high, q) :: s' =>
          if high == ']' && !q then
            (rangesAt n false s).map fun (rs, rest) => ((c, c) :: rs, rest)
          else
            (rangesAt n false s').map fun (rs, rest) => ((c, high) :: rs, rest)
        | s => (rangesAt n false s).map fun (rs, rest) => ((c, c) :: rs, rest)

/-- The set that the text after an opening bracket writes, and what comes after it. -/
def setAt? (s : List PatternChar) : Option (CharSet × List PatternChar) :=
  match s with
  | ('!', false) :: s => (rangesAt (s.length + 1) true s).map fun (rs, rest) => (⟨rs, true⟩, rest)
  | s => (rangesAt (s.length + 1) true s).map fun (rs, rest) => (⟨rs, false⟩, rest)

/-- The elements of a pattern. A backslash that is not quoted stands for the
character after it. -/
def marksFrom : Nat → List PatternChar → List Mark
  | 0, _ | _, [] => []
  | n + 1, ('*', false) :: s => .many :: marksFrom n s
  | n + 1, ('?', false) :: s => .one :: marksFrom n s
  | n + 1, ('\\', false) :: (c, _) :: s => .char c :: marksFrom n s
  | n + 1, ('[', false) :: s =>
    match setAt? s with
    | some (set, rest) => .among set :: marksFrom n rest
    | none => .char '[' :: marksFrom n s
  | n + 1, (c, _) :: s => .char c :: marksFrom n s

/-- The elements of a pattern. -/
def marksOf (s : List PatternChar) : List Mark :=
  marksFrom s.length s

/-- The elements of a pattern that a text writes. -/
def marksOfText (s : Text) : List Mark :=
  marksOf (s.map fun c => (c, false))

/-! ### Matching -/

/-- Whether a text has the form of a pattern. -/
def matchesPattern : List Mark → Text → Bool
  | [], s => s.isEmpty
  | .char c :: ms, x :: s => c == x && matchesPattern ms s
  | .char _ :: _, [] => false
  | .one :: ms, _ :: s => matchesPattern ms s
  | .one :: _, [] => false
  | .among set :: ms, x :: s => set.contains x && matchesPattern ms s
  | .among _ :: _, [] => false
  | [.many], _ => true
  | .many :: ms, s =>
    matchesPattern ms s ||
      match s with
      | _ :: s => matchesPattern (.many :: ms) s
      | [] => false
termination_by ms s => ms.length + s.length

/-- Whether the name of an entry has the form of a pattern. -/
def matchesName (ms : List Mark) (name : Text) : Bool :=
  (name.head? != some '.' || ms.head? == some (.char '.')) && matchesPattern ms name

/-- Whether a pattern stands for more than one text. -/
def isOpen (ms : List Mark) : Bool :=
  ms.any fun m =>
    match m with
    | .char _ => false
    | _ => true

/-- The numbers up to one, the least or the greatest first. -/
def upTo (n : Nat) (leastFirst : Bool) : List Nat :=
  let ns := List.range (n + 1)
  if leastFirst then ns else ns.reverse

/-- The text without the shortest or the longest beginning that a pattern matches. -/
def withoutFront (ms : List Mark) (longest : Bool) (s : Text) : Text :=
  match (upTo s.length (!longest)).find? fun n => matchesPattern ms (s.take n) with
  | some n => s.drop n
  | none => s

/-- The text without the shortest or the longest end that a pattern matches. -/
def withoutBack (ms : List Mark) (longest : Bool) (s : Text) : Text :=
  match (upTo s.length longest).find? fun n => matchesPattern ms (s.drop n) with
  | some n => s.take n
  | none => s

end Shell
end StressBench
