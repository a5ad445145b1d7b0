/-
# Regular expressions

An expression leads from a place in a text to the places that it can reach from there.
These are kept in order of preference: of two alternatives the first comes first, and a
repetition goes as far as it can. A match is the longest that begins first; where the
groups lie in it is told by the most preferred way to its end.

Key definitions: `Regex`, `Edge`, `Place`, `Reach`, `Regex.reach`, `Matcher`, `Matcher.search?`.
-/
import StressBench.Shell.Pattern

namespace StressBench
namespace Shell

/-! ### Places in a text -/

/-- A place in a text: the character before it, what comes after it, and its distance from
the beginning. -/
structure Place where
  before : Option Char := none
  rest : Text
  index : Nat := 0
  deriving DecidableEq, Repr

namespace Place

/-- The beginning of a text. -/
def start (s : Text) : Place where
  rest := s

/-- The place one character further on. -/
def next (p : Place) : Place :=
  match p.rest with
  | c :: s => ⟨some c, s, p.index + 1⟩
  | [] => p

/-- The place some characters further on. -/
def forward (p : Place) (n : Nat) : Place :=
  n.repeat next p

end Place

/-- What a place may be asked to be. -/
inductive Edge
  | textStart
  | textEnd
  | lineStart
  | lineEnd
  | wordStart
  | wordEnd
  | wordEdge
  | inWord
  deriving DecidableEq, Repr

/-- Whether a character belongs to words. -/
def isWordChar (c : Char) : Bool :=
  c == '_' || c.isAlphanum

/-- Whether a place is what it is asked to be. -/
def Edge.holds (e : Edge) (p : Place) : Bool :=
  let wordBefore := (p.before.map isWordChar).getD false
  let wordAfter := (p.rest.head?.map isWordChar).getD false
  match e with
  | .textStart => p.index == 0
  | .textEnd => p.rest.isEmpty
  | .lineStart => p.index == 0 || p.before == some '\n'
  | .lineEnd => p.rest.isEmpty || p.rest.head? == some '\n'
  | .wordStart => !wordBefore && wordAfter
  | .wordEnd => wordBefore && !wordAfter
  | .wordEdge => wordBefore != wordAfter
  | .inWord => wordBefore == wordAfter

/-! ### Expressions -/

/-- A regular expression. -/
inductive Regex
  | nothing
  | among (set : CharSet)
  | edge (e : Edge)
  /-- The text that a group has matched, in any case of letters if that is wanted. -/
  | again (number : Nat) (folds : Bool)
  | group (number : Nat) (body : Regex)
  | both (first second : Regex)
  | either (first second : Regex)
  | repeated (body : Regex) (least : Nat) (most : Option Nat)
  deriving Repr

/-- Where a group has matched. -/
structure Span where
  start : Place
  stop : Nat
  deriving DecidableEq, Repr

/-- The text of a group. -/
def Span.text (s : Span) : Text :=
  s.start.rest.take (s.stop - s.start.index)

/-- A place that has been reached, and where the groups lie on the way to it. -/
structure Reach where
  place : Place
  groups : List (Nat × Span) := []
  deriving DecidableEq, Repr

namespace Reach

/-- The reach after a group that began at a place. -/
def closing (number : Nat) (start : Place) (x : Reach) : Reach :=
  { x with
    groups := (number, ⟨start, x.place.index⟩) :: x.groups.filter fun g => g.1 != number }

/-- The reach after a character of a set. -/
def step (set : CharSet) (x : Reach) : Option Reach :=
  match x.place.rest with
  | c :: s => if set.contains c then some { x with place := ⟨some c, s, x.place.index + 1⟩ }
      else none
  | [] => none

/-- The reach after the text of a group. A group that has not matched has none. -/
def stepAgain (number : Nat) (folds : Bool) (x : Reach) : Option Reach :=
  match x.groups.lookup number with
  | none => none
  | some span =>
    let text := span.text
    let same := if folds then
      (x.place.rest.take text.length).map Char.toLower == text.map Char.toLower
      else text.isPrefixOf x.place.rest
    if same then some { x with place := x.place.forward text.length } else none

end Reach

/-- Those of some reaches that come first to their places. Where the text of groups matters
all are kept. -/
def firstReaches (all : Bool) : Nat → List Reach → List Reach
  | _, [] => []
  | seen, x :: xs =>
    if all then x :: xs
    else if seen.testBit x.place.index then firstReaches all seen xs
    else x :: firstReaches all (seen ||| (1 <<< x.place.index)) xs

/-- The reaches of as many steps as there can be, at most so many, the longest way first. They
are put before others, with a set of the places that need not be looked at. -/
def fullReaches (all : Bool) (step : Reach → List Reach) :
    Nat → Nat × List Reach → Reach → Nat × List Reach
  | 0, (seen, done), x => (seen, x :: done)
  | n + 1, (seen, done), x =>
    if !all && seen.testBit x.place.index then (seen, done)
    else
      let further := (step x).filter fun y => x.place.index < y.place.index
      let (seen, done) :=
        further.foldl (fullReaches all step n) (seen ||| (1 <<< x.place.index), done)
      (seen, x :: done)

/-- The reaches of characters of a set one after the other, the longest way first, with a set
of the places that need not be looked at. -/
def charReaches (set : CharSet) : Nat → Nat → List Reach → Reach → Nat × List Reach
  | 0, seen, way, _ => (seen, way)
  | n + 1, seen, way, x =>
    if seen.testBit x.place.index then (seen, way)
    else
      let seen := seen ||| (1 <<< x.place.index)
      match x.step set with
      | some y => charReaches set n seen (x :: way) y
      | none => (seen, x :: way)

/-- The reaches of at most so many steps, the longest way first. -/
def someReaches (all : Bool) (step : Reach → List Reach) : Nat → Reach → List Reach
  | 0, x => [x]
  | n + 1, x =>
    let further := (step x).filter fun y => x.place.index < y.place.index
    firstReaches all 0 (further.flatMap (someReaches all step n) ++ [x])

namespace Regex

/-- The places that an expression reaches from some places, each in order of preference. -/
def reach (all : Bool) : Regex → List Reach → List Reach
  | .nothing, xs => xs
  | .among set, xs => xs.filterMap (Reach.step set)
  | .edge e, xs => xs.filter fun x => e.holds x.place
  | .again number folds, xs => firstReaches all 0 (xs.filterMap (Reach.stepAgain number folds))
  | .group number body, xs =>
    firstReaches all 0
      (xs.flatMap fun x => (reach all body [x]).map (Reach.closing number x.place))
  | .both a b, xs => reach all b (reach all a xs)
  | .either a b, xs =>
    firstReaches all 0 (xs.flatMap fun x => reach all a [x] ++ reach all b [x])
  | .repeated body least most, xs =>
    let begun := least.repeat (fun xs => firstReaches all 0 (reach all body xs)) xs
    match most, body with
    | some most, _ =>
      firstReaches all 0
        (begun.flatMap (someReaches all (fun x => reach all body [x]) (most - least)))
    | none, .among set =>
      (begun.foldl (fun (acc : Nat × List Reach) x =>
        let (seen, way) := charReaches set (x.place.rest.length + 1) acc.1 [] x
        (seen, way.reverse ++ acc.2)) (0, [])).2.reverse
    | none, _ =>
      (begun.foldl (fun acc x =>
        fullReaches all (fun x => reach all body [x]) (x.place.rest.length + 1) acc x)
        (0, [])).2.reverse

/-- Whether the text of a group matters. -/
def refersBack : Regex → Bool
  | .again .. => true
  | .nothing | .among _ | .edge _ => false
  | .group _ r | .repeated r _ _ => refersBack r
  | .both a b | .either a b => refersBack a || refersBack b

/-- The sets of characters of which one comes first in every match, if there are such. -/
def heads? : Regex → Option (List CharSet)
  | .among set => some [set]
  | .nothing | .again .. | .edge _ => none
  | .group _ r => heads? r
  | .both (.edge _) b => heads? b
  | .both a _ => heads? a
  | .either a b =>
    match heads? a, heads? b with
    | some s, some t => some (s ++ t)
    | _, _ => none
  | .repeated r least _ => if least == 0 then none else heads? r

end Regex

/-! ### Matches -/

/-- An expression that is ready to be looked for. -/
structure Matcher where
  regex : Regex
  all : Bool
  heads : Option (List CharSet)

/-- Where an expression matches: the beginning, and the end with the groups. -/
structure Match where
  start : Place
  stop : Reach
  deriving DecidableEq, Repr

namespace Match

/-- The length of a match. -/
def length (m : Match) : Nat :=
  m.stop.place.index - m.start.index

/-- The text of a match. -/
def text (m : Match) : Text :=
  m.start.rest.take m.length

/-- The text of a group, the whole match being group 0; no text for one that has no part in
the match. -/
def group (m : Match) (number : Nat) : Text :=
  if number == 0 then m.text else ((m.stop.groups.lookup number).map Span.text).getD []

end Match

namespace Matcher

/-- Makes an expression ready. -/
def ofRegex (regex : Regex) : Matcher :=
  ⟨regex, regex.refersBack, regex.heads?⟩

/-- The longest of some reaches, the first of those that are as long. -/
def longest : List Reach → Option Reach
  | [] => none
  | x :: xs => some (xs.foldl (fun best y =>
      if best.place.index < y.place.index then y else best) x)

/-- The longest match that begins at a place and is accepted. -/
def matchAt? (m : Matcher) (accept : Place → Place → Bool) (p : Place) : Option Match :=
  let ends := m.regex.reach m.all [{ place := p }]
  (longest (ends.filter fun x => accept p x.place)).map fun x => ⟨p, x⟩

/-- Whether a match may begin with a character. -/
def mayBegin (m : Matcher) (c : Char) : Bool :=
  match m.heads with
  | some sets => sets.any fun set => set.contains c
  | none => true

/-- The first match from a place on that is accepted, the longest that begins there. -/
def searchOn (m : Matcher) (accept : Place → Place → Bool) :
    Option Char → Nat → Text → Option Match
  | before, index, [] => if m.heads.isSome then none else m.matchAt? accept ⟨before, [], index⟩
  | before, index, c :: s =>
    let here := if m.mayBegin c then m.matchAt? accept ⟨before, c :: s, index⟩ else none
    match here with
    | some found => some found
    | none => searchOn m accept (some c) (index + 1) s

/-- The first match from a place on, the longest that begins there. -/
def search? (m : Matcher) (p : Place) : Option Match :=
  m.searchOn (fun _ _ => true) p.before p.index p.rest

/-- Whether there is a match in a text. -/
def isIn (m : Matcher) (s : Text) : Bool :=
  (m.search? (.start s)).isSome

end Matcher

end Shell
end StressBench
