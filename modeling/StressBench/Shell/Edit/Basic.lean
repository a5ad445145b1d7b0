/-
# Editing lines: the commands

A script of an editor is a row of commands. Each is carried out for the lines that it
selects, on a text that is being edited and a text that is put aside.

Key definitions: `Edit.Address`, `Edit.Selection`, `Edit.Part`, `Edit.Substitution`,
`Edit.Deed`, `Edit.Command`, `Edit.Substitution.apply`, `Edit.listed`.
-/
import StressBench.Shell.Regex.Reader
import StressBench.Shell.Tool.Basic

namespace StressBench
namespace Shell
namespace Edit

/-! ### Which lines are selected -/

/-- A line, by its number or by what it holds. -/
inductive Address
  | line (number : Nat)
  | last
  /-- Every so manyth line from a first one on. -/
  | every (first step : Nat)
  /-- Lines in which an expression matches; without one it is that which was used last. -/
  | holding (matcher : Option Matcher)

/-- The end of a range of lines. -/
inductive Stop
  | address (a : Address)
  | further (lines : Nat)
  | multiple (of : Nat)

/-- The lines that a command is for. -/
inductive Selection
  | all
  | one (a : Address)
  | range (first : Address) (last : Stop)

/-! ### Commands -/

/-- How letters are changed in what takes the place of a match. -/
inductive Casing
  | plain
  | upper
  | lower
  | upperOnce
  | lowerOnce
  deriving DecidableEq, Repr

/-- A part of what takes the place of a match. -/
inductive Part
  | text (s : Text)
  | group (number : Nat)
  | casing (c : Casing)
  deriving DecidableEq, Repr

/-- What takes the place of matches, and of which. -/
structure Substitution where
  matcher : Option Matcher
  parts : List Part
  /-- All matches from the first that counts, not only that one. -/
  every : Bool := false
  /-- The first match that counts. -/
  first : Nat := 1
  prints : Bool := false
  file : Option Text := none

/-- What a command does. A jump without a label leads to the end. -/
inductive Deed
  | block
  | close
  | label (name : Text)
  | lineNumber
  | append (s : Text)
  | insert (s : Text)
  | change (s : Text)
  | jump (label : Text)
  | jumpIfDone (label : Text)
  | jumpUnlessDone (label : Text)
  | delete
  | deleteFirst
  | get
  | getMore
  | hold
  | holdMore
  | exchange
  | list (width : Option Nat)
  | next
  | nextMore
  | print
  | printFirst
  | quit (status : Nat)
  | quitSilently (status : Nat)
  | readFile (path : Text)
  | readLine (path : Text)
  | substitute (s : Substitution)
  | replace (pairs : List (Char × Char))
  | write (path : Text)
  | writeFirst (path : Text)
  | clear
  | fileName

/-- A command: the lines that it is for, or that it is not for, and what it does. -/
structure Command where
  selection : Selection := .all
  inverted : Bool := false
  deed : Deed

/-! ### Replacing matches -/

/-- The state of letters in what takes the place of a match: how they are changed from here
on, and how the next one is. -/
structure CasingState where
  lasting : Casing := .plain
  once : Casing := .plain

/-- A text with its letters changed. -/
def cased (c : Casing) (s : Text) : Text :=
  match c with
  | .upper | .upperOnce => s.map Char.toUpper
  | .lower | .lowerOnce => s.map Char.toLower
  | .plain => s

/-- Adds a text to what has been written so far. -/
def CasingState.write (k : CasingState) (s : Text) : Text × CasingState :=
  match s with
  | [] => ([], k)
  | c :: rest =>
    if k.once == .plain then (cased k.lasting s, k)
    else (cased k.once [c] ++ cased k.lasting rest, { k with once := .plain })

/-- The state after a change of letters. -/
def CasingState.change (k : CasingState) : Casing → CasingState
  | .upperOnce => { k with once := .upperOnce }
  | .lowerOnce => { k with once := .lowerOnce }
  | c => ⟨c, .plain⟩

/-- What takes the place of a match. -/
def replacement (m : Match) : CasingState → List Part → Text
  | _, [] => []
  | k, .text s :: rest =>
    let (s, k) := k.write s
    s ++ replacement m k rest
  | k, .group n :: rest =>
    let (s, k) := k.write (m.group n)
    s ++ replacement m k rest
  | k, .casing c :: rest => replacement m (k.change c) rest

/-- Replaces matches from a place on, `count` of which lie before it. `done` is the text before
the place, latest first. Gives the text and whether anything was replaced. A match of no
text just behind another one does not count. -/
def replaceFrom (s : Substitution) (matcher : Matcher) :
    Nat → Nat → Option Nat → Bool → Text → Place → Text × Bool
  | 0, _, _, changed, done, p => (done.reverse ++ p.rest, changed)
  | n + 1, count, stop, changed, done, p =>
    match matcher.search? p with
    | none => (done.reverse ++ p.rest, changed)
    | some m =>
      let before := (p.rest.take (m.start.index - p.index)).reverse ++ done
      let after := m.stop.place
      if m.length == 0 && stop == some m.start.index then
        match m.start.rest with
        | [] => (before.reverse, changed)
        | c :: _ => replaceFrom s matcher n count none changed (c :: before) m.start.next
      else
        let counts := s.first ≤ count + 1
        let own := if counts then replacement m {} s.parts else m.text
        let before := own.reverse ++ before
        let changed := changed || counts
        if counts && !s.every then (before.reverse ++ after.rest, changed)
        else if m.length == 0 then
          match after.rest with
          | [] => (before.reverse, changed)
          | c :: _ => replaceFrom s matcher n (count + 1) none changed (c :: before) after.next
        else replaceFrom s matcher n (count + 1) (some after.index) changed before after

/-- The text with matches replaced, and whether any was. -/
def Substitution.apply (s : Substitution) (matcher : Matcher) (line : Text) : Text × Bool :=
  replaceFrom s matcher (2 * line.length + 2) 0 none false [] (.start line)

/-! ### Showing a text plainly -/

/-- A character as it is listed. -/
def listedChar (c : Char) : Text :=
  match c.toNat with
  | 7 => ['\\', 'a']
  | 8 => ['\\', 'b']
  | 9 => ['\\', 't']
  | 10 => ['\\', 'n']
  | 11 => ['\\', 'v']
  | 12 => ['\\', 'f']
  | 13 => ['\\', 'r']
  | 92 => ['\\', '\\']
  | n => if 32 ≤ n && n < 127 then [c] else '\\' :: Tool.digitsIn 8 3 '0' n

/-- Lists characters in lines of a width, or in one line for the width 0. `used` is how much of
the line is used. -/
def listedFrom (width : Nat) : Nat → Text → Text
  | _, [] => ['$', '\n']
  | used, c :: s =>
    let shown := listedChar c
    if 0 < width && width - 1 < used + shown.length then
      '\\' :: '\n' :: shown ++ listedFrom width shown.length s
    else shown ++ listedFrom width (used + shown.length) s

/-- A text as it is listed, with a dollar sign at its end. -/
def listed (width : Nat) (s : Text) : Text :=
  listedFrom width 0 s

end Edit
end Shell
end StressBench
