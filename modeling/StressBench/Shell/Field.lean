/-
# Fields

A word, its expansions replaced, is a list of glyphs. What comes from an expansion
outside quotes is split at separators; the rest stays together. A field with an
open pattern in it is replaced by the names of the disk that it matches, if it
matches any.

Key definitions: `Shell.Glyph`, `Shell.splitFields`, `Shell.namesMatching`, `Shell.fieldTexts`.
-/
import StressBench.Disk.Resolve
import StressBench.Shell.Pattern

namespace StressBench
namespace Shell

/-! ### Glyphs -/

/-- A character of a word whose expansions have been replaced, or the trace of an
expansion without characters. -/
inductive Glyph
  /-- A character that is not split at. -/
  | char (c : Char) (quoted : Bool)
  /-- A character of an expansion outside quotes. -/
  | loose (c : Char)
  /-- There were quotes here, so that the field is there even if it is empty. -/
  | mark
  /-- A field ends here. -/
  | border
  deriving DecidableEq, Repr

/-- The glyphs of a text that an expansion gives. -/
def glyphsOf (s : Text) (quoted : Bool) : List Glyph :=
  if quoted then .mark :: s.map fun c => .char c true else s.map .loose

/-- The character of a glyph. -/
def Glyph.char? : Glyph → Option Char
  | .char c _ | .loose c => some c
  | .mark | .border => none

/-- The text of glyphs. -/
def textOfGlyphs (gs : List Glyph) : Text :=
  gs.filterMap Glyph.char?

/-- The text of glyphs as the pattern that it is. -/
def patternOfGlyphs (gs : List Glyph) : List PatternChar :=
  gs.filterMap fun g =>
    match g with
    | .char c quoted => some (c, quoted)
    | .loose c => some (c, false)
    | .mark | .border => none

/-! ### Splitting -/

/-- The characters that fields are split at. Blanks among them make no empty fields. -/
structure Separators where
  chars : Text := [' ', '\t', '\n']
  deriving DecidableEq, Repr

/-- Whether a character separates fields. -/
def Separators.separates (s : Separators) (c : Char) : Bool :=
  s.chars.contains c

/-- Whether a character separates fields as a blank does. -/
def Separators.isBlank (s : Separators) (c : Char) : Bool :=
  (c == ' ' || c == '\t' || c == '\n') && s.separates c

/-- What has been split so far: the fields, latest first, the field that has begun with
its latest glyph first, and whether a blank has ended the last field, so that one
separator may still follow. -/
structure Splitting where
  fields : List (List Glyph) := []
  current : Option (List Glyph) := none
  afterBlank : Bool := false

namespace Splitting

/-- Ends the field that has begun. -/
def close (s : Splitting) : Splitting :=
  match s.current with
  | some gs => { fields := gs.reverse :: s.fields }
  | none => s

/-- Adds a glyph to the field. -/
def add (s : Splitting) (g : Glyph) : Splitting :=
  { s with current := some (g :: s.current.getD []), afterBlank := false }

/-- Goes on with a glyph. -/
def next (sep : Separators) (s : Splitting) (g : Glyph) : Splitting :=
  match g with
  | .border => { s.close with afterBlank := false }
  | .loose c =>
    if sep.isBlank c then
      if s.current.isSome then { s.close with afterBlank := true } else s
    else if sep.separates c then
      if s.current.isSome then s.close
      else if s.afterBlank then { s with afterBlank := false }
      else { s with fields := [] :: s.fields }
    else s.add g
  | g => s.add g

end Splitting

/-- The fields of glyphs. -/
def splitFields (sep : Separators) (gs : List Glyph) : List (List Glyph) :=
  (gs.foldl (Splitting.next sep) {}).close.fields.reverse

/-! ### Names -/

/-- The paths that a list of patterns matches, name by name. `before` is the path
so far as it is written. -/
def namesMatching (d : Disk) (loc : Location) (before : Text) : List (List Mark) → List Text
  | [] => [before]
  | [] :: rest => namesMatching d loc (before ++ if rest.isEmpty then [] else ['/']) rest
  | ms :: rest =>
    let literal := ms.filterMap fun m =>
      match m with
      | .char c => some c
      | _ => none
    let names := (d.children loc).map ofBytes
    let here := if ms.head? == some (.char '.') then [['.'], ['.', '.']] else []
    let matching :=
      if isOpen ms then
        if d.mayList loc then ((here ++ names).filter (matchesName ms)).mergeSort fun a b =>
          Text.order a b != .gt
        else []
      else if names.contains literal || literal == ['.'] || literal == ['.', '.'] then [literal]
      else []
    if rest.isEmpty then matching.map (before ++ ·)
    else
      matching.flatMap fun n =>
        match directoryBelow? d loc (toBytes n) with
        | some inside => namesMatching d inside (before ++ n ++ ['/']) rest
        | none => []
where
  /-- The directory of a name in a directory. -/
  directoryBelow? (d : Disk) (loc : Location) (name : Name) : Option Location :=
    match d.lookup loc name with
    | .ok (inside, .directory _) => some inside
    | _ => none

/-- Whether a pattern may stand for more than one text. -/
def mayBeOpen (cs : List PatternChar) : Bool :=
  cs.any fun (c, quoted) => !quoted && (c == '*' || c == '?' || c == '[')

/-- The texts that a field stands for. -/
def fieldTexts (d : Disk) (cwd : Location) (field : List Glyph) : List Text :=
  let pattern := patternOfGlyphs field
  if !mayBeOpen pattern then [textOfGlyphs field]
  else
    let marks := marksOf pattern
    let parts := marks.splitOnP (· == .char '/')
    let found :=
      if isOpen marks then
        namesMatching d (if marks.head? == some (.char '/') then [] else cwd) [] parts
      else []
    if found.isEmpty then [textOfGlyphs field] else found

end Shell
end StressBench
