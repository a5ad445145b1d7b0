/-
# Tools that list entries

`ls` lists names, those in a directory in order and after all others, and `stat` writes
what is known of an entry by a format.

Key definitions: `Tool.ls`, `Tool.stat`.
-/
import StressBench.Shell.Tool.Entries
import StressBench.Shell.Tool.Printing
import StressBench.Shell.Tool.Sorting

namespace StressBench
namespace Shell
namespace Tool

/-- The size of an entry. -/
def sizeOf : Entry → Nat
  | .file content _ => content.length
  | .link target => target.length
  | .directory _ => 4096
  | .device _ => 0

/-- The mode of an entry, with the letter of its kind. -/
def modeText : Entry → Text
  | .file _ mode => '-' :: Mode.words mode
  | .directory mode => 'd' :: Mode.words mode
  | .link _ => 'l' :: Mode.words 0o777
  | .device _ => 'c' :: Mode.words 0o666

/-- The bits of the mode of an entry. -/
def modeBits : Entry → Mode
  | .file _ mode | .directory mode => mode
  | .link _ => 0o777
  | .device _ => 0o666

/-- How names are listed. -/
structure ListingStyle where
  all : Bool
  almostAll : Bool
  asEntry : Bool
  long : Bool
  classified : Bool
  slashed : Bool
  reversed : Bool
  bySize : Bool
  unsorted : Bool
  deep : Bool
  width : Option Char

/-- The mark behind a name that tells its kind. -/
def markOf (s : ListingStyle) (e : Entry) : Text :=
  match e with
  | .directory _ => if s.classified || s.slashed then ['/'] else []
  | .link _ => if s.classified && !s.long then ['@'] else []
  | .file _ mode => if s.classified && mode &&& 0o111 != 0 then ['*'] else []
  | .device _ => []

/-- The names of entries in the order of a style. -/
def orderedNames (s : ListingStyle) (names : List (Text × Entry)) : List (Text × Entry) :=
  let byName := names.mergeSort fun a b => Text.order a.1 b.1 != .gt
  let sorted :=
    if s.unsorted then names
    else if s.bySize then byName.mergeSort fun a b => sizeOf b.2 ≤ sizeOf a.2
    else byName
  if s.reversed && !s.unsorted then sorted.reverse else sorted

/-- The lines of entries. -/
def entryLines (s : ListingStyle) (names : List (Text × Entry)) : Text :=
  let names := orderedNames s names
  if s.long then
    let width := names.foldl (fun w e => max w (numeral (sizeOf e.2)).length) 1
    names.flatMap fun (n, e) =>
      let target := match e with
        | .link target => " -> ".toList ++ ofBytes target
        | _ => []
      modeText e ++ " 1 root root ".toList ++ padLeft width (numeral (sizeOf e)) ++
        " Jan  1 00:00 ".toList ++ n ++ markOf s e ++ target ++ ['\n']
  else if s.width == some 'm' then
    if names.isEmpty then [] else (", ".toList).intercalate
      (names.map fun (n, e) => n ++ markOf s e) ++ ['\n']
  else names.flatMap fun (n, e) => n ++ markOf s e ++ ['\n']

/-- The names in a directory that are listed. -/
def namesIn (s : ListingStyle) (d : Disk) (loc : Location) : List (Text × Entry) :=
  let children := (d.children loc).filterMap fun n => (d.get (n :: loc)).map fun e => (ofBytes n, e)
  let dots : List (Text × Entry) :=
    if s.all then
      [(['.'], .directory (d.modeAt loc)), (['.', '.'], .directory (d.modeAt loc.tail))]
    else []
  dots ++ children.filter fun (n, _) => s.all || s.almostAll || n.head? != some '.'

/-- Lists a directory, and with `deep` those below it, and tells whether all of them could
be listed. `titled` puts its path in front. -/
def listDirectory (name : Text) (s : ListingStyle) (titled : Bool) :
    Nat → Bool → Text → Action Bool
  | 0, _, _ => return true
  | n + 1, first, path => do
    let d ← Action.disk
    match ← leadsTo path with
    | .ok (loc, .directory mode) => do
      if !mode.canRead then
        withWords name "cannot open directory" path Errno.accessDenied
        return false
      let names := namesIn s d loc
      if titled then Action.print ((if first then [] else ['\n']) ++ path ++ [':', '\n'])
      if s.long then Action.print ("total ".toList ++ numeral 0 ++ ['\n'])
      Action.print (entryLines s names)
      let mut listed := true
      if s.deep then
        for (child, e) in orderedNames s names do
          if e.isDirectory && child != ['.'] && child != ['.', '.'] then
            unless ← listDirectory name s true n false (inside path child) do listed := false
      return listed
    | _ => return true

/-- Lists names. -/
def ls : Tool :=
  withOptions ("a/all A/almost-all 1 l d/directory F/classify? p r/reverse R/recursive " ++
    "S t i/inode s/size h/human-readable n/numeric-uid-gid g o G/no-group C x m U f H L q Q " ++
    "b N k c u v X w/width= T I/ignore= B Z D /color? /sort= /time= /full-time " ++
    "/group-directories-first /hide= /indicator-style= /format=") 2 fun name o => do
  let s : ListingStyle :=
    { all := o.lastOf? ["a", "A", "f"] == some "a" || o.has "f", almostAll := o.has "A",
      asEntry := o.has "d", long := o.has "l" || o.has "n" || o.has "g" || o.has "o",
      classified := o.has "F", slashed := o.has "p", reversed := o.has "r", bySize := o.has "S",
      unsorted := o.has "U" || o.has "f", deep := o.has "R",
      width := if o.has "m" then some 'm' else none }
  let mut outer : List (Text × Entry) := []
  let mut inner : List Text := []
  let mut status := 0
  for path in (if o.operands.isEmpty then [['.']] else o.operands) do
    let named ← entryAt? path
    let target ← leadsTo path
    match named, target with
    | none, .error e =>
      withWords name "cannot access" path e
      status := 2
    | none, .ok (_, e) => outer := outer ++ [(path, e)]
    | some (_, e), target =>
      let isDir := match target with
        | .ok (_, .directory _) => true
        | _ => false
      let isLink := match e with
        | .link _ => true
        | _ => false
      if isDir && !s.asEntry && !(isLink && (s.long || s.classified)) then inner := inner ++ [path]
      else outer := outer ++ [(path, e)]
  Action.print (entryLines s outer)
  let titled := 1 < outer.length + inner.length + (if status == 0 then 0 else 1) || s.deep
  let dirs := (orderedNames { s with bySize := false }
    (inner.map fun p => (p, Entry.newDirectory))).map Prod.fst
  for (dir, i) in dirs.zipIdx do
    unless ← listDirectory name s titled treeDepth (i == 0 && outer.isEmpty) dir do status := 2
  return status

/-! ### What is known of an entry -/

/-- What a letter of a format stands for. -/
def statField (path : Text) (loc : Location) (e : Entry) (c : Char) : Text :=
  match c with
  | 'n' => path
  | 'N' =>
    (inQuotes path).toList ++ match e with
      | .link target => " -> ".toList ++ (inQuotes (ofBytes target)).toList
      | _ => []
  | 's' => numeral (sizeOf e)
  | 'a' => Nat.toDigits 8 (modeBits e)
  | 'A' => modeText e
  | 'F' => (kindName e).toList
  | 'f' =>
    let kind := match e with
      | .directory _ => 0o40000
      | .link _ => 0o120000
      | .device _ => 0o20000
      | .file .. => 0o100000
    Nat.toDigits 16 (kind + modeBits e)
  | 'h' => ['1']
  | 'u' | 'g' => ['0']
  | 'U' | 'G' => "root".toList
  | 'b' => numeral ((sizeOf e + 511) / 512)
  | 'B' => "512".toList
  | 'o' => "4096".toList
  | 'i' => numeral (loc.length + 1)
  | 'm' => ['/']
  | '%' => ['%']
  | _ => ['?']

/-- A format with its letters replaced. -/
def statText (path : Text) (loc : Location) (e : Entry) : Nat → Text → Text
  | 0, _ | _, [] => []
  | n + 1, '%' :: s =>
    let digits := s.takeWhile Char.isDigit
    match s.drop digits.length with
    | c :: rest => padLeft (digitsValue digits) (statField path loc e c) ++
        statText path loc e n rest
    | [] => ['%']
  | n + 1, c :: s => c :: statText path loc e n s

/-- Writes what is known of entries. -/
def stat : Tool :=
  withOptions "L/dereference f/file-system c/format= /printf= t/terse" 1 fun name o => do
  if o.operands.isEmpty then missingOperand name "operand"
  else
    eachArgument o.operands fun path => do
      let found ← match o.has "L", ← entryAt? path, ← leadsTo path with
        | true, _, r => pure r
        | false, some e, _ => pure (.ok e)
        | false, none, r => pure r
      match found with
      | .error e =>
        withWords name "cannot statx" path e
        return false
      | .ok (loc, e) =>
        match o.last? "c", o.last? "printf" with
        | some format, _ => Action.print (statText path loc e (format.length + 1) format ++ ['\n'])
        | none, some format =>
          let (text, _) := unescape escapeWithHex format
          Action.print (statText path loc e (text.length + 1) text)
        | none, none =>
          Action.print ("  File: ".toList ++ path ++ "\n  Size: ".toList ++ numeral (sizeOf e) ++
            ['\n'])
        return true

end Tool
end Shell
end StressBench
