/-
# A tool that tells how files differ

`diff` finds the longest sequence of lines that two files have in common, and tells which
lines of the one and of the other lie between those.

Key definitions: `Hunk`, `Tool.commonLengths`, `Tool.hunksOf`, `Tool.diff`.
-/
import StressBench.Shell.Tool.Entries
import StressBench.Shell.Tool.Options

namespace StressBench
namespace Shell

/-- Lines of one text that stand in place of lines of another: where they begin, and how many
there are, in each. -/
structure Hunk where
  left : Nat
  leftCount : Nat
  right : Nat
  rightCount : Nat
  deriving DecidableEq, Repr

namespace Tool

/-- The lengths of the longest common sequences of the ends of a row of lines with one line in
front of the other side, by those without it. -/
def commonRow (line : Text) (others : List Text) (below : List Nat) : List Nat :=
  match others, below with
  | o :: os, b :: bs =>
    let rest := commonRow line os bs
    (if line == o then bs.headD 0 + 1 else max b (rest.headD 0)) :: rest
  | _, _ => [0]

/-- For all ends of two lists, the length of the longest common sequence. -/
def commonLengths (xs ys : List Text) : List (List Nat) :=
  match xs with
  | [] => [List.replicate (ys.length + 1) 0]
  | x :: xs =>
    let rows := commonLengths xs ys
    commonRow x ys (rows.headD []) :: rows

/-- The hunks between lines that are kept, for rests of the lines and of the lengths. `h` is the
hunk that has begun. -/
def hunksFrom : Nat → Hunk → List Text → List Text → List (List Nat) → List Hunk
  | 0, _, _, _, _ => []
  | n + 1, h, xs, ys, rows =>
    let own := if h.leftCount == 0 && h.rightCount == 0 then [] else [h]
    let dropLeft (xs : List Text) :=
      hunksFrom n { h with leftCount := h.leftCount + 1 } xs ys (rows.drop 1)
    let dropRight (ys : List Text) :=
      hunksFrom n { h with rightCount := h.rightCount + 1 } xs ys (rows.map (·.drop 1))
    match xs, ys with
    | [], [] => own
    | _ :: xs, [] => dropLeft xs
    | [], _ :: ys => dropRight ys
    | x :: xs', y :: ys' =>
      if x == y then
        own ++ hunksFrom n ⟨h.left + h.leftCount + 1, 0, h.right + h.rightCount + 1, 0⟩ xs' ys'
          ((rows.drop 1).map (·.drop 1))
      else
        let down := ((rows.drop 1).headD []).headD 0
        let across := ((rows.headD []).drop 1).headD 0
        if across ≤ down then dropLeft xs' else dropRight ys'

/-- How many lines two lists begin with together. -/
def commonFront : List Text → List Text → Nat
  | x :: xs, y :: ys => if x == y then commonFront xs ys + 1 else 0
  | _, _ => 0

/-- The hunks in which two lists of lines differ. -/
def hunksOf (xs ys : List Text) : List Hunk :=
  let front := commonFront xs ys
  let xs := xs.drop front
  let ys := ys.drop front
  let back := commonFront xs.reverse ys.reverse
  let xs := xs.take (xs.length - back)
  let ys := ys.take (ys.length - back)
  hunksFrom (xs.length + ys.length + 1) ⟨front, 0, front, 0⟩ xs ys (commonLengths xs ys)

/-- A range of lines, counted from one. No lines are told by the line before them. -/
def lineRange (start count : Nat) : Text :=
  if count ≤ 1 then numeral (start + count) else numeral (start + 1) ++
    ',' :: numeral (start + count)

/-- Lines with a mark in front. A last line without an end is told to have none. -/
def markedLines (mark : Text) (lines : List Text) : Text :=
  lines.flatMap fun l =>
    if l.getLast? == some '\n' then mark ++ l
    else mark ++ l ++ "\n\\ No newline at end of file\n".toList

/-- A hunk with the lines of both sides. -/
def hunkText (xs ys : List Text) (h : Hunk) : Text :=
  let letter := if h.rightCount == 0 then 'd' else if h.leftCount == 0 then 'a' else 'c'
  lineRange h.left h.leftCount ++ letter :: lineRange h.right h.rightCount ++ '\n' ::
    markedLines ['<', ' '] ((xs.drop h.left).take h.leftCount) ++
    (if letter == 'c' then ['-', '-', '-', '\n'] else []) ++
    markedLines ['>', ' '] ((ys.drop h.right).take h.rightCount)

/-- Hunks that share their surroundings, of so many lines, put together. -/
def joinedHunks (around : Nat) : List Hunk → List (List Hunk)
  | [] => []
  | h :: hs =>
    match joinedHunks around hs with
    | (g :: group) :: rest =>
      if g.left ≤ h.left + h.leftCount + 2 * around then (h :: g :: group) :: rest
      else [h] :: (g :: group) :: rest
    | rest => [h] :: rest

/-- Hunks with the lines around them. -/
def surroundedText (around : Nat) (xs ys : List Text) (group : List Hunk) : Text :=
  match group, group.getLast? with
  | first :: _, some last =>
    let start := first.left - around
    let stop := min xs.length (last.left + last.leftCount + around)
    let rightStart := first.right - (first.left - start)
    let rightStop := last.right + last.rightCount + (stop - (last.left + last.leftCount))
    let range (start stop : Nat) : Text :=
      let count := stop - start
      numeral (if count == 0 then start else start + 1) ++
        if count == 1 then [] else ',' :: numeral count
    let body := group.foldl (fun (done : Text × Nat) h =>
      (done.1 ++ markedLines [' '] ((xs.drop done.2).take (h.left - done.2)) ++
        markedLines ['-'] ((xs.drop h.left).take h.leftCount) ++
        markedLines ['+'] ((ys.drop h.right).take h.rightCount), h.left + h.leftCount)) ([], start)
    "@@ -".toList ++ range start stop ++ " +".toList ++ range rightStart rightStop ++
      " @@\n".toList ++ body.1 ++ markedLines [' '] ((xs.drop body.2).take (stop - body.2))
  | _, _ => []

/-- The lines of a text with their ends. -/
def wholeLines (s : Text) : List Text :=
  let pieces := s.splitOnP (· == '\n')
  (pieces.dropLast.map (· ++ ['\n'])) ++ (pieces.getLast?.toList.filter (!·.isEmpty))

/-- What of a line counts. -/
def whatCounts (o : Options) (line : Text) : Text :=
  let line := if o.has "i" then line.map Char.toLower else line
  if o.has "w" then line.filter (!isSpace ·)
  else if o.has "b" then
    let words := (line.splitOnP isSpace).filter (!·.isEmpty)
    (if (line.head?.map isSpace).getD false then [' '] else []) ++ [' '].intercalate words
  else line

/-- Complains of the arguments, and says in the name of the tool where more is said. -/
def misuseOfDiff (name : Text) (message : String) : Action Nat :=
  refuse name (message ++ "\n" ++ shown name ++ ": " ++ moreAbout name) 2

/-- Tells how two files differ. The status is 1 if they do. -/
def diff : Tool := fun name args => do
  let forms := OptionForm.listOfText ("q/brief s/report-identical-files i/ignore-case " ++
    "w/ignore-all-space b/ignore-space-change u U/unified= a/text N/new-file r/recursive")
  let o ← match Options.read forms true args with
    | .ok o => pure o
    | .error message => throw (.exit (← misuseOfDiff name message))
  match o.operands with
  | [] => misuseOfDiff name ("missing operand after " ++ inQuotes name)
  | [a] => misuseOfDiff name ("missing operand after " ++ inQuotes a)
  | _ :: _ :: c :: _ => misuseOfDiff name ("extra operand " ++ inQuotes c)
  | [a, b] =>
    let aIsDir ← isDirectory a
    let bIsDir ← isDirectory b
    let first := if aIsDir && !bIsDir then inside a (lastName b) else a
    let second := if bIsDir && !aIsDir then inside b (lastName a) else b
    if aIsDir && bIsDir then return 0
    else
      let left ← withInput first Action.readAll
      let right ← withInput second Action.readAll
      let complain (path : Text) (r : Except Nat Text) : Action Unit :=
        match r with
        | .error e => plainComplaint name path e
        | .ok _ => pure ()
      match left, right with
      | .ok s, .ok t =>
        let (xs, ys) := (wholeLines s, wholeLines t)
        let hunks := hunksOf (xs.map (whatCounts o)) (ys.map (whatCounts o))
        if hunks.isEmpty then
          if o.has "s" then
            Action.print ("Files ".toList ++ first ++ " and ".toList ++ second ++
              " are identical\n".toList)
          return 0
        else if o.has "q" then
          Action.print ("Files ".toList ++ first ++ " and ".toList ++ second ++
            " differ\n".toList)
          return 1
        else if o.has "u" || o.has "U" then
          let around := ((o.last? "U").bind natural?).getD 3
          Action.print ("--- ".toList ++ first ++ "\n+++ ".toList ++ second ++ ['\n'])
          Action.print ((joinedHunks around hunks).flatMap (surroundedText around xs ys))
          return 1
        else
          Action.print (hunks.flatMap (hunkText xs ys))
          return 1
      | left, right =>
        complain first left
        complain second right
        return 2

end Tool
end Shell
end StressBench
