/-
# Modes in words

What may be done with a file is written in octal digits, or in clauses that add, take
away or set the rights of its owner, its group and others.

Key definitions: `Mode.changedBy?`, `Mode.ofOctal?`, `Mode.words`.
-/
import StressBench.Disk.Basic

namespace StressBench
namespace Mode

/-- The mode that octal digits write. -/
def ofOctal? (s : Text) : Option Mode :=
  if !s.isEmpty && s.all (fun c => '0' ≤ c && c ≤ '7') then
    let n := s.foldl (fun n c => n * 8 + (c.toNat - 48)) 0
    if n ≤ 0o7777 then some n else none
  else none

/-- The three bits of some rights. A capital `X` counts for what can be entered or
executed anyway. -/
def bitsOf (entered : Bool) (rights : Text) : Nat :=
  rights.foldl (fun n c =>
    n ||| match c with
      | 'r' => 4
      | 'w' => 2
      | 'x' => 1
      | 'X' => if entered then 1 else 0
      | _ => 0) 0

/-- How far the bits of a class of users are from the last. -/
def shiftOf : Char → Nat
  | 'u' => 6
  | 'g' => 3
  | _ => 0

/-- The classes of users that letters stand for. -/
def classesOf (who : Text) : List Char :=
  if who.isEmpty || who.contains 'a' then ['u', 'g', 'o'] else ['u', 'g', 'o'].filter who.contains

/-- A mode after one operation of a clause. Bits of the mask are left alone if no class of
users was named. -/
def step (who : Text) (mask : Nat) (op : Char) (bits : Nat) (mode : Mode) : Mode :=
  (classesOf who).foldl (fun mode c =>
    let shift := shiftOf c
    let kept := if who.isEmpty then bits &&& (7 ^^^ ((mask >>> shift) &&& 7)) else bits
    let old := (mode >>> shift) &&& 7
    let new :=
      match op with
      | '+' => old ||| kept
      | '-' => old &&& (7 ^^^ kept)
      | _ => kept
    mode - (old <<< shift) + (new <<< shift)) mode

/-- A mode after the operations of a clause. -/
def steps (who : Text) (mask : Nat) (isDirectory : Bool) : Nat → Text → Mode → Option Mode
  | 0, _, _ => none
  | _, [], mode => some mode
  | n + 1, op :: s, mode =>
    if op == '+' || op == '-' || op == '=' then
      let rights := s.takeWhile fun c => ['r', 'w', 'x', 'X', 's', 't', 'u', 'g', 'o'].contains c
      let copied := rights.filter fun c => ['u', 'g', 'o'].contains c
      let entered := isDirectory || mode &&& 0o111 != 0
      let bits :=
        match copied with
        | c :: _ => (mode >>> shiftOf c) &&& 7
        | [] => bitsOf entered rights
      steps who mask isDirectory n (s.drop rights.length) (step who mask op bits mode)
    else none

/-- The mode that a text makes of a mode. -/
def changedBy? (mask : Nat) (isDirectory : Bool) (s : Text) (mode : Mode) : Option Mode :=
  if (s.head?.map Char.isDigit).getD true then ofOctal? s
  else
    (s.splitOnP (· == ',')).foldlM (fun mode clause =>
      let who := clause.takeWhile fun c => ['u', 'g', 'o', 'a'].contains c
      let rest := clause.drop who.length
      if rest.isEmpty then none else steps who mask isDirectory (rest.length + 1) rest mode) mode

/-- The rights of three bits. -/
def rightsOf (bits : Nat) : Text :=
  (if bits &&& 4 != 0 then ['r'] else []) ++ (if bits &&& 2 != 0 then ['w'] else []) ++
    if bits &&& 1 != 0 then ['x'] else []

/-- The rights of a mode in nine letters, with dashes for those that are missing. -/
def words (mode : Mode) : Text :=
  [6, 3, 0].flatMap fun shift =>
    let bits := (mode >>> shift) &&& 7
    [if bits &&& 4 != 0 then 'r' else '-', if bits &&& 2 != 0 then 'w' else '-',
      if bits &&& 1 != 0 then 'x' else '-']

end Mode
end StressBench
