/-
# Tools that put lines in order

`sort` compares lines by keys, which are parts of them, and in the end by their bytes.
`uniq`, `comm` and `join` go through lines that are in order already.

Key definitions: `SortKey`, `Sorting.compareLines`, `Tool.sort`, `Tool.uniq`, `Tool.comm`,
`Tool.join`.
-/
import StressBench.Shell.Tool.Reading

namespace StressBench
namespace Shell

/-- A part of a line by which lines are compared: the field and the character at which it
begins, those at which it ends, and letters for how it is compared. -/
structure SortKey where
  field : Nat := 0
  character : Nat := 0
  last : Option (Nat × Nat) := none
  letters : Text := []
  skipsFirst : Bool := false
  skipsLast : Bool := false

namespace Sorting

/-! ### Keys -/

/-- Whether a character is a blank between fields. -/
def isBlank (c : Char) : Bool :=
  c == ' ' || c == '\t'

/-- The text behind so many fields. -/
def pastFields (divider : Option Char) : Nat → Text → Text
  | 0, s => s
  | n + 1, s =>
    match divider with
    | some d => pastFields divider n ((s.dropWhile (· != d)).drop 1)
    | none => pastFields divider n ((s.dropWhile isBlank).dropWhile fun c => !isBlank c)

/-- How many characters there are up to the end of a field. -/
def fieldEnd (divider : Option Char) (field : Nat) (s : Text) : Nat :=
  match divider with
  | some d =>
    let rest := pastFields divider field s
    s.length - (rest.dropWhile (· != d)).length
  | none => s.length - (pastFields divider (field + 1) s).length

/-- The part of a line that a key names. -/
def keyOf (divider : Option Char) (k : SortKey) (s : Text) : Text :=
  let front := pastFields divider k.field s
  let front := if k.skipsFirst then front.dropWhile isBlank else front
  let front := front.drop k.character
  let start := s.length - front.length
  match k.last with
  | none => front
  | some (field, 0) => front.take (fieldEnd divider field s - start)
  | some (field, character) =>
    let rest := pastFields divider field s
    let rest := if k.skipsLast then rest.dropWhile isBlank else rest
    front.take (min s.length (s.length - rest.length + character) - start)

/-- The characters of a key that count. -/
def counting (letters : Text) (s : Text) : Text :=
  let s := if letters.contains 'd' then s.filter fun c => c.isAlphanum || isBlank c else s
  let s := if letters.contains 'i' then s.filter fun c => 32 ≤ c.toNat && c.toNat < 127 else s
  if letters.contains 'f' then s.map Char.toUpper else s

/-! ### Comparing -/

/-- The decimal number that a text begins with. -/
def numberIn (s : Text) : Rat :=
  let s := s.dropWhile isBlank
  let (negative, s) := if s.head? == some '-' then (true, s.drop 1) else (false, s)
  let whole := s.takeWhile Char.isDigit
  let rest := s.drop whole.length
  let places := if rest.head? == some '.' then (rest.drop 1).takeWhile Char.isDigit else []
  let q : Rat := ((digitsValue (whole ++ places) : Nat) : Rat) / Scientific.tenTo places.length
  if negative then -q else q

/-- The rank of the letter behind a number: thousands, millions and so on. -/
def sizeRank (s : Text) : Nat :=
  let s := (s.dropWhile isBlank).dropWhile fun c => c.isDigit || c == '.' || c == '-'
  match s with
  | 'k' :: _ => 1
  | c :: _ => (['K', 'M', 'G', 'T', 'P', 'E', 'Z', 'Y'].idxOf? c).elim 0 (· + 1)
  | [] => 0

/-- The order of two rationals. -/
def compareRat (a b : Rat) : Ordering :=
  if a < b then .lt else if b < a then .gt else .eq

/-- The number of the month that a text begins with, or 0. -/
def monthIn (s : Text) : Nat :=
  let name := ((s.dropWhile isBlank).take 3).map Char.toUpper
  let months := ["JAN", "FEB", "MAR", "APR", "MAY", "JUN", "JUL", "AUG", "SEP", "OCT", "NOV", "DEC"]
  (months.idxOf? (String.ofList name)).elim 0 (· + 1)

/-- The rank of a character in a version, where a tilde comes before the end. -/
def versionRank (c : Char) : Int :=
  if c == '~' then -1 else if c.isAlpha then c.toNat else (c.toNat : Int) + 256

/-- The order of two versions: runs of digits are compared as numbers. -/
def compareVersions : Nat → Text → Text → Ordering
  | 0, _, _ => .eq
  | n + 1, a, b =>
    let front (s : Text) := s.takeWhile fun c => !c.isDigit
    let (x, y) := (front a, front b)
    let rec ranks : Nat → Text → Text → Ordering
      | 0, _, _ => .eq
      | k + 1, s, t =>
        let rank (s : Text) : Int := (s.head?.map versionRank).getD 0
        match s, t with
        | [], [] => .eq
        | s, t => if rank s == rank t then ranks k (s.drop 1) (t.drop 1)
            else compare (rank s) (rank t)
    match ranks (x.length + y.length + 1) x y with
    | .eq =>
      let (a, b) := (a.drop x.length, b.drop y.length)
      let (p, q) := (a.takeWhile Char.isDigit, b.takeWhile Char.isDigit)
      match compare (digitsValue p) (digitsValue q) with
      | .eq =>
        if a.isEmpty && b.isEmpty then .eq
        else compareVersions n (a.drop p.length) (b.drop q.length)
      | order => order
    | order => order

/-- The value of a text as a number of any form; what is none comes first. -/
def generalNumber (s : Text) : Option Rat :=
  (Numeral.realAt? s).map Prod.fst

/-- The order of two keys by the letters of how they are compared. -/
def compareKeys (letters : Text) (a b : Text) : Ordering :=
  if letters.contains 'n' then compareRat (numberIn a) (numberIn b)
  else if letters.contains 'g' then
    match generalNumber a, generalNumber b with
    | some x, some y => compareRat x y
    | none, some _ => .lt
    | some _, none => .gt
    | none, none => .eq
  else if letters.contains 'h' then
    let signed (s : Text) : Int :=
      let q := numberIn s
      if q < 0 then -(sizeRank s : Int) else if q == 0 then 0 else sizeRank s
    match compare (signed a) (signed b) with
    | .eq => compareRat (numberIn a) (numberIn b)
    | order => order
  else if letters.contains 'M' then compare (monthIn a) (monthIn b)
  else if letters.contains 'V' then compareVersions (a.length + b.length + 1) a b
  else Text.order (counting letters a) (counting letters b)

/-- What `sort` is to do. -/
structure Plan where
  keys : List SortKey
  divider : Option Char
  reverse : Bool
  /-- Whether lines with like keys are left as they are. -/
  stable : Bool

/-- The other order if it is wanted. -/
def turned (reverse : Bool) (o : Ordering) : Ordering :=
  if reverse then o.swap else o

/-- The order of two lines by their keys. -/
def compareByKeys (p : Plan) (a b : Text) : Ordering :=
  p.keys.foldl (fun order k =>
    match order with
    | .eq =>
      turned (k.letters.contains 'r')
        (compareKeys k.letters (keyOf p.divider k a) (keyOf p.divider k b))
    | order => order) .eq

/-- The order of two lines. -/
def compareLines (p : Plan) (a b : Text) : Ordering :=
  match compareByKeys p a b with
  | .eq => if p.stable then .eq else turned p.reverse (Text.order a b)
  | order => order

/-- Reads a place in a line: a field, perhaps a character, and letters. -/
def placeOf? (s : Text) : Option (Nat × Option Nat × Text × Text) :=
  let field := s.takeWhile Char.isDigit
  let rest := s.drop field.length
  if field.isEmpty then none
  else
    let (character, rest) :=
      match rest with
      | '.' :: r => (some (digitsValue (r.takeWhile Char.isDigit)), r.dropWhile Char.isDigit)
      | r => (none, r)
    let letters := rest.takeWhile Char.isAlpha
    some (digitsValue field, character, letters, rest.drop letters.length)

/-- Reads a key. Without letters of its own it is compared in the general way. -/
def keyOfText? (general : Text) (s : Text) : Option SortKey := do
  let (field, character, letters, rest) ← placeOf? s
  if field == 0 || character == some 0 then none
  else
    let (last, lastLetters) ←
      match rest with
      | [] => some (none, [])
      | ',' :: r => do
        let (field, character, letters, rest) ← placeOf? r
        if field == 0 || !rest.isEmpty then none
        else some (some (field - 1, character.getD 0), letters)
      | _ => none
    let own := letters ++ lastLetters
    let used := if own.isEmpty then general else own
    some
      { field := field - 1
        character := (character.getD 1) - 1
        last
        letters := used
        skipsFirst := if own.isEmpty then general.contains 'b' else letters.contains 'b'
        skipsLast := if own.isEmpty then general.contains 'b' else lastLetters.contains 'b' }

end Sorting

namespace Tool

/-- The first line that is not in order, with its number. -/
def disorder? (p : Sorting.Plan) (unique : Bool) : Nat → List Text → Option (Nat × Text)
  | n, a :: b :: rest =>
    let order := Sorting.compareLines p a b
    if order == .gt || (unique && order == .eq) then some (n + 1, b)
    else disorder? p unique (n + 1) (b :: rest)
  | _, _ => none

/-- The lines without those that are like the one before. -/
def withoutRepeats (same : Text → Text → Bool) (lines : List Text) : List Text :=
  (lines.foldl (fun done l =>
    match done with
    | d :: _ => if same d l then done else l :: done
    | [] => [l]) []).reverse

/-- Puts the lines of files in order. -/
def sort : Tool := withOptions ("b/ignore-leading-blanks d/dictionary-order f/ignore-case " ++
    "g/general-numeric-sort i/ignore-nonprinting M/month-sort n/numeric-sort " ++
    "h/human-numeric-sort " ++
    "r/reverse V/version-sort k/key= t/field-separator= u/unique s/stable o/output= c/check? C " ++
    "m/merge z/zero-terminated S/buffer-size= T/temporary-directory= /parallel=") 2 fun name o => do
  let letters := "bdfgiMnhrV".toList.filter fun c => o.has c.toString
  let divider :=
    match o.last? "t" with
    | some ['\\', '0'] => some (Char.ofNat 0)
    | some s => s.head?
    | none => none
  let texts := (o.given.filter fun g => g.1 == "k").map Prod.snd
  let keys := texts.filterMap (Sorting.keyOfText? letters)
  match texts.find? fun s => (Sorting.keyOfText? letters s).isNone with
  | some s =>
    refuse name ("invalid number at field start: invalid count at start of " ++ inQuotes s) 2
  | none =>
    let whole : SortKey := { letters, skipsFirst := letters.contains 'b' }
    let unique := o.has "u"
    let plan : Sorting.Plan :=
      { keys := if texts.isEmpty then [whole] else keys, divider, reverse := o.has "r",
        stable := o.has "s" || unique }
    let mut chunks : List Text := []
    for path in (if o.operands.isEmpty then [['-']] else o.operands) do
      match ← withInput path Action.readAll with
      | .ok text => chunks := text :: chunks
      | .error e =>
        let what := if e == Errno.isDirectory then "read failed: " else "cannot read: "
        fault name (what ++ shown path ++ ": " ++ Errno.text e)
        return 2
    let lines := (chunks.reverse.map linesOf).flatten
    if o.has "c" || o.has "C" then
      match disorder? plan unique 1 lines with
      | none => return 0
      | some (n, line) =>
        unless o.has "C" do
          fault name (shown (o.operands.headD ['-']) ++ ":" ++ toString n ++ ": disorder: " ++
            shown line)
        return 1
    else
      let sorted := lines.mergeSort fun a b => Sorting.compareLines plan a b != .gt
      let sorted :=
        if unique then withoutRepeats (fun a b => Sorting.compareByKeys plan a b == .eq) sorted
        else sorted
      let text := sorted.flatMap (· ++ ['\n'])
      match o.last? "o" with
      | none =>
        Action.print text
        return 0
      | some path =>
        match ← Action.openForWriting false path with
        | .error e =>
          fault name ("open failed: " ++ shown path ++ ": " ++ Errno.text e)
          return 2
        | .ok channel =>
          Action.withStreams (Action.led 1 channel) (Action.print text)
          return 0

/-! ### Lines that are like the one before -/

/-- The lines in groups of those that are alike. -/
def groupsOf (key : Text → Text) (lines : List Text) : List (List Text) :=
  let groups := lines.foldl (fun done l =>
    match done with
    | (d :: ds) :: rest => if key d == key l then (l :: d :: ds) :: rest else [l] :: done
    | done => [l] :: done) []
  groups.reverse.map List.reverse

/-- Drops each line that is like the one before. -/
def uniq : Tool := withOptions ("c/count d/repeated D u/unique i/ignore-case f/skip-fields= " ++
    "s/skip-chars= w/check-chars= z/zero-terminated") 1 fun name o => do
  let number (key : String) := (o.last? key).bind natural?
  let key (s : Text) : Text :=
    let s := Sorting.pastFields none ((number "f").getD 0) s
    let s := s.drop ((number "s").getD 0)
    let s := match number "w" with | some n => s.take n | none => s
    if o.has "i" then s.map Char.toLower else s
  match o.operands with
  | _ :: _ :: extra :: _ => extraOperand name extra
  | operands =>
    match ← withInput (operands.headD ['-']) Action.readAll with
    | .error e =>
      if e == Errno.isDirectory then
        fault name ("error reading " ++ inQuotes (operands.headD []) ++ ": " ++ Errno.text e)
      else plainComplaint name (operands.headD []) e
      return 1
    | .ok text =>
      let groups := (groupsOf key (linesOf text)).filter fun g =>
        (!(o.has "d" || o.has "D") || 1 < g.length) && (!o.has "u" || g.length == 1)
      let out := groups.flatMap fun g =>
        let lines := if o.has "D" then g else g.take 1
        lines.flatMap fun l =>
          (if o.has "c" then padLeft 7 (numeral g.length) ++ [' '] else []) ++ l ++ ['\n']
      match operands[1]? with
      | none =>
        Action.print out
        return 0
      | some path =>
        match ← Action.openForWriting false path with
        | .error e =>
          plainComplaint name path e
          return 1
        | .ok channel =>
          Action.withStreams (Action.led 1 channel) (Action.print out)
          return 0

/-! ### Two files in order -/

/-- The texts of two files, or the status after a complaint. -/
def readTwo (name : Text) (o : Options) : Action (Except Nat (Text × Text)) := do
  match o.operands with
  | [] => return .error (← missingOperand name "operand")
  | [a] => return .error (← misuse name ("missing operand after " ++ inQuotes a) 1)
  | [a, b] =>
    match ← withInput a Action.readAll with
    | .error e =>
      plainComplaint name a e
      return .error 1
    | .ok s =>
      match ← withInput b Action.readAll with
      | .error e =>
        plainComplaint name b e
        return .error 1
      | .ok t => return .ok (s, t)
  | _ :: _ :: extra :: _ => return .error (← extraOperand name extra)

/-- The lines of two lists in order: those only in the first, only in the second, and in
both. -/
def mergedLines : Nat → List Text → List Text → List (Nat × Text) → List (Nat × Text)
  | 0, _, _, done => done.reverse
  | _, [], bs, done => done.reverse ++ bs.map fun b => (1, b)
  | _, as, [], done => done.reverse ++ as.map fun a => (0, a)
  | n + 1, a :: as, b :: bs, done =>
    match Text.order a b with
    | .lt => mergedLines n as (b :: bs) ((0, a) :: done)
    | .gt => mergedLines n (a :: as) bs ((1, b) :: done)
    | .eq => mergedLines n as bs ((2, a) :: done)

/-- Prints the lines of two files in three columns. -/
def comm : Tool := withOptions ("1 2 3 /check-order /nocheck-order /output-delimiter= /total " ++
    "z/zero-terminated") 1 fun name o => do
  match ← readTwo name o with
  | .error status => return status
  | .ok (s, t) =>
    let (as, bs) := (linesOf s, linesOf t)
    let shownColumn (i : Nat) := !o.has (toString (i + 1))
    let between := (o.last? "output-delimiter").getD ['\t']
    let lines := mergedLines (as.length + bs.length + 1) as bs []
    Action.print (lines.flatMap fun (i, l) =>
      if shownColumn i then
        ((List.range i).flatMap fun j => if shownColumn j then between else []) ++ l ++ ['\n']
      else [])
    return 0

/-- The fields of a line of `join`. -/
def joinFields (divider : Option Char) (s : Text) : List Text :=
  match divider with
  | some d => s.splitOnP (· == d)
  | none => (s.splitOnP Sorting.isBlank).filter (!·.isEmpty)

/-- The lines of two lists in order with like keys, or on their own: none for a line that is
missing. -/
def joinedLines (order : Text → Text → Ordering) :
    Nat → List (Text × List Text) → List (Text × List Text) →
    List (Option (List Text) × Option (List Text))
  | 0, _, _ => []
  | _, [], bs => bs.map fun b => (none, some b.2)
  | _, as, [] => as.map fun a => (some a.2, none)
  | n + 1, (k, a) :: as, (l, b) :: bs =>
    match order k l with
    | .lt => (some a, none) :: joinedLines order n as ((l, b) :: bs)
    | .gt => (none, some b) :: joinedLines order n ((k, a) :: as) bs
    | .eq =>
      let same (c : Text × List Text) := order c.1 k == .eq
      let left := ((k, a) :: as).takeWhile same
      let right := ((l, b) :: bs).takeWhile same
      (left.flatMap fun x => right.map fun y => (some x.2, some y.2)) ++
        joinedLines order n (((k, a) :: as).drop left.length) (((l, b) :: bs).drop right.length)

/-- Joins the lines of two files that have the same key. -/
def join : Tool := withOptions ("1= 2= j= t= a= v= o= e= i/ignore-case /header /check-order " ++
    "/nocheck-order z/zero-terminated") 1 fun name o => do
  match ← readTwo name o with
  | .error status => return status
  | .ok (s, t) =>
    let place (key : String) : Nat :=
      (((o.last? key).orElse fun _ => o.last? "j").bind natural?).getD 1 - 1
    let divider := (o.last? "t").bind List.head?
    let order (a b : Text) :=
      if o.has "i" then Text.order (a.map Char.toUpper) (b.map Char.toUpper)
      else Text.order a b
    let read (place : Nat) (s : Text) := (linesOf s).map fun l =>
      let fields := joinFields divider l
      (fields[place]?.getD [], fields)
    let wanted (key : String) (file : Text) := o.given.any fun g => g.1 == key && g.2 == file
    let between := (divider.map fun c => [c]).getD [' ']
    let filler := (o.last? "e").getD []
    let without (place : Nat) (fields : List Text) := fields.eraseIdx place
    let row (a b : Option (List Text)) : Text :=
      let fields :=
        match o.last? "o" with
        | some spec =>
          ((spec.splitOnP fun c => c == ',' || c == ' ').filter (!·.isEmpty)).map fun item =>
            let value :=
              match item with
              | ['0'] => ((a.bind (·[place "1"]?)).orElse fun _ => b.bind (·[place "2"]?))
              | '1' :: '.' :: n => a.bind (·[digitsValue n - 1]?)
              | '2' :: '.' :: n => b.bind (·[digitsValue n - 1]?)
              | _ => none
            let value := value.getD []
            if value.isEmpty then filler else value
        | none =>
          let key := ((a.bind (·[place "1"]?)).orElse fun _ => b.bind (·[place "2"]?)).getD []
          key :: ((a.map (without (place "1"))).getD [] ++ (b.map (without (place "2"))).getD [])
      between.intercalate fields ++ ['\n']
    let (as, bs) := (read (place "1") s, read (place "2") t)
    let pairs := joinedLines order (as.length + bs.length + 1) as bs
    Action.print (pairs.flatMap fun (a, b) =>
      match a, b with
      | some _, some _ => if o.has "v" then [] else row a b
      | some _, none => if wanted "a" ['1'] || wanted "v" ['1'] then row a b else []
      | _, _ => if wanted "a" ['2'] || wanted "v" ['2'] then row a b else [])
    return 0

end Tool
end Shell
end StressBench
