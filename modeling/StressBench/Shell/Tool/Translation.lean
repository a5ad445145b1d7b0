/-
# Mapping characters

`tr` maps, deletes or squeezes characters. A set of characters is written as a row of
characters, ranges, classes and repeated characters.

Key definitions: `Tool.setOf`, `Tool.squeeze`, `Tool.tr`.
-/
import StressBench.Shell.Tool.Printing
import StressBench.Shell.Tool.Reading

namespace StressBench
namespace Shell
namespace Tool

/-- The characters of some ranges, in order. -/
def charsOf (ranges : List (Char × Char)) : Text :=
  ranges.flatMap fun (a, b) => (List.range (b.toNat + 1 - a.toNat)).map fun i =>
    Char.ofNat (a.toNat + i)

/-- The character in front of a set, which may be written as an escape, and what comes after
it. -/
def setChar (s : Text) : Option (Char × Text) :=
  match s with
  | [] => none
  | ['\\'] => some ('\\', [])
  | '\\' :: c :: r =>
    if c == 'e' then some (c, r)
    else
      let (cs, k) := escapeAt (c :: r)
      if k == 0 then some (c, r) else cs.head?.map fun x => (x, (c :: r).drop k)
  | c :: r => some (c, r)

/-- An element of a set as it is written. -/
inductive SetPart
  | chars (cs : Text)
  /-- A character so many times, or as often as it takes. -/
  | repeated (c : Char) (count : Option Nat)
  deriving DecidableEq, Repr

/-- The elements of a set as it is written, or what is wrong with it. -/
def setParts : Nat → Text → Except String (List SetPart)
  | 0, _ | _, [] => .ok []
  | n + 1, s =>
    let plain : Except String (List SetPart) :=
      match setChar s with
      | none => .ok []
      | some (a, '-' :: r) =>
        match setChar r with
        | none => do return .chars [a, '-'] :: (← setParts n [])
        | some (b, rest) =>
          if a.toNat ≤ b.toNat then do return .chars (charsOf [(a, b)]) :: (← setParts n rest)
          else
            .error ("range-endpoints of '" ++ shown [a] ++ "-" ++ shown [b] ++
              "' are in reverse collating sequence order")
      | some (a, rest) => do return .chars [a] :: (← setParts n rest)
    match s with
    | '[' :: ':' :: r =>
      let name := r.takeWhile (· != ':')
      match r.drop name.length with
      | ':' :: ']' :: rest =>
        match classRanges? (String.ofList name) with
        | some ranges => do return .chars (charsOf ranges) :: (← setParts n rest)
        | none => .error ("invalid character class " ++ inQuotes name)
      | _ => plain
    | '[' :: '=' :: c :: '=' :: ']' :: rest => do return .chars [c] :: (← setParts n rest)
    | '[' :: r =>
      match setChar r with
      | some (c, '*' :: rest) =>
        let digits := rest.takeWhile Char.isDigit
        match rest.drop digits.length with
        | ']' :: rest =>
          let count :=
            if digits.head? == some '0' then
              digits.foldl (fun k d => k * 8 + (d.toNat - 48)) 0
            else digitsValue digits
          do return .repeated c (if count == 0 then none else some count) :: (← setParts n rest)
        | _ => plain
      | _ => plain
    | _ => plain

/-- The characters of a set that is to have some length. -/
def setOf (length : Nat) (parts : List SetPart) : Text :=
  let size := parts.foldl (fun n p =>
    match p with
    | .chars cs => n + cs.length
    | .repeated _ count => n + count.getD 0) 0
  parts.flatMap fun p =>
    match p with
    | .chars cs => cs
    | .repeated c count => List.replicate (count.getD (length - size)) c

/-- The text with each run of a character of a set cut down to one. `done` is latest
first. -/
def squeeze (isIn : Char → Bool) (s : Text) : Text :=
  (s.foldl (fun done c =>
    match done with
    | d :: _ => if d == c && isIn c then done else c :: done
    | [] => [c]) []).reverse

/-- Whether a character is in a set, by a table. -/
def membership (set : Text) : Char → Bool :=
  let table := set.foldl (fun t c => t.set! c.toNat true) (Array.replicate 256 false)
  fun c => table[c.toNat]?.getD false

/-- The characters that others are mapped to, by a table: the last that is given counts. -/
def mapping (source target : Text) : Char → Char :=
  let last := target.getLast?
  let pairs := source.zipIdx.map fun (c, i) => (c, (target[i]?.orElse fun _ => last).getD c)
  let identity := (List.range 256).toArray.map Char.ofNat
  let table := pairs.foldl (fun t (c, d) => t.set! c.toNat d) identity
  fun c => table[c.toNat]?.getD c

/-- What `tr` does to a text, given its sets. -/
def translated (deletes squeezes : Bool) (source : Text) (target : Option Text) (s : Text) : Text :=
  if deletes then
    let inSource := membership source
    let kept := s.filter fun c => !inSource c
    if squeezes then squeeze (membership (target.getD [])) kept else kept
  else
    match target with
    | none => squeeze (membership source) s
    | some target =>
      let mapped := s.map (mapping source target)
      if squeezes then squeeze (membership target) mapped else mapped

/-- Maps, deletes or squeezes the characters of the standard input. -/
def tr : Tool := withLeadingOptions "c/complement C d/delete s/squeeze-repeats t/truncate-set1" 1
    fun name o => do
  let deletes := o.has "d"
  let squeezes := o.has "s"
  match o.operands with
  | [] => missingOperand name "operand"
  | [only] =>
    if deletes && squeezes then
      misuse name ("missing operand after " ++ inQuotes only ++
        "\nTwo strings must be given when both deleting and squeezing repeats.") 1
    else if !deletes && !squeezes then
      misuse name ("missing operand after " ++ inQuotes only ++
        "\nTwo strings must be given when translating.") 1
    else work name o only none
  | [first, second] =>
    if deletes && !squeezes then
      misuse name ("extra operand " ++ inQuotes second ++
        "\nOnly one string may be given when deleting without squeezing repeats.") 1
    else work name o first (some second)
  | _ :: _ :: extra :: _ => extraOperand name extra
where
  /-- Works on the input with one or two sets. -/
  work (name : Text) (o : Options) (first : Text) (second : Option Text) : Action Nat := do
    match setParts (first.length + 1) first, second.mapM fun s => setParts (s.length + 1) s with
    | .error message, _ | _, .error message => refuse name message 1
    | .ok parts, .ok target =>
      let all := (List.range 256).map Char.ofNat
      let listed := setOf 0 parts
      let inList := membership listed
      let source := if o.has "c" || o.has "C" then all.filter fun c => !inList c else listed
      let target := target.map (setOf source.length)
      let translates := !o.has "d" && target.isSome
      if translates && (target.getD []).isEmpty && !o.has "t" then
        refuse name "when not truncating set1, string2 must be non-empty" 1
      else
        let source := if o.has "t" && translates then source.take (target.getD []).length
          else source
        Action.repeatTurns Action.turnMax do
          let chunk ← Action.readChunk
          if o.has "s" then
            let rest ← Action.readAll
            Action.print (translated (o.has "d") true source target (chunk ++ rest))
            return false
          else
            Action.print (translated (o.has "d") false source target chunk)
            return !chunk.isEmpty
        return 0

end Tool
end Shell
end StressBench
