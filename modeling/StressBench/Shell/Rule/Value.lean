/-
# Rules for records: values

A value is a number or a text; a text that was read counts as a number where it looks like
one, and what was never set is both the empty text and zero. Arrays are kept in buckets, by
their numbers as long as all keys are numbers and by their texts from then on; in a bucket
what was added or looked up last comes first.

Key definitions: `Rule.Value`, `Rule.numberAt`, `Rule.Value.toNumber`, `Rule.Value.toText`,
`Rule.Value.order?`, `Rule.Items`, `Rule.Items.find`, `Rule.Items.keys`.
-/
import StressBench.Number.Operation
import StressBench.Shell.Rule.Basic
import StressBench.Shell.Tool.Printing

namespace StressBench
namespace Shell
namespace Rule

/-- A number. -/
abbrev Number := Binary64.Value

/-- A value. -/
inductive Value
  | nothing
  | number (v : Number)
  | text (s : Text)
  /-- A text that was read. -/
  | input (s : Text)
  deriving DecidableEq, Repr

/-! ### Numbers in texts -/

/-- The name of a number at the beginning of a text in small letters. -/
def namedNumber? (s : Text) : Option (Number × Nat) :=
  let names : List (String × Number) :=
    [("infinity", .infinite false), ("inf", .infinite false), ("nan", .notANumber)]
  (names.find? fun p => p.1.toList.isPrefixOf s).map fun p => (p.2, p.1.length)

/-- The number at the beginning of a text, behind blanks, and what comes after it; none if
there is no number. -/
def numberAt? (s : Text) : Option (Number × Text) :=
  match Numeral.realAt? s with
  | some (q, rest) => some (.ofRat q, rest)
  | none =>
    let (negative, s) := Numeral.pastSign s
    (namedNumber? ((s.take 8).map Char.toLower)).map fun (v, n) =>
      (if negative then v.negate else v, s.drop n)

/-- The number at the beginning of a text; zero if there is none. -/
def numberAt (s : Text) : Number :=
  ((numberAt? s).map Prod.fst).getD (.finite 0)

/-- The number that all of a text writes, apart from blanks around it. -/
def numberIn? (s : Text) : Option Number :=
  match numberAt? s with
  | some (v, rest) => if rest.all Tool.isSpace then some v else none
  | none => none

/-! ### Texts of numbers -/

/-- The whole numbers that are written with all their digits. -/
def isWritten (n : Int) : Bool :=
  decide (-(1 <<< 63 : Nat) ≤ n) && decide (n ≤ (1 <<< 64 : Nat))

/-- The number of 64 bits, with a sign or without, nearest to a number. -/
def toWord (v : Number) : Int :=
  match v with
  | .notANumber => -(1 <<< 63 : Nat)
  | .infinite negative => if negative then -(1 <<< 63 : Nat) else (1 <<< 64 : Nat) - 1
  | .finite q =>
    let n := Binary64.Value.truncated q
    if n < -(1 <<< 63 : Nat) then -(1 <<< 63 : Nat)
    else if (1 <<< 64 : Nat) - 1 < n then (1 <<< 64 : Nat) - 1 else n

/-- The text of a number that is not finite. -/
def unboundedText : Number → Text
  | .infinite negative => if negative then "-inf".toList else "inf".toList
  | _ => "-nan".toList

namespace Value

/-- The value of a truth. -/
def ofTruth (b : Bool) : Value :=
  .number (.finite (if b then 1 else 0))

/-- The value of a whole number. -/
def ofInt (n : Int) : Value :=
  .number (.ofInt n)

/-- A value as a number. -/
def toNumber : Value → Number
  | .nothing => .finite 0
  | .number v => v
  | .text s | .input s => numberAt s

/-- A value as a number, if it is one or looks like one. -/
def number? : Value → Option Number
  | .nothing => some (.finite 0)
  | .number v => some v
  | .text _ => none
  | .input s => numberIn? s

/-- Whether a value counts as true. -/
def isTrue (v : Value) : Bool :=
  match v with
  | .nothing => false
  | .number v => !v.isZero
  | .text s => !s.isEmpty
  | .input s =>
    match numberIn? s with
    | some v => !v.isZero
    | none => !s.isEmpty

end Value

/-- A whole number as it is written. -/
def wholeText (n : Int) : Text :=
  showInteger (if n = (1 <<< 64 : Nat) then n - 1 else n)

/-! ### Formats -/

/-- Why values cannot be put into a format: there are not enough of them, or one of its places
is none. -/
inductive FormatFault
  | tooFew
  | badPlace (number : Nat)
  deriving DecidableEq, Repr

/-- What is said of it. -/
def FormatFault.message : FormatFault → String
  | .tooFew => "not enough arguments passed to "
  | .badPlace number => "improper conversion(number " ++ toString number ++ ") in "

/-- A number in a place of a format. -/
def numberIn (l : Layout) (kind : Char) (v : Number) : Text :=
  match v with
  | .finite q => l.real kind (q < 0) (if q < 0 then -q else q)
  | v => l.pad (if v.isNegative then unboundedText v else
      (l.sign false).filter (fun _ => v != .notANumber) ++ unboundedText v)

/-- A value in a place of a format. `write` gives the text of a number. -/
def placed (write : Number → Text) (l : Layout) (kind : Char) (v : Value) : Text :=
  let textOf : Value → Text
    | .nothing => []
    | .number n => write n
    | .text s | .input s => s
  match kind with
  | 's' =>
    let s := textOf v
    l.pad (match l.precision with | some k => s.take k | none => s)
  | 'c' =>
    match v, v.number? with
    | .nothing, _ => l.pad [Char.ofNat 0]
    | .text s, _ | .input s, none => l.pad [s.headD (Char.ofNat 0)]
    | _, some n => l.pad [Char.ofNat ((toWord n) % 256).toNat]
    | .number n, none => l.pad [Char.ofNat ((toWord n) % 256).toNat]
  | 'd' | 'i' =>
    l.signed (toWord v.toNumber)
  | 'o' | 'x' | 'X' | 'u' => l.unsigned kind (Pass.wrapped (toWord v.toNumber))
  | kind => numberIn l kind v.toNumber

/-- A number in a format, or the next value for a star: the number if there is one, and what is
left of the format and of the values. Nothing if a value is missing. -/
def countIn : Text → List Value → Option (Option Int × Text × List Value)
  | '*' :: s, v :: vs => some (some (toWord v.toNumber), s, vs)
  | '*' :: _, [] => none
  | s, vs =>
    let digits := s.takeWhile Char.isDigit
    some (if digits.isEmpty then none else some (Decimal.value digits), s.drop digits.length, vs)

/-- The letters of the places of a format. -/
def placeLetters : Text := "sdicouxXeEfFgG".toList

/-- The place at the beginning of a format, behind its percent sign: its layout and letter and
what is left of the format and of the values. -/
def placeAt (number : Nat) (s : Text) (vs : List Value) :
    Except FormatFault (Layout × Char × Value × Text × List Value) :=
  let flags := s.takeWhile fun c => ['-', '+', ' ', '#', '0'].contains c
  match countIn (s.drop flags.length) vs with
  | none => .error .tooFew
  | some (width, s, vs) =>
    let precision : Option (Option Int × Text × List Value) :=
      match s with
      | '.' :: s => (countIn s vs).map fun r => (some (r.1.getD 0), r.2)
      | s => some (none, s, vs)
    match precision with
    | none => .error .tooFew
    | some (precision, s, vs) =>
      match s.dropWhile fun c => c == 'l' || c == 'h' with
      | [] => .error (.badPlace number)
      | kind :: s =>
        if !placeLetters.contains kind then .error (.badPlace number)
        else
          match vs with
          | [] => .error .tooFew
          | v :: vs =>
            let width := width.getD 0
            let flags := if width < 0 then '-' :: flags else flags
            let precision := precision.bind fun k => if k < 0 then none else some k.toNat
            .ok (⟨flags, width.natAbs, precision⟩, kind, v, s, vs)

/-- The text of values in a format, as far as it goes, and what is wrong then. `done` is the text
so far, latest first, and `number` that of the next place. -/
def formattedFrom (write : Number → Text) : Nat → Nat → Text → Text → List Value →
    Text × Option FormatFault
  | 0, _, done, _, _ | _, _, done, [], _ => (done.reverse, none)
  | n + 1, number, done, '%' :: '%' :: s, vs => formattedFrom write n number ('%' :: done) s vs
  | n + 1, number, done, '%' :: s, vs =>
    match placeAt number s vs with
    | .error e => (done.reverse, some e)
    | .ok (layout, kind, v, s, vs) =>
      formattedFrom write n (number + 1) ((placed write layout kind v).reverse ++ done) s vs
  | n + 1, number, done, c :: s, vs => formattedFrom write n number (c :: done) s vs

/-- The text of values in a format, as far as it goes, and what is wrong then. -/
def formatted (write : Number → Text) (format : Text) (vs : List Value) :
    Text × Option FormatFault :=
  formattedFrom write (format.length + 1) 1 [] format vs

/-- The text of a number: that of a whole number, or the one that a format gives. -/
def numberText (format : Text) (v : Number) : Text :=
  let other := (formatted unboundedText format [.number v]).1
  match v with
  | .finite q => if q.den == 1 && isWritten q.num then wholeText q.num else other
  | v => unboundedText v

namespace Value

/-- A value as a text, with a format for its number. -/
def toText (format : Text) : Value → Text
  | .nothing => []
  | .number v => numberText format v
  | .text s | .input s => s

/-- How two values compare: as numbers if both are or look like numbers, else as texts. -/
def order? (format : Text) (a b : Value) : Option Ordering :=
  match a.number?, b.number? with
  | some x, some y => x.order? y
  | _, _ => some (compare (a.toText format) (b.toText format))

/-- Whether a comparison holds. -/
def holds (format : Text) (op : Comparison) (a b : Value) : Bool :=
  match order? format a b, op with
  | none, op => op == .different
  | some .lt, op => op == .less || op == .atMost || op == .different
  | some .eq, op => op == .equal || op == .atMost || op == .atLeast
  | some .gt, op => op == .greater || op == .atLeast || op == .different

end Value

/-! ### Arrays -/

/-- A key of an array. -/
inductive Key
  | number (n : Int)
  | text (s : Text)
  deriving DecidableEq, Repr

/-- The text of a key. -/
def Key.toText : Key → Text
  | .number n => showInteger n
  | .text s => s

/-- The key that a value is: a whole number of 64 bits or a text. -/
def Value.toKey (format : Text) : Value → Key
  | .number (.finite q) =>
    if q.den == 1 && q.num.natAbs < 1 <<< 63 then .number q.num
    else .text (numberText format (.finite q))
  | v => .text (v.toText format)

/-- An item of an array. -/
structure Item where
  key : Key
  /-- Whether it has been asked for by its number. -/
  numbered : Bool := false
  value : Value := .nothing
  deriving DecidableEq, Repr

/-- The items of an array in buckets. -/
structure Items where
  buckets : Array (List Item) := #[]
  size : Nat := 0
  /-- Whether the buckets are by the texts of the keys. -/
  byText : Bool := false

namespace Items

/-- How many buckets there are at first. -/
def bucketCount : Nat := 64

/-- How many items there may be for each bucket. -/
def loadMax : Nat := 12

/-- A number for a text. -/
def hash (s : Text) : Nat :=
  (s.foldl (fun (h : UInt32) c => (h ^^^ c.toNat.toUInt32) * 16777619) 2166136261).toNat

/-- The bucket of a key. -/
def place (t : Items) (k : Key) : Nat :=
  match t.byText, k with
  | false, .number n => (n % t.buckets.size).toNat
  | _, k => hash k.toText % t.buckets.size

/-- All items, bucket by bucket. -/
def toList (t : Items) : List Item :=
  t.buckets.toList.flatten

/-- The items in other buckets, each put in front. -/
def rebuilt (count : Nat) (byText : Bool) (items : List Item) : Items :=
  items.foldl (fun t i => { t with
      buckets := t.buckets.modify (t.place i.key) fun b => i :: b
      size := t.size + 1 }) ⟨Array.replicate count [], 0, byText⟩

/-- The items with all keys as texts. -/
def asTexts (t : Items) : Items :=
  if t.byText then t
  else
    rebuilt t.buckets.size true
      (t.toList.map fun i => { i with key := .text i.key.toText, numbered := true })

/-- The array with twice as many buckets; the order in each is kept. -/
def grown (t : Items) : Items :=
  rebuilt (2 * t.buckets.size) t.byText (t.buckets.toList.flatMap List.reverse)

/-- The array with buckets. -/
def begun (t : Items) (byText : Bool) : Items :=
  if t.buckets.isEmpty then { buckets := Array.replicate bucketCount [], byText } else t

/-- The item of a key and the array after it has been looked up. With `create` there is one
afterwards. -/
def find (t : Items) (k : Key) (create : Bool) : Option Value × Items :=
  if t.size == 0 && !create then (none, t)
  else
    let isNumber := match k with
      | .number _ => true
      | .text _ => false
    let t := t.begun !isNumber
    let t := if isNumber then t else t.asTexts
    let k := if t.byText then .text k.toText else k
    let place := t.place k
    let bucket := t.buckets[place]?.getD []
    match bucket.find? fun i => i.key == k with
    | some i =>
      if isNumber && t.byText && i.numbered then (some i.value, t)
      else
        let i := { i with numbered := i.numbered || isNumber }
        (some i.value, { t with
          buckets := t.buckets.set! place (i :: bucket.filter fun j => j.key != k) })
    | none =>
      if create then
        let t := { t with size := t.size + 1 }
        let t := if loadMax * t.buckets.size < t.size then { t.grown with size := t.size } else t
        (some .nothing, { t with
          buckets := t.buckets.modify (t.place k) fun b => ⟨k, isNumber, .nothing⟩ :: b })
      else (none, t)

/-- Gives the item of a key another value. -/
def put (t : Items) (k : Key) (v : Value) : Items :=
  let t := (t.find k true).2
  let k := if t.byText then .text k.toText else k
  { t with
    buckets := t.buckets.modify (t.place k) fun b => b.map fun i =>
      if i.key == k then { i with value := v } else i }

/-- Takes an item away. -/
def erase (t : Items) (k : Key) : Items :=
  match t.find k false with
  | (none, t) => t
  | (some _, t) =>
    let k := if t.byText then .text k.toText else k
    if t.size ≤ 1 then {}
    else
      { t with
        buckets := t.buckets.modify (t.place k) fun b => b.filter fun i => i.key != k
        size := t.size - 1 }

/-- The keys in the order in which they are gone through. -/
def keys (t : Items) : List Text :=
  t.toList.map fun i => i.key.toText

/-- An array of values with the numbers from 1 on as keys. -/
def ofList (vs : List Value) : Items :=
  if vs.isEmpty then {}
  else
    let count := (List.range 24).foldl
      (fun c _ => if loadMax * c < vs.length then 2 * c else c) bucketCount
    rebuilt count false ((vs.zipIdx 1).map fun (v, n) => ⟨.number n, true, v⟩)

end Items

end Rule
end Shell
end StressBench
