/-
# Rounding to binary floating point

Numbers of the 64-bit binary floating-point format are kept as the rationals
that they are. A rational is rounded to the nearest number of the format with 53
significant bits and no bit below 2^-1074; a tie goes to the even significand.
The shortest decimal of such a number is the one of fewest digits that rounds
back to it, and of those the nearest; a tie goes to the greater.

Key definitions: `roundHalfEven`, `Binary64.exponent`, `Binary64.nearest`,
`Binary64.shortest`, `Binary64.render`.
-/
import StressBench.Number.Decimal

namespace StressBench

/-- The natural number nearest to a rational that is not negative; a half goes
to the even neighbour. -/
def roundHalfEven (q : Rat) : Nat :=
  let below := q.floor.toNat
  let rest := q - (below : Rat)
  if rest < 1 / 2 then below
  else if 1 / 2 < rest then below + 1
  else if below % 2 = 0 then below else below + 1

/-- The greatest exponent of a power of the base that is at most `n`. -/
def floorLogNat (base n : Nat) : Nat :=
  if h : base ≤ n ∧ 1 < base then floorLogNat base (n / base) + 1 else 0
termination_by n
decreasing_by exact Nat.div_lt_self (by omega) h.2

/-- The greatest exponent `k` with `base ^ k` at most the positive rational `q`. -/
def floorLog (base : Nat) (q : Rat) : Int :=
  let guess : Int := floorLogNat base q.num.toNat - floorLogNat base q.den
  if (base : Rat) ^ guess ≤ q then guess else guess - 1

namespace Binary64

/-- The exponent of the lowest bit that a positive number near `q` can have. -/
def exponent (q : Rat) : Int :=
  max (-1074) (floorLog 2 q - 52)

/-- The significand of a positive rational at its exponent, before rounding. -/
def scaled (q : Rat) : Rat :=
  q / 2 ^ exponent q

/-- The number of the format nearest to a rational that is not negative, had the
format no largest number. -/
def nearest (q : Rat) : Rat :=
  if q ≤ 0 then 0 else (roundHalfEven (scaled q) : Rat) * 2 ^ exponent q

/-- The numbers of the format are below this bound. -/
def bound : Rat := 2 ^ (1024 : Nat)

/-- The least significand of a number that is not subnormal. -/
def leastSignificand : Nat := 1 <<< 52

/-! ### The shortest decimal -/

/-- The interval of rationals that round to the positive number `v`, and whether
its ends belong to it. -/
def interval (v : Rat) : Rat × Rat × Bool :=
  let unit : Rat := 2 ^ exponent v
  let significand := (scaled v).floor.toNat
  let below := if significand = leastSignificand ∧ -1074 < exponent v then unit / 4 else unit / 2
  (v - below, v + unit / 2, significand % 2 = 0)

/-- Whether the rational `q` rounds to the positive number `v`. -/
def roundsTo (q v : Rat) : Bool :=
  let (low, high, closed) := interval v
  if closed then low ≤ q && q ≤ high else low < q && q < high

/-- The decimal of `n` digits that is nearest to `v` of those that round to it, the
greater of two that are equally near: a whole number and an exponent of ten. -/
def decimalOf? (v : Rat) (n : Nat) : Option (Nat × Int) :=
  let exponent : Int := floorLog 10 v + 1 - n
  let unit : Rat := 10 ^ exponent
  let below := (v / unit).floor.toNat
  let low := roundsTo (below * unit) v
  let high := roundsTo ((below + 1 : Nat) * unit) v
  if low && (!high || v - below * unit < (below + 1 : Nat) * unit - v) then some (below, exponent)
  else if high then some (below + 1, exponent)
  else none

/-- A whole number times a power of ten, without zeros at the end of the number. -/
def withoutZeros (k : Nat) (exponent : Int) : Nat × Int :=
  if h : 0 < k ∧ k % 10 = 0 then withoutZeros (k / 10) (exponent + 1) else (k, exponent)
termination_by k
decreasing_by exact Nat.div_lt_self h.1 (by decide)

/-- The shortest decimal of a positive number: seventeen digits always suffice. The
next power of ten above the number counts as a decimal of one digit. -/
def shortest (v : Rat) : Nat × Int :=
  match (List.range' 1 17).findSome? (decimalOf? v) with
  | some (k, exponent) => withoutZeros k exponent
  | none => (0, 0)

/-- A whole number times a power of ten, written without an exponent: zeros
behind it, or a point in it with a digit on either side. -/
def positional (digits : Text) (exponent : Int) : Text :=
  if 0 ≤ exponent then digits ++ List.replicate exponent.toNat '0'
  else
    let places := (-exponent).toNat
    let padded := List.replicate (places + 1 - digits.length) '0' ++ digits
    padded.take (padded.length - places) ++ '.' :: padded.drop (padded.length - places)

/-- A number that is not negative, written with the fewest digits that read back
and never with an exponent. -/
def render (v : Rat) : Text :=
  if v ≤ 0 then ['0']
  else
    let (digits, exponent) := shortest v
    positional (Decimal.digits digits) exponent

end Binary64
end StressBench
