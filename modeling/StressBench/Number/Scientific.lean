/-
# Rationals in decimal notation

A rational that is not negative is written with a number of places after the point,
or with one digit before the point and an exponent of ten, or in the shorter way of
the two. The last digit is rounded, a half to the even neighbour. Numbers are read
back in the same notations.

Key definitions: `Scientific.fixed`, `Scientific.exponential`, `Scientific.general`,
`Scientific.readAt?`.
-/
import StressBench.Number.Binary64

namespace StressBench
namespace Scientific

/-- A power of ten. -/
def tenTo (n : Nat) : Rat :=
  ((Nat.pow 10 n : Nat) : Rat)

/-- A rational times a power of ten. -/
def scaledBy (q : Rat) (exponent : Int) : Rat :=
  if 0 ≤ exponent then q * tenTo exponent.toNat else q / tenTo (-exponent).toNat

/-- The rational nearest to one that is not negative of those with so many significant
bits. -/
def withBits (bits : Nat) (q : Rat) : Rat :=
  if q ≤ 0 then 0
  else
    let exponent : Int := floorLog 2 q + 1 - bits
    let unit : Rat :=
      if 0 ≤ exponent then ((1 <<< exponent.toNat : Nat) : Rat)
      else 1 / ((1 <<< (-exponent).toNat : Nat) : Rat)
    (roundHalfEven (q / unit) : Rat) * unit

/-! ### Writing -/

/-- Digits with a point before the last so many of them, of which there is one at
least. -/
def withPoint (places : Nat) (pointed : Bool) (n : Nat) : Text :=
  let digits := Decimal.digits n
  let digits := List.replicate (places + 1 - digits.length) '0' ++ digits
  let whole := digits.take (digits.length - places)
  if places == 0 then (if pointed then whole ++ ['.'] else whole)
  else whole ++ '.' :: digits.drop (digits.length - places)

/-- A rational with a number of places after the point. -/
def fixed (places : Nat) (pointed : Bool) (q : Rat) : Text :=
  withPoint places pointed (roundHalfEven (scaledBy q places))

/-- The digits of a rational, one before the point and a number of them after it, as a
whole number, and the exponent of ten. -/
def significand (places : Nat) (q : Rat) : Nat × Int :=
  if q ≤ 0 then (0, 0)
  else
    let exponent := floorLog 10 q
    let n := roundHalfEven (scaledBy q (places - exponent))
    if n < Nat.pow 10 (places + 1) then (n, exponent) else (n / 10, exponent + 1)

/-- An exponent: its sign and at least two digits. -/
def exponentText (mark : Char) (exponent : Int) : Text :=
  let digits := Decimal.digits exponent.natAbs
  mark :: (if exponent < 0 then '-' else '+') ::
    (List.replicate (2 - digits.length) '0' ++ digits)

/-- A rational with one digit before the point and a number of places after it. -/
def exponential (mark : Char) (places : Nat) (pointed : Bool) (q : Rat) : Text :=
  let (n, exponent) := significand places q
  withPoint places pointed n ++ exponentText mark exponent

/-- A decimal text without the zeros at the end of its places. -/
def withoutTail (s : Text) : Text :=
  if s.contains '.' then
    ((s.reverse.dropWhile (· == '0')).dropWhile (· == '.')).reverse
  else s

/-- A rational with a number of significant digits, without an exponent unless that is
below -4 or the digits do not reach to the point. -/
def general (mark : Char) (precision : Nat) (full : Bool) (q : Rat) : Text :=
  let precision := max 1 precision
  let (n, exponent) := significand (precision - 1) q
  let trim (s : Text) := if full then s else withoutTail s
  if exponent < -4 || (precision : Int) ≤ exponent then
    trim (withPoint (precision - 1) full n) ++ exponentText mark exponent
  else trim (fixed (precision - 1 - exponent).toNat full q)

/-! ### Reading -/

/-- The greatest size of an exponent; beyond it there are no numbers. -/
def exponentMax : Nat := 9999

/-- The exponent at the beginning of a text and what comes after it; none if there is no
whole one. -/
def exponentAt (s : Text) : Int × Text :=
  match s with
  | e :: r =>
    if e == 'e' || e == 'E' then
      let (negative, r) :=
        match r with
        | '-' :: r => (true, r)
        | '+' :: r => (false, r)
        | r => (false, r)
      let digits := r.takeWhile Char.isDigit
      if digits.isEmpty then (0, s)
      else
        let n : Int := min exponentMax (Decimal.value digits)
        (if negative then -n else n, r.drop digits.length)
    else (0, s)
  | [] => (0, [])

/-- The decimal number at the beginning of a text, without a sign, the number of its places
and what comes after it. -/
def readAt? (s : Text) : Option (Rat × Nat × Text) :=
  let whole := s.takeWhile Char.isDigit
  let r := s.drop whole.length
  let (places, r) :=
    match r with
    | '.' :: r => (r.takeWhile Char.isDigit, r.dropWhile Char.isDigit)
    | r => ([], r)
  let r := if whole.isEmpty && places.isEmpty then s else r
  if whole.isEmpty && places.isEmpty then none
  else
    let (exponent, r) := exponentAt r
    let mantissa : Rat := ((Decimal.value (whole ++ places) : Nat) : Rat)
    some (scaledBy mantissa (exponent - places.length), places.length, r)

end Scientific
end StressBench
