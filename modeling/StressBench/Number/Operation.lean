/-
# Arithmetic in binary floating point

The result of an operation on two numbers of the format is the number nearest to the exact
result; too large ones are infinite. Functions that have no rational values are computed by
the machine.

Key definitions: `Binary64.Value.ofRat`, `Binary64.Value.add`, `Binary64.Value.multiply`,
`Binary64.Value.divide`, `Binary64.Value.remainder`, `Binary64.Value.power`,
`Binary64.Value.order?`.
-/
import StressBench.Number.Timeout

namespace StressBench
namespace Binary64
namespace Value

/-- The whole numbers that are numbers of the format one and all. -/
def exactMax : Nat := 1 <<< 53

/-- The number nearest to a rational. -/
def ofRat (q : Rat) : Value :=
  if q.den == 1 && q.num.natAbs ≤ exactMax then .finite q
  else
    let size := nearest (if q < 0 then -q else q)
    if bound ≤ size then .infinite (decide (q < 0))
    else .finite (if q < 0 then -size else size)

/-- The number of a whole number. -/
def ofInt (n : Int) : Value :=
  ofRat (n : Rat)

/-- Whether a number is below zero. -/
def isNegative : Value → Bool
  | .notANumber => false
  | .infinite negative => negative
  | .finite q => decide (q < 0)

/-- Whether a number is zero. -/
def isZero (v : Value) : Bool :=
  v == .finite 0

/-- The number with the other sign. -/
def negate : Value → Value
  | .notANumber => .notANumber
  | .infinite negative => .infinite !negative
  | .finite q => .finite (-q)

/-- The sum of two numbers. -/
def add : Value → Value → Value
  | .finite p, .finite q => ofRat (p + q)
  | .infinite m, .infinite n => if m == n then .infinite m else .notANumber
  | .infinite m, .finite _ | .finite _, .infinite m => .infinite m
  | _, _ => .notANumber

/-- The difference of two numbers. -/
def subtract (a b : Value) : Value :=
  a.add b.negate

/-- The product of two numbers. -/
def multiply : Value → Value → Value
  | .finite p, .finite q => ofRat (p * q)
  | .notANumber, _ | _, .notANumber => .notANumber
  | a, b =>
    if a.isZero || b.isZero then .notANumber else .infinite (a.isNegative != b.isNegative)

/-- The quotient of two numbers. -/
def divide : Value → Value → Value
  | .finite p, .finite q =>
    if q == 0 then (if p == 0 then .notANumber else .infinite (decide (p < 0))) else ofRat (p / q)
  | .infinite m, .finite q => .infinite (m != decide (q < 0))
  | .finite _, .infinite _ => .finite 0
  | _, _ => .notANumber

/-- A rational without its places, so that it comes nearer to zero. -/
def truncated (q : Rat) : Int :=
  if q < 0 then q.ceil else q.floor

/-- A number without its places. -/
def truncate : Value → Value
  | .finite q => .finite (truncated q)
  | v => v

/-- What is left when one number is taken away from the other as often as it goes; it has the
sign of the first. -/
def remainder : Value → Value → Value
  | .finite p, .finite q => if q == 0 then .notANumber
      else ofRat (p - q * (truncated (p / q) : Rat))
  | .finite p, .infinite _ => .finite p
  | _, _ => .notANumber

/-! ### The numbers of the machine -/

/-- The number of the machine. -/
def toFloat : Value → Float
  | .notANumber => 0.0 / 0.0
  | .infinite negative => if negative then -1.0 / 0.0 else 1.0 / 0.0
  | .finite q =>
    let size := if q < 0 then -q else q
    let e := exponent size
    let f := Float.scaleB (Float.ofNat (scaled size).floor.toNat) e
    if q < 0 then -f else f

/-- The number that a number of the machine is. -/
def ofFloat (f : Float) : Value :=
  let bits := f.toBits.toNat
  let negative := bits.testBit 63
  let exponent := (bits >>> 52) % 2048
  let fraction := bits % leastSignificand
  if exponent == 2047 then (if fraction == 0 then .infinite negative else .notANumber)
  else
    let significand := if exponent == 0 then fraction else fraction + leastSignificand
    let scale : Int := (max exponent 1 : Nat) - 1075
    let unit : Rat := ((1 <<< scale.natAbs : Nat) : Rat)
    let size : Rat := if 0 ≤ scale then (significand : Rat) * unit else (significand : Rat) / unit
    .finite (if negative then -size else size)

/-- A number to the power of another. -/
def power (a b : Value) : Value :=
  match a, b with
  | .finite p, .finite q =>
    if p.den == 1 && q.den == 1 && 0 ≤ q && q ≤ 64 then
      ofRat ((Int.pow p.num q.num.toNat : Int) : Rat)
    else ofFloat (Float.pow a.toFloat b.toFloat)
  | _, _ => ofFloat (Float.pow a.toFloat b.toFloat)

/-- A function of the machine. -/
def viaFloat (f : Float → Float) (v : Value) : Value :=
  ofFloat (f v.toFloat)

/-- How two numbers compare. What is no number compares with nothing. -/
def order? : Value → Value → Option Ordering
  | .finite p, .finite q => some (if p < q then .lt else if p == q then .eq else .gt)
  | .notANumber, _ | _, .notANumber => none
  | .infinite m, .infinite n => some (if m == n then .eq else if m then .lt else .gt)
  | .infinite m, .finite _ => some (if m then .lt else .gt)
  | .finite _, .infinite n => some (if n then .gt else .lt)

end Value
end Binary64
end StressBench
