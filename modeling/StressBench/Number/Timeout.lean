/-
# Reading a number of seconds

A time limit is written as a decimal number: an optional sign, digits with at
most one point among, before or behind them, and an optional exponent; the names
of infinity and of what is no number are numbers too, in any case of letters.
The text is trimmed, read as the nearest 64-bit binary floating-point number,
refused unless that is positive, and turned into the nearest span of time.

Key definitions: `Numeral`, `Numeral.parse?`, `Numeral.toBinary64`, `Timeout.parse`.
-/
import StressBench.Number.Duration

namespace StressBench

/-- A number as it is written. The finite ones are `mantissa * 10 ^ exponent`. -/
inductive Numeral
  | finite (negative : Bool) (mantissa : Nat) (exponent : Int)
  | infinite (negative : Bool)
  | notANumber
  deriving DecidableEq, Repr

/-- A floating-point number: not a number, an infinity, or a rational. Of zero,
the sign is not kept. -/
inductive Binary64.Value
  | notANumber
  | infinite (negative : Bool)
  | finite (value : Rat)
  deriving DecidableEq, Repr

namespace Numeral

/-- The letters of a text in lower case, ASCII letters only. -/
def lowerCase (s : Text) : Text :=
  s.map Char.toLower

/-- An exponent: a sign or none, then digits and nothing else. -/
def parseExponent? : Text → Option Int
  | '-' :: ds => if Decimal.isNumeral ds then some (-(Decimal.value ds : Int)) else none
  | '+' :: ds => if Decimal.isNumeral ds then some (Decimal.value ds) else none
  | ds => if Decimal.isNumeral ds then some (Decimal.value ds) else none

/-- What follows the mantissa: nothing, or `e` and an exponent. -/
def parseScale? : Text → Option Int
  | [] => some 0
  | c :: s => if c = 'e' ∨ c = 'E' then parseExponent? s else none

/-- The digits after a point, if there is one, and the rest. -/
def splitFraction : Text → Text × Text
  | '.' :: s => (s.takeWhile Char.isDigit, s.dropWhile Char.isDigit)
  | s => ([], s)

/-- A number without its sign. -/
def parseUnsigned? (negative : Bool) (s : Text) : Option Numeral :=
  let name := lowerCase s
  if name = ['i', 'n', 'f'] ∨ name = ['i', 'n', 'f', 'i', 'n', 'i', 't', 'y'] then
    some (.infinite negative)
  else if name = ['n', 'a', 'n'] then some .notANumber
  else
    let whole := s.takeWhile Char.isDigit
    let (fraction, rest) := splitFraction (s.dropWhile Char.isDigit)
    if (whole ++ fraction).isEmpty then none
    else
      (parseScale? rest).map fun exponent =>
        .finite negative (Decimal.value (whole ++ fraction)) (exponent - fraction.length)

/-- The number that a text is. -/
def parse? : Text → Option Numeral
  | '-' :: s => parseUnsigned? true s
  | '+' :: s => parseUnsigned? false s
  | s => parseUnsigned? false s

/-- The size of a finite number: what it is without its sign. -/
def size (mantissa : Nat) (exponent : Int) : Rat :=
  mantissa * 10 ^ exponent

/-- The nearest floating-point number. The number of digits of the mantissa and
the exponent tell the sizes that are out of the format's range, so that no power
of ten far outside it is ever computed. -/
def toBinary64 : Numeral → Binary64.Value
  | .notANumber => .notANumber
  | .infinite negative => .infinite negative
  | .finite negative mantissa exponent =>
    let magnitude : Int := (Decimal.digits mantissa).length + exponent
    if mantissa = 0 ∨ magnitude < -330 then .finite 0
    else if 310 < magnitude then .infinite negative
    else
      let v := Binary64.nearest (size mantissa exponent)
      if Binary64.bound ≤ v then .infinite negative
      else .finite (if negative then -v else v)

end Numeral

/-! ### Time limits -/

namespace Timeout

/-- Why a text is not a time limit. -/
inductive Fault
  | notANumber
  | notPositive
  | tooBig
  deriving DecidableEq, Repr

/-- The sentence that names the fault of a text. -/
def Fault.message (text : Text) : Fault → String
  | .notANumber => "`" ++ String.ofList text ++ "` is not a number of seconds"
  | .notPositive => "timeout must be positive, got " ++ String.ofList text
  | .tooBig =>
    "invalid timeout `" ++ String.ofList text ++
      "`: cannot convert float seconds to Duration: value is either too big or NaN"

/-- The span of a floating-point number of seconds, which has to be positive. -/
def ofBinary64 : Binary64.Value → Except Fault Duration
  | .notANumber => .error .notPositive
  | .infinite negative => .error (if negative then .notPositive else .tooBig)
  | .finite v =>
    if v ≤ 0 then .error .notPositive
    else
      match Duration.ofSeconds? v with
      | some d => .ok d
      | none => .error .tooBig

/-- The span of time that a text gives in seconds. -/
def parse (text : Text) : Except Fault Duration :=
  match Numeral.parse? (Text.trim text) with
  | none => .error .notANumber
  | some n => ofBinary64 n.toBinary64

end Timeout
end StressBench
