/-
# Numbers in arguments

Whole numbers are written in base ten, in base eight after a zero, or in base
sixteen after `0x`, perhaps with a sign and with blanks in front. A text may have
more behind its number.

Key definitions: `Numeral.integerAt?`, `Numeral.realAt?`, `Numeral.scaled?`.
-/
import StressBench.Number.Scientific
import StressBench.Shell.Arithmetic
import StressBench.Shell.Tool.Basic

namespace StressBench
namespace Shell
namespace Numeral

/-- The text after blanks and a sign, and whether the sign is a minus. -/
def pastSign (s : Text) : Bool × Text :=
  match s.dropWhile Tool.isSpace with
  | '-' :: s => (true, s)
  | '+' :: s => (false, s)
  | s => (false, s)

/-- The whole number at the beginning of a text, and what comes after it. -/
def integerAt? (s : Text) : Option (Int × Text) :=
  let (negative, s) := pastSign s
  (Arithmetic.numberAt? s).map fun (n, rest) =>
    (if negative then -(Int.ofNat n) else Int.ofNat n, rest)

/-- The decimal number at the beginning of a text, and what comes after it. -/
def realAt? (s : Text) : Option (Rat × Text) :=
  let (negative, s) := pastSign s
  let value : Option (Rat × Text) :=
    match s with
    | '0' :: x :: c :: _ =>
      if (x == 'x' || x == 'X') && (Arithmetic.digitValue? 16 c).isSome then
        (Arithmetic.numberAt? s).map fun (n, rest) => ((n : Rat), rest)
      else (Scientific.readAt? s).map fun (q, _, rest) => (q, rest)
    | s => (Scientific.readAt? s).map fun (q, _, rest) => (q, rest)
  value.map fun (q, rest) => (if negative then -q else q, rest)

/-- What a suffix multiplies a size by. -/
def suffixFactor? (s : Text) : Option Nat :=
  let power (base : Nat) (c : Char) : Option Nat :=
    (['K', 'M', 'G', 'T', 'P', 'E'].idxOf? c.toUpper).map fun i => Nat.pow base (i + 1)
  match s with
  | [] => some 1
  | ['b'] => some 512
  | ['c'] => some 1
  | ['w'] => some 2
  | [c] => power 1024 c
  | [c, 'B'] => power 1000 c
  | [c, 'i', 'B'] => power 1024 c
  | _ => none

/-- The size that a text writes: digits and perhaps a suffix. -/
def scaled? (s : Text) : Option Nat :=
  let digits := s.takeWhile Char.isDigit
  let factor := suffixFactor? (s.drop digits.length)
  if digits.isEmpty then none else factor.map fun f => digitsValue digits * f

end Numeral
end Shell
end StressBench
