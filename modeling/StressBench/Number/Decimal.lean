/-
# Decimal numerals

The digits of a number, the number of a string of digits, and the checked
reading of a numeral below a limit. The reading takes the digits from the left
and stops at the first that is no digit or that reaches the limit, whichever
comes first; one leading `+` is allowed before a digit.

Key definitions: `Decimal.digits`, `Decimal.value`, `Decimal.isNumeral`, `Decimal.readBelow`.
Key theorem: `Decimal.value_digits`.
-/
import StressBench.Text.Basic

namespace StressBench
namespace Decimal

/-- The decimal digits of a number, without superfluous zeros. -/
def digits (n : Nat) : Text :=
  Nat.toDigits 10 n

/-- The number that a string of decimal digits stands for. -/
def value (ds : Text) : Nat :=
  Nat.ofDigitChars 10 ds 0

/-- One or more ASCII digits. -/
def isNumeral (ds : Text) : Bool :=
  !ds.isEmpty && ds.all Char.isDigit

theorem value_digits (n : Nat) : value (digits n) = n :=
  Nat.ofDigitChars_toDigits (by decide) (by decide)

theorem isNumeral_digits (n : Nat) : isNumeral (digits n) = true := by
  have h : digits n ≠ [] := by
    intro h
    have := Nat.length_toDigits_pos (b := 10) (n := n)
    rw [show Nat.toDigits 10 n = [] from h] at this
    simp at this
  have hd : ∀ c ∈ digits n, c.isDigit = true := fun c hc =>
    Nat.isDigit_of_mem_toDigits (by decide) (by decide) hc
  simp [isNumeral, h]
  exact hd

/-! ### Checked reading -/

/-- Why a text is not the numeral of a number below the limit. -/
inductive Fault
  | empty
  | badDigit
  | tooLarge
  deriving DecidableEq, Repr

/-- The sentence that names the fault. -/
def Fault.message : Fault → String
  | .empty => "cannot parse integer from empty string"
  | .badDigit => "invalid digit found in string"
  | .tooLarge => "number too large to fit in target type"

/-- Reads digits from the left on top of what has been read. -/
def readOn (limit : Nat) : Nat → Text → Except Fault Nat
  | read, [] => .ok read
  | read, c :: cs =>
    if c.isDigit then
      let read := 10 * read + (c.toNat - '0'.toNat)
      if read < limit then readOn limit read cs else .error .tooLarge
    else .error .badDigit

/-- The number below `limit` that the text stands for. -/
def readBelow (limit : Nat) : Text → Except Fault Nat
  | [] => .error .empty
  | ['+'] => .error .badDigit
  | '+' :: cs => readOn limit 0 cs
  | cs => readOn limit 0 cs

end Decimal
end StressBench
