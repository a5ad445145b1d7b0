/-
# One numeral for each number

A string of digits without superfluous zeros is the decimal text of its value,
and the decimal text of a number is such a string: the two readings undo each
other, so a number has one numeral of this form.

Key definition: `Decimal.IsCanonical`.
Key theorems: `Decimal.digits_value`, `Decimal.isCanonical_digits`.
-/
import StressBench.Number.Decimal

namespace StressBench
namespace Decimal

/-- One or more ASCII digits, with no zero in front of others. -/
def IsCanonical (ds : Text) : Prop :=
  ds ≠ [] ∧ (∀ c ∈ ds, c.isDigit = true) ∧ (1 < ds.length → ds.head? ≠ some '0')

theorem isNumeral_iff {ds : Text} :
    isNumeral ds = true ↔ ds ≠ [] ∧ ∀ c ∈ ds, c.isDigit = true := by
  simp [isNumeral]

/-! ### Single digits -/

theorem toNat_bounds {c : Char} (h : c.isDigit = true) : 48 ≤ c.toNat ∧ c.toNat ≤ 57 :=
  Char.isDigit_iff_toNat.mp h

theorem isBlank_of_isDigit {c : Char} (h : c.isDigit = true) : Text.isBlank c = false := by
  have hb := toNat_bounds h
  simp [Text.isBlank]
  omega

theorem noBlank_of_isNumeral {ds : Text} (h : isNumeral ds = true) :
    ∀ c ∈ ds, Text.isBlank c = false := fun c hc =>
  isBlank_of_isDigit ((isNumeral_iff.mp h).2 c hc)

theorem digitChar_toNat_sub {c : Char} (h : c.isDigit = true) : (c.toNat - 48).digitChar = c := by
  obtain ⟨h1, h2⟩ := toNat_bounds h
  obtain ⟨d, hd, hcd⟩ : ∃ d, d < 10 ∧ c.toNat = 48 + d := ⟨c.toNat - 48, by omega, by omega⟩
  have hc : c = Char.ofNat (48 + d) := by rw [← hcd, Char.ofNat_toNat]
  rw [hcd, Nat.add_sub_cancel_left, hc]
  match d, hd with
  | 0, _ | 1, _ | 2, _ | 3, _ | 4, _ | 5, _ | 6, _ | 7, _ | 8, _ | 9, _ => rfl

theorem digits_of_lt {n : Nat} (h : n < 10) : digits n = [n.digitChar] :=
  Nat.toDigits_of_lt_base h

theorem digits_mul_add {n d : Nat} (hn : 0 < n) (hd : d < 10) :
    digits (10 * n + d) = digits n ++ [d.digitChar] := by
  rw [← digits_of_lt hd]
  exact (Nat.toDigits_append_toDigits (by decide) hn hd).symm

theorem digits_eq_append {n : Nat} (h : 10 ≤ n) :
    digits n = digits (n / 10) ++ [(n % 10).digitChar] :=
  Nat.toDigits_of_base_le (by decide) h

theorem digits_ne_nil (n : Nat) : digits n ≠ [] :=
  Nat.toDigits_ne_nil

/-! ### Numerals -/

/-- Digits read on top of a number that is not zero follow its numeral. -/
theorem digits_ofDigitChars : ∀ (ds : Text) (n : Nat), 0 < n → (∀ c ∈ ds, c.isDigit = true) →
    digits (Nat.ofDigitChars 10 ds n) = digits n ++ ds
  | [], n, _, _ => by rw [Nat.ofDigitChars_nil, List.append_nil]
  | c :: ds, n, hn, h => by
    have hc : c.isDigit = true := h c List.mem_cons_self
    have hd : c.toNat - 48 < 10 := by
      have := toNat_bounds hc
      omega
    have ih := digits_ofDigitChars ds (10 * n + (c.toNat - 48)) (by omega)
      fun x hx => h x (List.mem_cons_of_mem _ hx)
    rw [Nat.ofDigitChars_cons]
    refine ih.trans ?_
    rw [digits_mul_add hn hd, digitChar_toNat_sub hc, List.append_assoc]
    rfl

/-- **A canonical string of digits is the numeral of its value.** -/
theorem digits_value {ds : Text} (h : IsCanonical ds) : digits (value ds) = ds := by
  obtain ⟨hne, hdig, hzero⟩ := h
  obtain ⟨c, ds, rfl⟩ := List.exists_cons_of_ne_nil hne
  have hc : c.isDigit = true := hdig c List.mem_cons_self
  have hb := toNat_bounds hc
  have hone : digits (c.toNat - 48) = [c] := by
    rw [digits_of_lt (by omega), digitChar_toNat_sub hc]
  have hval : value (c :: ds) = Nat.ofDigitChars 10 ds (c.toNat - 48) := by
    rw [value, Nat.ofDigitChars_cons, Nat.mul_zero, Nat.zero_add]
    rfl
  rw [hval]
  cases ds with
  | nil => rw [Nat.ofDigitChars_nil, hone]
  | cons c' ds =>
    have hc0 : c ≠ '0' := by
      intro h0
      exact hzero (by simp) (by rw [h0]; rfl)
    -- a first digit that is not zero has a positive value, on top of which the rest is read
    have hpos : 0 < c.toNat - 48 := by
      rcases Nat.eq_zero_or_pos (c.toNat - 48) with h0 | h0
      · have := digitChar_toNat_sub hc
        rw [h0] at this
        exact absurd this.symm hc0
      · exact h0
    rw [digits_ofDigitChars (c' :: ds) _ hpos fun x hx => hdig x (List.mem_cons_of_mem _ hx), hone]
    rfl

theorem head?_digits_ne_zero (n : Nat) (h : 0 < n) : (digits n).head? ≠ some '0' := by
  induction n using Nat.strongRecOn with
  | ind n ih =>
    rcases Nat.lt_or_ge n 10 with h10 | h10
    · rw [digits_of_lt h10, List.head?_cons, ne_eq, Option.some.injEq, Nat.digitChar_eq_zero]
      omega
    · have hlead := ih (n / 10) (by omega) (by omega)
      obtain ⟨c, cs, hcs⟩ := List.exists_cons_of_ne_nil (digits_ne_nil (n / 10))
      rw [hcs] at hlead
      rw [digits_eq_append h10, hcs]
      exact hlead

theorem isCanonical_digits (n : Nat) : IsCanonical (digits n) := by
  refine ⟨digits_ne_nil n, fun c hc => ?_, fun hlen => ?_⟩
  · exact Nat.isDigit_of_mem_toDigits (by decide) (by decide) hc
  · refine head?_digits_ne_zero n (Nat.pos_of_ne_zero fun h0 => ?_)
    rw [h0, digits_of_lt (by decide)] at hlen
    simp at hlen

end Decimal
end StressBench
