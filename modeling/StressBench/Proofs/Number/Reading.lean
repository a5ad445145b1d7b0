/-
# What is read as a number

The checked reading stops at the first digit that takes it to the limit, so that nothing
larger is ever held. As more digits only make a number larger, it still accepts all the
numerals below the limit, whatever zeros are in front. Below the first number that is no word
of 64 bits, the reading can be done in words, each product and each sum being checked before
it is taken.

Key definitions: `Decimal.Writes`, `Decimal.readWord`.
Key theorems: `Decimal.readOn_eq_ok_iff`, `Decimal.readBelow_eq_ok_iff`,
`Decimal.readBelow_digits`, `Decimal.readBelow_eq_readWord`.
-/
import StressBench.Proofs.Number.Numeral

namespace StressBench
namespace Decimal

variable {limit n : Nat}

theorem le_ofDigitChars (ds : Text) (read : Nat) : read ≤ Nat.ofDigitChars 10 ds read := by
  induction ds generalizing read with
  | nil => exact Nat.le_of_eq Nat.ofDigitChars_nil.symm
  | cons c ds ih =>
    rw [Nat.ofDigitChars_cons]
    refine Nat.le_trans ?_ (ih _)
    omega

theorem readOn_eq_ok_iff {read : Nat} {cs : Text} (hread : read < limit) :
    readOn limit read cs = .ok n ↔
      (∀ c ∈ cs, c.isDigit = true) ∧ Nat.ofDigitChars 10 cs read = n ∧ n < limit := by
  induction cs generalizing read with
  | nil =>
    rw [readOn, Nat.ofDigitChars_nil, Except.ok.injEq]
    constructor
    · rintro rfl
      exact ⟨List.forall_mem_nil _, rfl, hread⟩
    · rintro ⟨-, h, -⟩
      exact h
  | cons c cs ih =>
    rw [readOn, Nat.ofDigitChars_cons]
    by_cases hc : c.isDigit = true
    · rw [if_pos hc]
      by_cases hlt : 10 * read + (c.toNat - '0'.toNat) < limit
      · simp only [if_pos hlt, ih hlt, List.forall_mem_cons, hc, true_and]
      · rw [if_neg hlt]
        constructor
        · intro h
          cases h
        · rintro ⟨-, rfl, hn⟩
          exact absurd (Nat.lt_of_le_of_lt (le_ofDigitChars _ _) hn) hlt
    · rw [if_neg hc]
      constructor
      · intro h
        cases h
      · rintro ⟨hall, -⟩
        exact absurd (hall c List.mem_cons_self) hc

theorem isNumeral_ne_plus {ds cs : Text} (h : isNumeral ds = true) : ds ≠ '+' :: cs := by
  rintro rfl
  exact absurd ((isNumeral_iff.mp h).2 '+' List.mem_cons_self) (by decide)

theorem readOn_zero_eq_ok_iff {ds : Text} (hlimit : 0 < limit) (hne : ds ≠ []) :
    readOn limit 0 ds = .ok n ↔ isNumeral ds = true ∧ value ds = n ∧ n < limit := by
  rw [readOn_eq_ok_iff hlimit, isNumeral_iff]
  simp only [hne, ne_eq, not_false_eq_true, true_and, value]

/-- **A text is read as a number if it is a numeral of it, perhaps after one `+`.** -/
theorem readBelow_eq_ok_iff {text : Text} (hlimit : 0 < limit) :
    readBelow limit text = .ok n ↔ ∃ ds, (text = ds ∨ text = '+' :: ds) ∧ isNumeral ds = true ∧
      value ds = n ∧ n < limit := by
  unfold readBelow
  split
  · constructor
    · intro h
      cases h
    · rintro ⟨ds, rfl | h, hds, -⟩
      · cases hds
      · cases h
  · constructor
    · intro h
      cases h
    · rintro ⟨ds, rfl | h, hds, -⟩
      · cases hds
      · cases h
        cases hds
  · next cs hcs =>
    rw [readOn_zero_eq_ok_iff hlimit hcs]
    constructor
    · exact fun h => ⟨cs, .inr rfl, h⟩
    · rintro ⟨ds, rfl | h, hds, hvalue⟩
      · exact absurd rfl (isNumeral_ne_plus hds)
      · cases h
        exact ⟨hds, hvalue⟩
  · next hne _ hplus =>
    rw [readOn_zero_eq_ok_iff hlimit hne]
    constructor
    · exact fun h => ⟨text, .inl rfl, h⟩
    · rintro ⟨ds, rfl | rfl, h⟩
      · exact h
      · exact absurd rfl (hplus ds)

/-- A text that is the numeral of a number, with any zeros in front and perhaps after one `+`. -/
def Writes (text : Text) (n : Nat) : Prop :=
  ∃ ds, (text = ds ∨ text = '+' :: ds) ∧ isNumeral ds = true ∧ value ds = n

theorem readBelow_eq_ok_iff_writes {text : Text} (hlimit : 0 < limit) :
    readBelow limit text = .ok n ↔ Writes text n ∧ n < limit := by
  rw [readBelow_eq_ok_iff hlimit]
  constructor
  · rintro ⟨ds, htext, hds, hvalue, hn⟩
    exact ⟨⟨ds, htext, hds, hvalue⟩, hn⟩
  · rintro ⟨⟨ds, htext, hds, hvalue⟩, hn⟩
    exact ⟨ds, htext, hds, hvalue, hn⟩

/-- A text is the numeral of one number at most: below a limit that is large enough, both are
read. -/
theorem Writes.unique {text : Text} {m : Nat} (hn : Writes text n) (hm : Writes text m) :
    n = m := by
  have hlimit : 0 < n + m + 1 := by omega
  have hreadn := (readBelow_eq_ok_iff_writes hlimit).mpr ⟨hn, by omega⟩
  have hreadm := (readBelow_eq_ok_iff_writes hlimit).mpr ⟨hm, by omega⟩
  exact Except.ok.inj (hreadn.symm.trans hreadm)

theorem readBelow_digits (h : n < limit) : readBelow limit (digits n) = .ok n :=
  (readBelow_eq_ok_iff (Nat.zero_lt_of_lt h)).mpr
    ⟨digits n, .inl rfl, isNumeral_digits n, value_digits n, h⟩

/-! ### Reading in words

A machine holds the number that has been read in a word of 64 bits, in which a product or a sum
that is too large would wrap. -/

/-- The largest word. -/
def maxWord : UInt64 := 0xFFFFFFFFFFFFFFFF

/-- Ten times a word, if that is a word. -/
def timesTen? (w : UInt64) : Option UInt64 :=
  if w ≤ maxWord / 10 then some (10 * w) else none

/-- The sum of two words, if that is a word. -/
def plus? (w v : UInt64) : Option UInt64 :=
  if w ≤ maxWord - v then some (w + v) else none

/-- A digit put behind a word, if that gives a word. -/
def append? (w digit : UInt64) : Option UInt64 :=
  (timesTen? w).bind (plus? · digit)

/-- Reads digits from the left on top of a word that has been read. -/
def readWordOn : UInt64 → Text → Except Fault UInt64
  | read, [] => .ok read
  | read, c :: cs =>
    if c.isDigit then
      match append? read (UInt64.ofNat (c.toNat - '0'.toNat)) with
      | some read => readWordOn read cs
      | none => .error .tooLarge
    else .error .badDigit

/-- The word that a text stands for. -/
def readWord : Text → Except Fault UInt64
  | [] => .error .empty
  | ['+'] => .error .badDigit
  | '+' :: cs => readWordOn 0 cs
  | cs => readWordOn 0 cs

/-- A result that is given only if it did not wrap is exact. -/
theorem map_toNat_checked {p : Prop} [Decidable p] {w : UInt64} {n : Nat}
    (hfits : p ↔ n < UInt64.size) (hwraps : w.toNat = n % UInt64.size) :
    (if p then some w else none).map UInt64.toNat = if n < UInt64.size then some n else none := by
  by_cases h : n < UInt64.size
  · rw [if_pos (hfits.mpr h), if_pos h, Option.map_some, hwraps, Nat.mod_eq_of_lt h]
  · rw [if_neg (mt hfits.mp h), if_neg h, Option.map_none]

theorem toNat_maxWord : maxWord.toNat = 18446744073709551615 := by decide

theorem map_toNat_timesTen (w : UInt64) : (timesTen? w).map UInt64.toNat =
    if 10 * w.toNat < UInt64.size then some (10 * w.toNat) else none := by
  refine map_toNat_checked ?_ (UInt64.toNat_mul 10 w)
  rw [UInt64.le_iff_toNat_le, UInt64.toNat_div, toNat_maxWord, UInt64.size]
  show w.toNat ≤ 18446744073709551615 / 10 ↔ _
  omega

theorem map_toNat_plus (w v : UInt64) : (plus? w v).map UInt64.toNat =
    if w.toNat + v.toNat < UInt64.size then some (w.toNat + v.toNat) else none := by
  refine map_toNat_checked ?_ (UInt64.toNat_add w v)
  have hv : v.toNat < 18446744073709551616 := v.toNat_lt
  have hle : v ≤ maxWord := by
    rw [UInt64.le_iff_toNat_le, toNat_maxWord]
    omega
  rw [UInt64.le_iff_toNat_le, UInt64.toNat_sub_of_le _ _ hle, toNat_maxWord, UInt64.size]
  omega

theorem map_toNat_append (w digit : UInt64) : (append? w digit).map UInt64.toNat =
    if 10 * w.toNat + digit.toNat < UInt64.size then some (10 * w.toNat + digit.toNat)
    else none := by
  have hten := map_toNat_timesTen w
  unfold append?
  rcases hproduct : timesTen? w with _ | product <;> rw [hproduct] at hten
  · split at hten
    · cases hten
    · next hlarge => rw [if_neg (by omega), Option.bind_none, Option.map_none]
  · split at hten
    · rw [Option.bind_some, map_toNat_plus, Option.some.inj hten]
    · cases hten

/-- Words are read as numbers are, up to the point where they would be too large. -/
theorem map_toNat_readWordOn (read : UInt64) (cs : Text) :
    (readWordOn read cs).map UInt64.toNat = readOn UInt64.size read.toNat cs := by
  induction cs generalizing read with
  | nil => rfl
  | cons c cs ih =>
    unfold readWordOn readOn
    by_cases hc : c.isDigit = true
    · rw [if_pos hc, if_pos hc]
      have hdigit : (UInt64.ofNat (c.toNat - '0'.toNat)).toNat = c.toNat - '0'.toNat := by
        have hbounds := toNat_bounds hc
        exact Nat.mod_eq_of_lt (by omega)
      have happend := map_toNat_append read (UInt64.ofNat (c.toNat - '0'.toNat))
      rw [hdigit] at happend
      dsimp only
      split at happend
      · next hfits =>
        obtain ⟨word, hword, hvalue⟩ := Option.map_eq_some_iff.mp happend
        rw [hword, if_pos hfits, ← hvalue]
        exact ih word
      · next hlarge =>
        rw [Option.map_eq_none_iff.mp happend, if_neg hlarge]
        rfl
    · rw [if_neg hc, if_neg hc]
      rfl

/-- **No word wraps.** What is read in words is what is read in numbers, however many digits
there are. -/
theorem readBelow_eq_readWord (text : Text) :
    readBelow UInt64.size text = (readWord text).map UInt64.toNat := by
  unfold readBelow
  split
  · rfl
  · rfl
  · next cs hcs =>
    rw [readWord, map_toNat_readWordOn]
    · rfl
    · exact hcs
  · next hne hsign hplus =>
    rw [readWord, map_toNat_readWordOn]
    · rfl
    · exact hne
    · exact hsign
    · exact hplus

end Decimal
end StressBench
