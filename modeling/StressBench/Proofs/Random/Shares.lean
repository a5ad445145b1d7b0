/-
# Every result has the same share of the words

The products of the words with `n` are the multiples of `n`, and those that are accepted with the
result `r` lie in a stretch of the length `n * 2 ^ k` from `r * 2 ^ bits` on, where `k` is the
number of places by which the zone is moved up. In such a stretch there are exactly `2 ^ k`
multiples, wherever it begins. So each result is given by `2 ^ k` words, which follow each other.

Key definitions: `Uniform.shift`, `Uniform.firstWord`.
Key theorems: `Uniform.accept?_eq_some_iff`, `Uniform.ncard_accepted`.
-/
import StressBench.Random.Source
import Mathlib.Data.Set.Card
import Mathlib.Order.Interval.Finset.Nat

namespace StressBench
namespace Uniform

/-- The places by which the zone is moved up. -/
def shift (bits n : Nat) : Nat :=
  bits - (n.log2 + 1)

/-- The first word that is accepted with the result `r`. -/
def firstWord (bits n r : Nat) : Nat :=
  (r * 2 ^ bits + (n - 1)) / n

variable {bits n : Nat}

theorem zone_lt_iff {m : Nat} (pos : 0 < n) : m ≤ zone bits n ↔ m < n * 2 ^ shift bits n := by
  have hzone : zone bits n = n * 2 ^ shift bits n - 1 := by
    rw [zone, Nat.shiftLeft_eq]
    rfl
  have hpos : 0 < n * 2 ^ shift bits n := Nat.mul_pos pos (Nat.two_pow_pos _)
  rw [hzone]
  omega

theorem mul_two_pow_shift_le (hn : n < 2 ^ bits) (pos : 0 < n) :
    n * 2 ^ shift bits n ≤ 2 ^ bits := by
  have hlog : n.log2 < bits := (Nat.log2_lt (Nat.ne_of_gt pos)).mpr hn
  calc n * 2 ^ shift bits n ≤ 2 ^ (n.log2 + 1) * 2 ^ shift bits n :=
        Nat.mul_le_mul_right _ (Nat.le_of_lt Nat.lt_log2_self)
    _ = 2 ^ bits := by
        rw [← Nat.pow_add, shift]
        congr 1
        omega

/-- The multiples of `n` in a stretch of `n * 2 ^ shift` are `2 ^ shift` successive ones. -/
theorem mem_stretch_iff (pos : 0 < n) {r x : Nat} :
    r * 2 ^ bits ≤ x * n ∧ x * n < r * 2 ^ bits + n * 2 ^ shift bits n ↔
      firstWord bits n r ≤ x ∧ x < firstWord bits n r + 2 ^ shift bits n := by
  unfold firstWord
  have hlow : (r * 2 ^ bits + (n - 1)) / n ≤ x ↔ r * 2 ^ bits ≤ x * n := by
    rw [← Nat.lt_add_one_iff, Nat.div_lt_iff_lt_mul pos, Nat.succ_mul]
    omega
  have hhigh : x < (r * 2 ^ bits + (n - 1)) / n + 2 ^ shift bits n ↔
      x * n < r * 2 ^ bits + n * 2 ^ shift bits n := by
    rw [← Nat.add_mul_div_left _ _ pos, ← Nat.succ_le_iff, Nat.le_div_iff_mul_le pos, Nat.succ_mul]
    omega
  rw [hlow, hhigh]

/-- The product of an accepted word lies in the stretch of its result. -/
theorem accept?_eq_some_iff_stretch (pos : 0 < n) (hn : n < 2 ^ bits) {v : BitVec bits}
    {r : Fin n} : accept? pos v = some r ↔
      r * 2 ^ bits ≤ v.toNat * n ∧ v.toNat * n < r * 2 ^ bits + n * 2 ^ shift bits n := by
  have hroom := mul_two_pow_shift_le hn pos
  have hdiv := Nat.div_add_mod (v.toNat * n) (2 ^ bits)
  unfold accept?
  simp only [BitVec.toNat_ofNat, zone_lt_iff pos]
  constructor
  · intro h
    split at h
    · next hzone =>
      obtain rfl := Option.some.inj h
      simp only [Nat.shiftRight_eq_div_pow]
      rw [Nat.mul_comm] at hdiv
      omega
    · cases h
  · rintro ⟨hlow, hhigh⟩
    have hquotient : v.toNat * n / 2 ^ bits = r :=
      Nat.div_eq_of_lt_le hlow (by rw [Nat.succ_mul]; omega)
    rw [hquotient, Nat.mul_comm] at hdiv
    rw [if_pos (by omega)]
    simp only [Nat.shiftRight_eq_div_pow, hquotient]

/-- **The words of a result follow each other.** -/
theorem accept?_eq_some_iff (pos : 0 < n) (hn : n < 2 ^ bits) {v : BitVec bits} {r : Fin n} :
    accept? pos v = some r ↔
      firstWord bits n r ≤ v.toNat ∧ v.toNat < firstWord bits n r + 2 ^ shift bits n := by
  rw [accept?_eq_some_iff_stretch pos hn, mem_stretch_iff pos]

theorem firstWord_add_le (pos : 0 < n) (hn : n < 2 ^ bits) (r : Fin n) :
    firstWord bits n r + 2 ^ shift bits n ≤ 2 ^ bits := by
  have hpos : 0 < 2 ^ shift bits n := Nat.two_pow_pos _
  have hlast := ((mem_stretch_iff pos).mpr
    ⟨(by omega : firstWord bits n r ≤ firstWord bits n r + 2 ^ shift bits n - 1), by omega⟩).2
  have hbound : (firstWord bits n r + 2 ^ shift bits n - 1) * n < 2 ^ bits * n :=
    calc (firstWord bits n r + 2 ^ shift bits n - 1) * n
        < r * 2 ^ bits + n * 2 ^ shift bits n := hlast
      _ ≤ r * 2 ^ bits + 2 ^ bits := Nat.add_le_add_left (mul_two_pow_shift_le hn pos) _
      _ = (r + 1) * 2 ^ bits := (Nat.succ_mul _ _).symm
      _ ≤ n * 2 ^ bits := Nat.mul_le_mul_right _ r.isLt
      _ = 2 ^ bits * n := Nat.mul_comm _ _
  have := Nat.lt_of_mul_lt_mul_right hbound
  omega

/-- **Each result has `2 ^ shift` words.** -/
theorem ncard_accepted (pos : 0 < n) (hn : n < 2 ^ bits) (r : Fin n) :
    {v : BitVec bits | accept? pos v = some r}.ncard = 2 ^ shift bits n := by
  have hinjective : Function.Injective (BitVec.toNat (w := bits)) := fun _ _ =>
    BitVec.eq_of_toNat_eq
  have himage : BitVec.toNat '' {v : BitVec bits | accept? pos v = some r} =
      Finset.Ico (firstWord bits n r) (firstWord bits n r + 2 ^ shift bits n) := by
    ext x
    simp only [Set.mem_image, Set.mem_ofPred_eq, accept?_eq_some_iff pos hn, Finset.coe_Ico,
      Set.mem_Ico]
    constructor
    · rintro ⟨v, hv, rfl⟩
      exact hv
    · intro hx
      have hlt : x < 2 ^ bits := Nat.lt_of_lt_of_le hx.2 (firstWord_add_le pos hn r)
      exact ⟨BitVec.ofNatLT x hlt, hx, rfl⟩
  rw [← Set.ncard_image_of_injective _ hinjective, himage, Set.ncard_coe_finset, Nat.card_Ico,
    Nat.add_sub_cancel_left]

end Uniform
end StressBench
