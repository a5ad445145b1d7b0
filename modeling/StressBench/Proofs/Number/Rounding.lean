/-
# Rounding to the nearest

A rational is rounded to a whole number that no other is nearer than, and to a number of the
floating-point format that no other is nearer than; a tie goes to the even one of the two. So
both roundings keep the order, and what is a number already stays as it is.

Key definitions: `Binary64.IsNumber`, `Binary64.IsEven`, `Binary64.IsNearest`.
Key theorems: `lt_roundHalfEven_iff`, `roundHalfEven_mono`, `zpow_floorLog_bounds`,
`Binary64.isNearest_nearest`, `Binary64.nearest_mono`, `Binary64.nearest_pos_iff`.
-/
import StressBench.Number.Binary64
import Mathlib.Data.Int.Log
import Mathlib.Data.Rat.Floor
import Mathlib.Algebra.Order.Field.Power
import Mathlib.Tactic.Linarith
import Mathlib.Tactic.Positivity
import Mathlib.Tactic.Ring
import Mathlib.Tactic.NormNum
import Mathlib.Tactic.GCongr

namespace StressBench

/-! ### Whole numbers -/

theorem floor_toNat_bounds {q : ℚ} (h : 0 ≤ q) :
    (q.floor.toNat : ℚ) ≤ q ∧ q < q.floor.toNat + 1 := by
  have hfloor : (q.floor.toNat : ℤ) = ⌊q⌋ := Int.toNat_of_nonneg (Int.floor_nonneg.mpr h)
  have hcast : (q.floor.toNat : ℚ) = (⌊q⌋ : ℤ) := by exact_mod_cast hfloor
  rw [hcast]
  exact ⟨Int.floor_le q, Int.lt_floor_add_one q⟩

/-- **Rounding goes up beyond the half**, and at the half from an odd number. -/
theorem lt_roundHalfEven_iff {q : ℚ} (h : 0 ≤ q) (n : ℕ) :
    n < roundHalfEven q ↔ n + 1 / 2 < q ∨ (q = n + 1 / 2 ∧ n % 2 = 1) := by
  obtain ⟨hle, hlt⟩ := floor_toNat_bounds h
  unfold roundHalfEven
  dsimp only
  generalize q.floor.toNat = k at hle hlt ⊢
  rcases Nat.lt_trichotomy n k with hn | rfl | hn
  · have hcast : (n : ℚ) + 1 ≤ k := by exact_mod_cast hn
    refine iff_of_true ?_ (.inl (by linarith))
    split_ifs <;> omega
  · split_ifs with hbelow habove heven
    · refine iff_of_false (Nat.lt_irrefl n) ?_
      rintro (hq | ⟨hq, -⟩) <;> linarith
    · exact iff_of_true n.lt_succ_self (.inl (by linarith))
    · refine iff_of_false (Nat.lt_irrefl n) ?_
      rintro (hq | ⟨-, hodd⟩)
      · linarith
      · omega
    · exact iff_of_true n.lt_succ_self (.inr ⟨by linarith, by omega⟩)
  · have hcast : (k : ℚ) + 1 ≤ n := by exact_mod_cast hn
    refine iff_of_false ?_ ?_
    · split_ifs <;> omega
    · rintro (hq | ⟨hq, -⟩) <;> linarith

theorem roundHalfEven_mono {p q : ℚ} (hp : 0 ≤ p) (h : p ≤ q) :
    roundHalfEven p ≤ roundHalfEven q := by
  refine le_of_forall_lt fun n hn => ?_
  rw [lt_roundHalfEven_iff (hp.trans h)]
  rcases (lt_roundHalfEven_iff hp n).mp hn with hlt | ⟨rfl, hodd⟩
  · exact .inl (hlt.trans_le h)
  · exact (lt_or_eq_of_le h).imp_right fun heq => ⟨heq.symm, hodd⟩

theorem roundHalfEven_natCast (n : ℕ) : roundHalfEven (n : ℚ) = n := by
  refine Nat.le_antisymm (Nat.le_of_not_lt fun h => ?_) (le_of_forall_lt fun k hk => ?_)
  · rcases (lt_roundHalfEven_iff n.cast_nonneg n).mp h with h | ⟨h, -⟩ <;> linarith
  · have hcast : (k : ℚ) + 1 ≤ n := by exact_mod_cast hk
    exact (lt_roundHalfEven_iff n.cast_nonneg k).mpr (.inl (by linarith))

theorem le_roundHalfEven_add_half {q : ℚ} (h : 0 ≤ q) :
    q ≤ roundHalfEven q + 1 / 2 ∧ (q = roundHalfEven q + 1 / 2 → roundHalfEven q % 2 = 0) := by
  have hup := (lt_roundHalfEven_iff h (roundHalfEven q)).not.mp (Nat.lt_irrefl _)
  constructor
  · by_contra hlt
    exact hup (.inl (not_le.mp hlt))
  · intro hq
    by_contra hodd
    exact hup (.inr ⟨hq, by omega⟩)

theorem roundHalfEven_sub_half_le {q : ℚ} (h : 0 ≤ q) :
    roundHalfEven q - 1 / 2 ≤ q ∧ (q = roundHalfEven q - 1 / 2 → roundHalfEven q % 2 = 0) := by
  rcases hk : roundHalfEven q with _ | k
  · refine ⟨?_, fun _ => rfl⟩
    rw [Nat.cast_zero]
    linarith
  · rw [Nat.cast_succ]
    rcases (lt_roundHalfEven_iff h k).mp (hk ▸ k.lt_succ_self) with hlt | ⟨hq, hodd⟩
    · exact ⟨by linarith, fun hq => by linarith⟩
    · exact ⟨by linarith, fun _ => by omega⟩

theorem abs_sub_roundHalfEven_le {q : ℚ} (h : 0 ≤ q) : |q - roundHalfEven q| ≤ 1 / 2 := by
  have hlow := (roundHalfEven_sub_half_le h).1
  have hhigh := (le_roundHalfEven_add_half h).1
  exact abs_le.mpr ⟨by linarith, by linarith⟩

/-- A rational is not near to two whole numbers at once. -/
theorem one_le_add_of_ne {m n : ℕ} (h : m ≠ n) (q : ℚ) : 1 ≤ |q - m| + |q - n| := by
  have hint : (1 : ℤ) ≤ |(m : ℤ) - n| := Int.one_le_abs (sub_ne_zero.mpr (by exact_mod_cast h))
  calc (1 : ℚ) ≤ |(m : ℚ) - n| := by exact_mod_cast hint
    _ ≤ |(m : ℚ) - q| + |q - n| := abs_sub_le _ _ _
    _ = |q - m| + |q - n| := by rw [abs_sub_comm (m : ℚ) q]

/-- **No whole number is nearer** than the rounded one. -/
theorem abs_sub_roundHalfEven_le_abs_sub {q : ℚ} (h : 0 ≤ q) (n : ℕ) :
    |q - roundHalfEven q| ≤ |q - n| := by
  rcases eq_or_ne (roundHalfEven q) n with rfl | hne
  · exact le_rfl
  · have hhalf := abs_sub_roundHalfEven_le h
    have hone := one_le_add_of_ne hne q
    linarith

/-- Of two whole numbers that are equally near the even one is taken. -/
theorem roundHalfEven_even {q : ℚ} (h : 0 ≤ q) {n : ℕ} (hne : n ≠ roundHalfEven q)
    (htie : |q - n| = |q - roundHalfEven q|) : roundHalfEven q % 2 = 0 := by
  have hhalf : |q - roundHalfEven q| = 1 / 2 := by
    have hle := abs_sub_roundHalfEven_le h
    have hone := one_le_add_of_ne hne q
    linarith
  rcases (abs_eq (by norm_num)).mp hhalf with hq | hq
  · exact (le_roundHalfEven_add_half h).2 (by linarith)
  · exact (roundHalfEven_sub_half_le h).2 (by linarith)

/-! ### Powers -/

theorem floorLogNat_eq_log {base : ℕ} (hbase : 1 < base) (n : ℕ) :
    floorLogNat base n = Nat.log base n := by
  fun_induction floorLogNat base n with
  | case1 n h ih => rw [ih, Nat.log_of_one_lt_of_le hbase h.1]
  | case2 n h => exact (Nat.log_of_lt (by omega)).symm

section Log

variable {base : ℕ} {q : ℚ}

theorem zpow_log_sub_log_bounds (hbase : 1 < base) (hq : 0 < q) :
    (base : ℚ) ^ ((Nat.log base q.num.toNat : ℤ) - Nat.log base q.den - 1) < q ∧
      q < (base : ℚ) ^ ((Nat.log base q.num.toNat : ℤ) - Nat.log base q.den + 1) := by
  have hb : (0 : ℚ) < base := by exact_mod_cast Nat.zero_lt_of_lt hbase
  have hden : (0 : ℚ) < q.den := by exact_mod_cast q.den_pos
  have hnum : 0 < q.num := Rat.num_pos.mpr hq
  have hparts : q = (q.num.toNat : ℚ) / q.den := by
    have hcast : (q.num.toNat : ℚ) = (q.num : ℤ) := by exact_mod_cast Int.toNat_of_nonneg hnum.le
    rw [hcast, Rat.num_div_den]
  have hpos : q.num.toNat ≠ 0 := by omega
  generalize q.num.toNat = a at hparts hpos
  generalize q.den = b at hparts hden
  have ha₁ : (base : ℚ) ^ (Nat.log base a : ℤ) ≤ a := by
    exact_mod_cast Nat.pow_log_le_self base hpos
  have ha₂ : (a : ℚ) < (base : ℚ) ^ ((Nat.log base a : ℤ) + 1) := by
    exact_mod_cast Nat.lt_pow_succ_log_self hbase a
  have hb₁ : (base : ℚ) ^ (Nat.log base b : ℤ) ≤ b := by
    exact_mod_cast Nat.pow_log_le_self base (by exact_mod_cast hden.ne')
  have hb₂ : (b : ℚ) < (base : ℚ) ^ ((Nat.log base b : ℤ) + 1) := by
    exact_mod_cast Nat.lt_pow_succ_log_self hbase b
  rw [hparts, lt_div_iff₀ hden, div_lt_iff₀ hden]
  constructor
  · calc (base : ℚ) ^ ((Nat.log base a : ℤ) - Nat.log base b - 1) * b
        < (base : ℚ) ^ ((Nat.log base a : ℤ) - Nat.log base b - 1) *
            (base : ℚ) ^ ((Nat.log base b : ℤ) + 1) := by gcongr
      _ = (base : ℚ) ^ (Nat.log base a : ℤ) := by
          rw [← zpow_add₀ hb.ne']
          congr 1
          ring
      _ ≤ a := ha₁
  · calc (a : ℚ) < (base : ℚ) ^ ((Nat.log base a : ℤ) + 1) := ha₂
      _ = (base : ℚ) ^ ((Nat.log base a : ℤ) - Nat.log base b + 1) *
            (base : ℚ) ^ (Nat.log base b : ℤ) := by
          rw [← zpow_add₀ hb.ne']
          congr 1
          ring
      _ ≤ (base : ℚ) ^ ((Nat.log base a : ℤ) - Nat.log base b + 1) * b := by gcongr

/-- **A positive rational lies between two powers** with neighbouring exponents. -/
theorem zpow_floorLog_bounds (hbase : 1 < base) (hq : 0 < q) :
    (base : ℚ) ^ floorLog base q ≤ q ∧ q < (base : ℚ) ^ (floorLog base q + 1) := by
  obtain ⟨hlow, hhigh⟩ := zpow_log_sub_log_bounds hbase hq
  unfold floorLog
  simp only [floorLogNat_eq_log hbase]
  split_ifs with hguess
  · exact ⟨hguess, hhigh⟩
  · rw [sub_add_cancel]
    exact ⟨hlow.le, not_le.mp hguess⟩

end Log

/-! ### Numbers of the format -/

namespace Binary64

/-- The numbers of the format that are not negative, had the format no largest number. -/
def IsNumber (x : ℚ) : Prop :=
  ∃ (m : ℕ) (e : ℤ), m < 2 ^ 53 ∧ -1074 ≤ e ∧ x = m * 2 ^ e

/-- The numbers whose significand is even when it has all the bits that it can have. -/
def IsEven (x : ℚ) : Prop :=
  ∃ (m : ℕ) (e : ℤ), m < 2 ^ 53 ∧ -1074 ≤ e ∧ x = m * 2 ^ e ∧ (2 ^ 52 ≤ m ∨ e = -1074) ∧
    m % 2 = 0

variable {p q x : ℚ}

theorem IsNumber.nonneg (h : IsNumber x) : 0 ≤ x := by
  obtain ⟨m, e, -, -, rfl⟩ := h
  positivity

/-- A significand that has become too long is one of the next exponent. -/
theorem two_pow_mul_zpow (e : ℤ) : (2 : ℚ) ^ 53 * 2 ^ e = 2 ^ 52 * 2 ^ (e + 1) := by
  rw [zpow_add_one₀ (by norm_num)]
  ring

theorem isNumber_of_le {m : ℕ} {e : ℤ} (hm : m ≤ 2 ^ 53) (he : -1074 ≤ e) :
    IsNumber (m * 2 ^ e) := by
  rcases Nat.lt_or_eq_of_le hm with hlt | rfl
  · exact ⟨m, e, hlt, he, rfl⟩
  · exact ⟨2 ^ 52, e + 1, by norm_num, by omega, by exact_mod_cast two_pow_mul_zpow e⟩

/-- A number of the format is a multiple of a unit, or the unit is not the least one and the
number is below those with all bits of the significand at this unit. -/
theorem IsNumber.eq_mul_or_lt (h : IsNumber x) (e : ℤ) :
    (∃ k : ℕ, x = k * 2 ^ e) ∨ (e ≠ -1074 ∧ x < 2 ^ 52 * 2 ^ e) := by
  obtain ⟨m, j, hm, hj, rfl⟩ := h
  rcases le_or_gt e j with hle | hlt
  · refine .inl ⟨m * 2 ^ (j - e).toNat, ?_⟩
    have hj : (2 : ℚ) ^ j = 2 ^ (j - e).toNat * 2 ^ e := by
      rw [← zpow_natCast, Int.toNat_of_nonneg (by omega), ← zpow_add₀ (by norm_num),
        sub_add_cancel]
    rw [hj]
    push_cast
    ring
  · refine .inr ⟨by omega, ?_⟩
    have hm' : (m : ℚ) < 2 ^ 53 := by exact_mod_cast hm
    calc (m : ℚ) * 2 ^ j < 2 ^ 53 * 2 ^ j := by gcongr
      _ = 2 ^ 52 * 2 ^ (j + 1) := two_pow_mul_zpow j
      _ ≤ 2 ^ 52 * 2 ^ e := by
        gcongr
        · norm_num
        · omega

theorem IsNumber.le_pred (h : IsNumber x) {e : ℤ} (hlt : x < 2 ^ 53 * 2 ^ e) :
    x ≤ (2 ^ 53 - 1) * 2 ^ e := by
  have hunit : (0 : ℚ) < 2 ^ e := by positivity
  rcases h.eq_mul_or_lt e with ⟨k, rfl⟩ | ⟨-, hbelow⟩
  · have hk : k < 2 ^ 53 := by exact_mod_cast lt_of_mul_lt_mul_right hlt hunit.le
    have hpred : (k : ℚ) + 1 ≤ 2 ^ 53 := by exact_mod_cast hk
    have hpred' : (k : ℚ) ≤ 2 ^ 53 - 1 := by linarith
    gcongr
  · refine hbelow.le.trans ?_
    gcongr
    norm_num

/-! ### The nearest number -/

theorem exponent_ge (q : ℚ) : -1074 ≤ exponent q := le_max_left _ _

theorem scaled_mul_zpow_exponent (q : ℚ) : scaled q * 2 ^ exponent q = q :=
  div_mul_cancel₀ q (zpow_ne_zero _ (by norm_num))

theorem scaled_pos (hq : 0 < q) : 0 < scaled q := div_pos hq (by positivity)

theorem scaled_lt (hq : 0 < q) : scaled q < 2 ^ 53 := by
  have hlog := (zpow_floorLog_bounds Nat.one_lt_two hq).2
  have hexp : floorLog 2 q + 1 ≤ 53 + exponent q := by
    unfold exponent
    omega
  unfold scaled
  rw [div_lt_iff₀ (by positivity)]
  calc q < (2 : ℚ) ^ (floorLog 2 q + 1) := by exact_mod_cast hlog
    _ ≤ 2 ^ (53 + exponent q) := zpow_le_zpow_right₀ (by norm_num) hexp
    _ = 2 ^ 53 * 2 ^ exponent q := by
      rw [zpow_add₀ (by norm_num)]
      norm_cast

/-- All bits of the significand are used unless the exponent is the least. -/
theorem mul_zpow_exponent_le (hq : 0 < q) (he : exponent q ≠ -1074) :
    2 ^ 52 * 2 ^ exponent q ≤ q := by
  have hlog := (zpow_floorLog_bounds Nat.one_lt_two hq).1
  have hexp : 52 + exponent q = floorLog 2 q := by
    unfold exponent at he ⊢
    omega
  calc (2 : ℚ) ^ 52 * 2 ^ exponent q = 2 ^ (52 + exponent q) := by
        rw [zpow_add₀ (by norm_num)]
        norm_cast
    _ ≤ q := by
      rw [hexp]
      exact_mod_cast hlog

/-- A number of the format is a multiple of the unit of a rational, or there is one between the
two with all bits of the significand at this unit. -/
theorem IsNumber.eq_mul_or_between (hx : IsNumber x) (hq : 0 < q) :
    (∃ n : ℕ, x = n * 2 ^ exponent q) ∨
      (x < 2 ^ 52 * 2 ^ exponent q ∧ 2 ^ 52 * 2 ^ exponent q ≤ q) :=
  (hx.eq_mul_or_lt (exponent q)).imp_right fun h => ⟨h.2, mul_zpow_exponent_le hq h.1⟩

theorem nearest_of_pos (hq : 0 < q) :
    nearest q = (roundHalfEven (scaled q) : ℚ) * 2 ^ exponent q :=
  if_neg (not_le.mpr hq)

theorem nearest_of_nonpos (hq : q ≤ 0) : nearest q = 0 := if_pos hq

theorem roundHalfEven_scaled_le (hq : 0 < q) : roundHalfEven (scaled q) ≤ 2 ^ 53 := by
  have h := roundHalfEven_mono (scaled_pos hq).le
    (show scaled q ≤ ((2 ^ 53 : ℕ) : ℚ) from by exact_mod_cast (scaled_lt hq).le)
  rwa [roundHalfEven_natCast] at h

/-- **A rational is rounded to a number of the format.** -/
theorem isNumber_nearest (q : ℚ) : IsNumber (nearest q) := by
  rcases le_or_gt q 0 with hq | hq
  · exact ⟨0, 0, by norm_num, by norm_num, by rw [nearest_of_nonpos hq, Nat.cast_zero, zero_mul]⟩
  · rw [nearest_of_pos hq]
    exact isNumber_of_le (roundHalfEven_scaled_le hq) (exponent_ge q)

theorem abs_sub_mul_zpow_exponent (q : ℚ) (n : ℕ) :
    |q - n * 2 ^ exponent q| = |scaled q - n| * 2 ^ exponent q := by
  have hunit : (0 : ℚ) ≤ 2 ^ exponent q := by positivity
  rw [← abs_of_nonneg hunit, ← abs_mul, abs_of_nonneg hunit, sub_mul, scaled_mul_zpow_exponent]

theorem abs_sub_lt_abs_sub_of_between {a b : ℚ} (hab : a < b) (hb : b ≤ q) :
    |q - b| < |q - a| := by
  rw [abs_of_nonneg (sub_nonneg.mpr hb), abs_of_nonneg (sub_nonneg.mpr (hab.le.trans hb))]
  linarith

/-- **No number of the format is nearer** than the one that a rational is rounded to. -/
theorem abs_sub_nearest_le (hq : 0 ≤ q) (hx : IsNumber x) : |q - nearest q| ≤ |q - x| := by
  rcases hq.eq_or_lt with rfl | hq
  · rw [nearest_of_nonpos le_rfl, sub_zero, abs_zero]
    exact abs_nonneg _
  · have hmultiple : ∀ n : ℕ, |q - nearest q| ≤ |q - n * 2 ^ exponent q| := fun n => by
      rw [nearest_of_pos hq, abs_sub_mul_zpow_exponent, abs_sub_mul_zpow_exponent]
      have hround := abs_sub_roundHalfEven_le_abs_sub (scaled_pos hq).le n
      gcongr
    rcases hx.eq_mul_or_between hq with ⟨n, rfl⟩ | ⟨hlt, hle⟩
    · exact hmultiple n
    · calc |q - nearest q| ≤ |q - 2 ^ 52 * 2 ^ exponent q| := by
            exact_mod_cast hmultiple (2 ^ 52)
        _ ≤ |q - x| := (abs_sub_lt_abs_sub_of_between hlt hle).le

theorem nearest_of_isNumber (hx : IsNumber x) : nearest x = x := by
  have h := abs_sub_nearest_le hx.nonneg hx
  rw [sub_self, abs_zero, abs_nonpos_iff, sub_eq_zero] at h
  exact h.symm

theorem middle_le_of_lt_nearest (hq : 0 ≤ q) (hx : IsNumber x) (h : x < nearest q) :
    (x + nearest q) / 2 ≤ q := by
  have hsq := sq_le_sq.mpr (abs_sub_nearest_le hq hx)
  nlinarith

theorem le_middle_of_nearest_lt (hq : 0 ≤ q) (hx : IsNumber x) (h : nearest q < x) :
    q ≤ (nearest q + x) / 2 := by
  have hsq := sq_le_sq.mpr (abs_sub_nearest_le hq hx)
  nlinarith

/-- **Rounding keeps the order.** -/
theorem nearest_mono (h : p ≤ q) : nearest p ≤ nearest q := by
  rcases le_or_gt p 0 with hp | hp
  · rw [nearest_of_nonpos hp]
    exact (isNumber_nearest q).nonneg
  · by_contra hlt
    -- both were then in the middle between the two numbers, so they were the same
    have hmiddle := middle_le_of_lt_nearest hp.le (isNumber_nearest q) (not_le.mp hlt)
    have hmiddle' := le_middle_of_nearest_lt (hp.le.trans h) (isNumber_nearest p) (not_le.mp hlt)
    exact hlt (le_antisymm h (hmiddle'.trans hmiddle) ▸ le_rfl)

/-- What a rational is rounded to: a number of the format that no other is nearer than, and
of two that are equally near the one with the even significand. -/
structure IsNearest (q x : ℚ) : Prop where
  isNumber : IsNumber x
  le_abs_sub : ∀ y, IsNumber y → |q - x| ≤ |q - y|
  isEven : ∀ y, IsNumber y → y ≠ x → |q - y| = |q - x| → IsEven x

theorem isEven_nearest (hq : 0 < q) (heven : roundHalfEven (scaled q) % 2 = 0) :
    IsEven (nearest q) := by
  rw [nearest_of_pos hq]
  rcases Nat.lt_or_eq_of_le (roundHalfEven_scaled_le hq) with hlt | heq
  · refine ⟨_, _, hlt, exponent_ge q, rfl, ?_, heven⟩
    by_cases he : exponent q = -1074
    · exact .inr he
    · left
      have hfull : ((2 ^ 52 : ℕ) : ℚ) ≤ scaled q := by
        unfold scaled
        rw [le_div_iff₀ (by positivity)]
        exact_mod_cast mul_zpow_exponent_le hq he
      rw [← roundHalfEven_natCast (2 ^ 52)]
      exact roundHalfEven_mono (Nat.cast_nonneg _) hfull
  · refine ⟨2 ^ 52, exponent q + 1, by norm_num, ?_, ?_, .inl le_rfl, by norm_num⟩
    · have := exponent_ge q
      omega
    · rw [heq]
      exact_mod_cast two_pow_mul_zpow (exponent q)

/-- **A rational is rounded to the nearest number, in a tie to the even one.** -/
theorem isNearest_nearest (hq : 0 ≤ q) : IsNearest q (nearest q) := by
  refine ⟨isNumber_nearest q, fun y hy => abs_sub_nearest_le hq hy, fun y hy hne htie => ?_⟩
  rcases hq.eq_or_lt with rfl | hq
  · rw [nearest_of_nonpos le_rfl] at hne htie
    rw [sub_self, abs_zero, zero_sub, abs_neg, abs_eq_zero] at htie
    exact absurd htie hne
  · obtain ⟨n, rfl⟩ : ∃ n : ℕ, y = n * 2 ^ exponent q := by
      refine (hy.eq_mul_or_between hq).resolve_right fun ⟨hlt, hle⟩ => ?_
      have hfull : IsNumber (2 ^ 52 * 2 ^ exponent q) := by
        exact_mod_cast isNumber_of_le (m := 2 ^ 52) (by norm_num) (exponent_ge q)
      have hnear := abs_sub_nearest_le hq.le hfull
      have hfar := abs_sub_lt_abs_sub_of_between hlt hle
      rw [htie] at hfar
      exact absurd hnear (not_le.mpr hfar)
    have hunit : (0 : ℚ) < 2 ^ exponent q := by positivity
    have hround : n ≠ roundHalfEven (scaled q) := by
      rintro rfl
      exact hne (nearest_of_pos hq).symm
    rw [nearest_of_pos hq, abs_sub_mul_zpow_exponent, abs_sub_mul_zpow_exponent] at htie
    exact isEven_nearest hq
      (roundHalfEven_even (scaled_pos hq).le hround (mul_right_cancel₀ hunit.ne' htie))

/-! ### The least numbers -/

theorem isNumber_zpow {e : ℤ} (he : -1074 ≤ e) : IsNumber (2 ^ e) := by
  have h := isNumber_of_le (m := 1) (by norm_num) he
  rwa [Nat.cast_one, one_mul] at h

/-- **Half of the least positive number is rounded to zero**, and so is what is below it. -/
theorem nearest_pos_iff : 0 < nearest q ↔ 1 / 2 ^ 1075 < q := by
  constructor
  · intro h
    by_contra hle
    have hzero : nearest (1 / 2 ^ 1075) = 0 := by decide +kernel
    have hmono := nearest_mono (not_lt.mp hle)
    rw [hzero] at hmono
    exact absurd h (not_lt.mpr hmono)
  · intro h
    have hq : 0 < q := lt_trans (by positivity) h
    refine lt_of_le_of_ne (isNumber_nearest q).nonneg fun hzero => ?_
    have hleast : IsNumber (2 ^ (-1074 : ℤ)) := isNumber_zpow le_rfl
    have hmiddle := le_middle_of_nearest_lt hq.le hleast (hzero ▸ by positivity)
    have hhalf : ((0 : ℚ) + 2 ^ (-1074 : ℤ)) / 2 = 1 / 2 ^ 1075 := by decide +kernel
    rw [← hzero, hhalf] at hmiddle
    exact absurd h (not_lt.mpr hmiddle)

end Binary64
end StressBench
