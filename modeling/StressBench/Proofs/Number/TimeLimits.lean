/-
# Which numbers of seconds are time limits

The digits of a number tell whether its size is out of the format's range, so that no great
power of ten is computed; the outcome is what rounding the exact size would give. A number of
seconds is a time limit if it is above half of the least positive number of the format and
below the middle between 2^64 and the number before it, and its span is that of the nearest
number of the format. So the time limits are an interval, and a greater number never gives a
shorter span, however the two are written. A number of half a nanosecond or less is accepted
too, and gives no time at all.

Key definitions: `Timeout.lowest`, `Timeout.highest`, `Timeout.spanOf`, `Timeout.Gives`.
Key theorems: `Numeral.toBinary64_finite`, `Timeout.parse_eq_iff`, `Timeout.parse_eq_ok_iff`,
`Timeout.total_spanOf_pos_iff`, `Timeout.timeLimits_in_order`,
`Timeout.positive_beyond_half_nanosecond`.
-/
import StressBench.Proofs.Number.Rounding
import StressBench.Proofs.Number.Written

namespace StressBench

/-! ### Sizes out of range -/

namespace Numeral

variable {n : ℕ} {k : ℤ}

theorem size_lt (n : ℕ) (k : ℤ) : size n k < 10 ^ ((Decimal.digits n).length + k : ℤ) := by
  have hlen : n < 10 ^ (Decimal.digits n).length :=
    (Nat.length_toDigits_le_iff (by decide) Nat.length_toDigits_pos).mp le_rfl
  have hcast : (n : ℚ) < 10 ^ (Decimal.digits n).length := by exact_mod_cast hlen
  unfold size
  rw [zpow_add₀ (by norm_num), zpow_natCast]
  gcongr

theorem le_size (hn : n ≠ 0) (k : ℤ) : 10 ^ ((Decimal.digits n).length + k - 1 : ℤ) ≤ size n k := by
  obtain ⟨l, hl⟩ : ∃ l, (Decimal.digits n).length = l + 1 :=
    Nat.exists_eq_succ_of_ne_zero Nat.length_toDigits_pos.ne'
  have hlen : 10 ^ l ≤ n := by
    rcases Nat.eq_zero_or_pos l with rfl | hpos
    · exact Nat.pos_of_ne_zero hn
    · by_contra hlt
      have hle := (Nat.length_toDigits_le_iff (b := 10) (by decide) hpos).mpr (not_le.mp hlt)
      unfold Decimal.digits at hl
      omega
  have hcast : (10 : ℚ) ^ l ≤ n := by exact_mod_cast hlen
  have hexp : ((Decimal.digits n).length + k - 1 : ℤ) = l + k := by
    rw [hl]
    push_cast
    ring
  unfold size
  rw [hexp, zpow_add₀ (by norm_num), zpow_natCast]
  gcongr

/-- A number that its digits tell to be too small is rounded to zero. -/
theorem nearest_size_of_low (h : n = 0 ∨ ((Decimal.digits n).length + k : ℤ) < -330) :
    Binary64.nearest (size n k) = 0 := by
  refine le_antisymm (not_lt.mp fun hpos => ?_) (Binary64.isNumber_nearest _).nonneg
  have hsize := Binary64.nearest_pos_iff.mp hpos
  rcases h with rfl | h
  · unfold size at hsize
    rw [Nat.cast_zero, zero_mul] at hsize
    exact lt_irrefl (0 : ℚ) (lt_trans (by positivity) hsize)
  · have hlt : size n k < 10 ^ (-330 : ℤ) :=
      (size_lt n k).trans (zpow_lt_zpow_right₀ (by norm_num) h)
    have hleast : (10 : ℚ) ^ (-330 : ℤ) < 1 / 2 ^ 1075 := by decide +kernel
    exact absurd hsize (not_lt.mpr (hlt.trans hleast).le)

/-- A number that its digits tell to be too great is rounded to one beyond the bound. -/
theorem bound_le_nearest_size (hn : n ≠ 0) (h : 310 < ((Decimal.digits n).length + k : ℤ)) :
    Binary64.bound ≤ Binary64.nearest (size n k) := by
  have hbound : Binary64.IsNumber Binary64.bound := by
    have h := Binary64.isNumber_zpow (e := 1024) (by norm_num)
    rwa [show (2 : ℚ) ^ (1024 : ℤ) = Binary64.bound from zpow_natCast 2 1024] at h
  have hsize : Binary64.bound ≤ size n k := by
    calc Binary64.bound ≤ 10 ^ (310 : ℤ) := by decide +kernel
      _ ≤ 10 ^ ((Decimal.digits n).length + k - 1 : ℤ) :=
        zpow_le_zpow_right₀ (by norm_num) (by omega)
      _ ≤ size n k := le_size hn k
  have hmono := Binary64.nearest_mono hsize
  rwa [Binary64.nearest_of_isNumber hbound] at hmono

theorem bound_pos : 0 < Binary64.bound := by decide +kernel

/-- **Sizes out of range are rounded like all others**, though no power of ten is computed. -/
theorem toBinary64_finite (negative : Bool) (n : ℕ) (k : ℤ) :
    (finite negative n k).toBinary64 =
      if Binary64.bound ≤ Binary64.nearest (size n k) then .infinite negative
      else .finite (withSign negative (Binary64.nearest (size n k))) := by
  unfold toBinary64
  dsimp only
  by_cases hlow : n = 0 ∨ ((Decimal.digits n).length + k : ℤ) < -330
  · have hzero : withSign negative (0 : ℚ) = 0 := by
      cases negative
      · rfl
      · exact neg_zero
    rw [if_pos hlow, nearest_size_of_low hlow, if_neg (not_le.mpr bound_pos), hzero]
  · rw [if_neg hlow]
    by_cases hhigh : 310 < ((Decimal.digits n).length + k : ℤ)
    · rw [if_pos hhigh, if_pos (bound_le_nearest_size (not_or.mp hlow).1 hhigh)]
    · rw [if_neg hhigh]
      rfl

theorem size_nonneg (n : ℕ) (k : ℤ) : 0 ≤ size n k := by
  unfold size
  positivity

end Numeral

/-! ### The limits -/

namespace Timeout

open Binary64 (nearest IsNumber IsNearest)
open Numeral (Denotes NamesInfinity NamesNoNumber)

variable {text s t u : Text} {p q r : ℚ} {d e : Duration}

/-- Half of the least positive number of the format. What is not above it is rounded to zero. -/
def lowest : ℚ := 1 / 2 ^ 1075

/-- The middle between 2^64 and the number of the format before it. What is not below it is
rounded to 2^64 or more. -/
def highest : ℚ := 2 ^ 64 - 2 ^ 10

theorem lowest_lt_highest : lowest < highest := by decide +kernel

theorem nearest_highest : nearest highest = 2 ^ 64 := by decide +kernel

/-- Below the middle the nearest number is the one before 2^64 or less. -/
theorem nearest_le_of_lt (h : q < highest) : nearest q ≤ 2 ^ 64 - 2 ^ 11 := by
  rcases le_or_gt q 0 with hq | hq
  · rw [Binary64.nearest_of_nonpos hq]
    decide +kernel
  · have hbefore : IsNumber (2 ^ 64 - 2 ^ 11) :=
      ⟨2 ^ 53 - 1, 11, by norm_num, by norm_num, by decide +kernel⟩
    have hle : nearest q ≤ 2 ^ 64 := nearest_highest ▸ Binary64.nearest_mono h.le
    have hne : nearest q ≠ 2 ^ 64 := fun heq => by
      have hlt : (2 : ℚ) ^ 64 - 2 ^ 11 < nearest q := heq ▸ by norm_num
      have hmiddle := Binary64.middle_le_of_lt_nearest hq.le hbefore hlt
      have hhighest : ((2 : ℚ) ^ 64 - 2 ^ 11 + 2 ^ 64) / 2 = highest := by decide +kernel
      rw [heq, hhighest] at hmiddle
      exact absurd h (not_lt.mpr hmiddle)
    have hlt : nearest q < 2 ^ 53 * 2 ^ (11 : ℤ) := by
      rw [show (2 : ℚ) ^ 53 * 2 ^ (11 : ℤ) = 2 ^ 64 by decide +kernel]
      exact lt_of_le_of_ne hle hne
    have hpred := (Binary64.isNumber_nearest q).le_pred hlt
    rwa [show ((2 : ℚ) ^ 53 - 1) * 2 ^ (11 : ℤ) = 2 ^ 64 - 2 ^ 11 by decide +kernel] at hpred

theorem le_nearest_of_le (h : highest ≤ q) : 2 ^ 64 ≤ nearest q :=
  nearest_highest ▸ Binary64.nearest_mono h

/-- The span of the nearest number of seconds of the format. -/
def spanOf (q : ℚ) : Duration :=
  ⟨roundHalfEven (nearest q * Duration.perSecond)⟩

theorem roundHalfEven_mul_perSecond (n : ℕ) :
    roundHalfEven ((n : ℚ) * Duration.perSecond) = n * Duration.perSecond := by
  rw [← Nat.cast_mul, roundHalfEven_natCast]

theorem total_spanOf_mono (h : p ≤ q) : (spanOf p).total ≤ (spanOf q).total := by
  have hp : 0 ≤ nearest p := (Binary64.isNumber_nearest p).nonneg
  have hmono := Binary64.nearest_mono h
  refine roundHalfEven_mono (by positivity) ?_
  gcongr

theorem total_spanOf_lt (h : q < highest) :
    (spanOf q).total < UInt64.size * Duration.perSecond := by
  have hx : 0 ≤ nearest q := (Binary64.isNumber_nearest q).nonneg
  have hle : nearest q ≤ ((2 ^ 64 - 2 ^ 11 : ℕ) : ℚ) := by
    exact_mod_cast nearest_le_of_lt h
  calc (spanOf q).total ≤ roundHalfEven (((2 ^ 64 - 2 ^ 11 : ℕ) : ℚ) * Duration.perSecond) := by
        refine roundHalfEven_mono (by positivity) ?_
        gcongr
    _ = (2 ^ 64 - 2 ^ 11) * Duration.perSecond := roundHalfEven_mul_perSecond _
    _ < UInt64.size * Duration.perSecond := by decide

theorem ofSeconds?_nearest (q : ℚ) :
    Duration.ofSeconds? (nearest q) = if q < highest then some (spanOf q) else none := by
  unfold Duration.ofSeconds?
  by_cases hq : q < highest
  · rw [if_pos hq]
    exact if_pos (total_spanOf_lt hq)
  · rw [if_neg hq]
    have hle : ((UInt64.size : ℕ) : ℚ) ≤ nearest q := by
      exact_mod_cast le_nearest_of_le (not_lt.mp hq)
    refine if_neg (not_lt.mpr ?_)
    rw [← roundHalfEven_mul_perSecond]
    refine roundHalfEven_mono (by positivity) ?_
    gcongr

/-- The limits tell for a number that is not negative what comes of it rounded. -/
theorem ofBinary64_nearest (q : ℚ) :
    ofBinary64 (.finite (nearest q)) =
      if q ≤ lowest then .error .notPositive
      else if highest ≤ q then .error .tooBig
      else .ok (spanOf q) := by
  unfold ofBinary64
  dsimp only
  by_cases hlow : q ≤ lowest
  · have hzero : nearest q ≤ 0 := not_lt.mp (Binary64.nearest_pos_iff.not.mpr (not_lt.mpr hlow))
    rw [if_pos hzero, if_pos hlow]
  · have hpos : ¬ nearest q ≤ 0 := not_le.mpr (Binary64.nearest_pos_iff.mpr (not_le.mp hlow))
    rw [if_neg hpos, if_neg hlow, ofSeconds?_nearest]
    by_cases hhigh : highest ≤ q
    · rw [if_pos hhigh, if_neg (not_lt.mpr hhigh)]
    · rw [if_neg hhigh, if_pos (not_le.mp hhigh)]

theorem highest_le_of_bound_le (h : Binary64.bound ≤ nearest q) : highest ≤ q := by
  by_contra hlt
  have hle := nearest_le_of_lt (not_le.mp hlt)
  have hbound : (2 : ℚ) ^ 64 - 2 ^ 11 < Binary64.bound := by decide +kernel
  linarith

/-- **What a decimal number of seconds gives.** -/
theorem parse_of_denotes (h : Denotes text q) :
    parse text =
      if q ≤ lowest then .error .notPositive
      else if highest ≤ q then .error .tooBig
      else .ok (spanOf q) := by
  obtain ⟨negative, n, k, hread, rfl⟩ := Numeral.denotes_iff.mp h
  have hsize : 0 ≤ Numeral.size n k := Numeral.size_nonneg n k
  have hlowest : 0 < lowest := by decide +kernel
  unfold parse
  rw [hread]
  dsimp only
  rw [Numeral.toBinary64_finite]
  generalize Numeral.size n k = size at hsize
  cases negative with
  | true =>
    have hnearest : -nearest size ≤ 0 := neg_nonpos.mpr (Binary64.isNumber_nearest size).nonneg
    have hlow : Numeral.withSign true size ≤ lowest := (neg_nonpos.mpr hsize).trans hlowest.le
    rw [if_pos hlow]
    by_cases hbound : Binary64.bound ≤ nearest size
    · rw [if_pos hbound]
      rfl
    · rw [if_neg hbound]
      exact if_pos hnearest
  | false =>
    change ofBinary64 (if Binary64.bound ≤ nearest size then .infinite false
      else .finite (nearest size)) = if size ≤ lowest then _ else _
    by_cases hbound : Binary64.bound ≤ nearest size
    · have hhigh := highest_le_of_bound_le hbound
      rw [if_pos hbound, if_neg (not_le.mpr (lowest_lt_highest.trans_le hhigh))]
      exact (if_pos hhigh).symm
    · rw [if_neg hbound]
      exact ofBinary64_nearest size

/-! ### What a text gives -/

/-- What a text gives as a time limit: the span of its number if this is between the limits,
and an error if it is not or if there is none. -/
inductive Gives (text : Text) : Except Fault Duration → Prop
  | span {q : ℚ} (h : Denotes text q) (hlow : lowest < q) (hhigh : q < highest) :
      Gives text (.ok (spanOf q))
  | tooLow {q : ℚ} (h : Denotes text q) (hlow : q ≤ lowest) : Gives text (.error .notPositive)
  | tooHigh {q : ℚ} (h : Denotes text q) (hhigh : highest ≤ q) : Gives text (.error .tooBig)
  | negativeInfinity (h : NamesInfinity true text) : Gives text (.error .notPositive)
  | positiveInfinity (h : NamesInfinity false text) : Gives text (.error .tooBig)
  | noNumber (h : NamesNoNumber text) : Gives text (.error .notPositive)
  | otherText (hq : ∀ q, ¬ Denotes text q) (hinf : ∀ negative, ¬ NamesInfinity negative text)
      (hnan : ¬ NamesNoNumber text) : Gives text (.error .notANumber)

theorem parse_of_namesInfinity {negative : Bool} (h : NamesInfinity negative text) :
    parse text = .error (if negative then .notPositive else .tooBig) := by
  unfold parse
  rw [Numeral.namesInfinity_iff.mp h]
  rfl

theorem parse_of_namesNoNumber (h : NamesNoNumber text) : parse text = .error .notPositive := by
  unfold parse
  rw [Numeral.namesNoNumber_iff.mp h]
  rfl

theorem gives_parse (text : Text) : Gives text (parse text) := by
  rcases hread : Numeral.parse? text.trim with _ | (⟨negative, n, k⟩ | negative | _)
  · have hparse : parse text = .error .notANumber := by
      unfold parse
      rw [hread]
    rw [hparse]
    refine .otherText (fun q h => ?_) (fun negative h => ?_) fun h => ?_
    · obtain ⟨_, _, _, hsome, -⟩ := Numeral.denotes_iff.mp h
      cases hread.symm.trans hsome
    · cases hread.symm.trans (Numeral.namesInfinity_iff.mp h)
    · cases hread.symm.trans (Numeral.namesNoNumber_iff.mp h)
  · have hq : Denotes text (Numeral.withSign negative (Numeral.size n k)) :=
      Numeral.denotes_iff.mpr ⟨negative, n, k, hread, rfl⟩
    rw [parse_of_denotes hq]
    split_ifs with hlow hhigh
    · exact .tooLow hq hlow
    · exact .tooHigh hq hhigh
    · exact .span hq (not_le.mp hlow) (not_le.mp hhigh)
  · have hname := Numeral.namesInfinity_iff.mpr hread
    rw [parse_of_namesInfinity hname]
    cases negative
    · exact .positiveInfinity hname
    · exact .negativeInfinity hname
  · have hname := Numeral.namesNoNumber_iff.mpr hread
    rw [parse_of_namesNoNumber hname]
    exact .noNumber hname

/-- **A text is read as what it gives**, and it gives one thing only. -/
theorem parse_eq_iff {result : Except Fault Duration} :
    parse text = result ↔ Gives text result := by
  constructor
  · rintro rfl
    exact gives_parse text
  · intro h
    cases h with
    | span h hlow hhigh =>
      rw [parse_of_denotes h, if_neg (not_le.mpr hlow), if_neg (not_le.mpr hhigh)]
    | tooLow h hlow => rw [parse_of_denotes h, if_pos hlow]
    | tooHigh h hhigh =>
      rw [parse_of_denotes h, if_neg (not_le.mpr (lowest_lt_highest.trans_le hhigh)), if_pos hhigh]
    | negativeInfinity h => exact parse_of_namesInfinity h
    | positiveInfinity h => exact parse_of_namesInfinity h
    | noNumber h => exact parse_of_namesNoNumber h
    | otherText hq hinf hnan =>
      have hgives := gives_parse text
      generalize parse text = result at hgives ⊢
      cases hgives with
      | span h => exact absurd h (hq _)
      | tooLow h => exact absurd h (hq _)
      | tooHigh h => exact absurd h (hq _)
      | negativeInfinity h => exact absurd h (hinf _)
      | positiveInfinity h => exact absurd h (hinf _)
      | noNumber h => exact absurd h hnan
      | otherText => rfl

/-- **Exactly the numbers between the limits are accepted.** -/
theorem parse_eq_ok_iff : parse text = .ok d ↔
    ∃ q, Denotes text q ∧ lowest < q ∧ q < highest ∧ d = spanOf q := by
  rw [parse_eq_iff]
  constructor
  · intro h
    cases h with
    | @span q h hlow hhigh => exact ⟨q, h, hlow, hhigh, rfl⟩
  · rintro ⟨q, h, hlow, hhigh, rfl⟩
    exact .span h hlow hhigh

/-! ### The order of spans -/

theorem seconds_lt (h : parse text = .ok d) : d.seconds < 2 ^ 64 := by
  obtain ⟨q, -, -, hhigh, rfl⟩ := parse_eq_ok_iff.mp h
  exact Nat.div_lt_of_lt_mul (Nat.mul_comm _ _ ▸ total_spanOf_lt hhigh)

theorem nanoseconds_lt (d : Duration) : d.nanoseconds < 10 ^ 9 :=
  Nat.mod_lt _ (by decide)

/-- **Time limits are in the order of the numbers that are written.** Every text gives one
thing, a span or an error. A text that is accepted denotes one number, and its span is that of
the nearest number of the format, of less than 2^64 seconds and less than 10^9 nanoseconds
beyond them. A text of a smaller number gives no longer a span, and what lies between two
accepted numbers is accepted. -/
theorem timeLimits_in_order :
    (∀ (text : Text) (result : Except Fault Duration),
      parse text = result ↔ Gives text result) ∧
    (∀ (text : Text) (d : Duration), parse text = .ok d →
      (∃ q, Denotes text q ∧ (∀ p, Denotes text p → p = q) ∧
        ∃ x, IsNearest q x ∧ d.total = roundHalfEven (x * Duration.perSecond)) ∧
      d.seconds < 2 ^ 64 ∧ d.nanoseconds < 10 ^ 9) ∧
    (∀ (s t : Text) (p q : ℚ) (d e : Duration), Denotes s p → Denotes t q →
      parse s = .ok d → parse t = .ok e → p ≤ q → d.total ≤ e.total) ∧
    ∀ (s t u : Text) (p q r : ℚ) (d e : Duration), Denotes s p → Denotes t q → Denotes u r →
      parse s = .ok d → parse u = .ok e → p ≤ q → q ≤ r → ∃ f, parse t = .ok f := by
  refine ⟨fun text result => parse_eq_iff, fun text d h => ?_,
    fun s t p q d e hs ht hd he hpq => ?_, fun s t u p q r d e hs ht hu hd he hpq hqr => ?_⟩
  · obtain ⟨q, hq, hlow, -, rfl⟩ := parse_eq_ok_iff.mp h
    have hpos : 0 ≤ q := by
      have hlowest : 0 < lowest := by decide +kernel
      exact (hlowest.trans hlow).le
    exact ⟨⟨q, hq, fun p hp => hp.unique hq, nearest q, Binary64.isNearest_nearest hpos, rfl⟩,
      seconds_lt h, nanoseconds_lt _⟩
  · obtain ⟨p', hp', -, -, rfl⟩ := parse_eq_ok_iff.mp hd
    obtain ⟨q', hq', -, -, rfl⟩ := parse_eq_ok_iff.mp he
    obtain rfl := hp'.unique hs
    obtain rfl := hq'.unique ht
    exact total_spanOf_mono hpq
  · obtain ⟨p', hp', hlow, -, -⟩ := parse_eq_ok_iff.mp hd
    obtain ⟨r', hr', -, hhigh, -⟩ := parse_eq_ok_iff.mp he
    obtain rfl := hp'.unique hs
    obtain rfl := hr'.unique hu
    exact ⟨spanOf q, parse_eq_ok_iff.mpr ⟨q, ht, hlow.trans_le hpq, hqr.trans_lt hhigh, rfl⟩⟩

/-- Three notations of numbers that are in order. -/
theorem notations_in_order :
    Denotes "\t1.5".toList (3 / 2) ∧ Denotes "+.2E1 ".toList 2 ∧ Denotes "2500e-3".toList (5 / 2) ∧
    (∃ d e, parse "\t1.5".toList = .ok d ∧ parse "2500e-3".toList = .ok e ∧
      d.total ≤ e.total ∧ d.seconds < 2 ^ 64 ∧ d.nanoseconds < 10 ^ 9) ∧
    ∃ f, parse "+.2E1 ".toList = .ok f := by
  have hs : Denotes "\t1.5".toList (3 / 2) :=
    Numeral.denotes_iff.mpr ⟨false, 15, -1, rfl, by decide +kernel⟩
  have ht : Denotes "+.2E1 ".toList 2 :=
    Numeral.denotes_iff.mpr ⟨false, 2, 0, rfl, by decide +kernel⟩
  have hu : Denotes "2500e-3".toList (5 / 2) :=
    Numeral.denotes_iff.mpr ⟨false, 2500, -3, rfl, by decide +kernel⟩
  obtain ⟨hgives, hparts, hmono, hbetween⟩ := timeLimits_in_order
  have hd := (hgives _ _).mpr (.span hs (by decide +kernel) (by decide +kernel))
  have he := (hgives _ _).mpr (.span hu (by decide +kernel) (by decide +kernel))
  refine ⟨hs, ht, hu, ⟨_, _, hd, he, ?_, (hparts _ _ hd).2⟩, ?_⟩
  · exact hmono _ _ _ _ _ _ hs hu hd he (by decide +kernel)
  · exact hbetween _ _ _ _ _ _ _ _ hs ht hu hd he (by decide +kernel) (by decide +kernel)

/-! ### Spans without time -/

/-- A span is positive if the nearest number is more than half a nanosecond. -/
theorem total_spanOf_pos_iff : 0 < (spanOf q).total ↔ 1 / (2 * 10 ^ 9) < nearest q := by
  have hx : 0 ≤ nearest q := (Binary64.isNumber_nearest q).nonneg
  have hsecond : (Duration.perSecond : ℚ) = 10 ^ 9 := by norm_num [Duration.perSecond]
  have hround := lt_roundHalfEven_iff (q := nearest q * Duration.perSecond) (by positivity) 0
  rw [hsecond] at hround
  unfold spanOf
  rw [hsecond, hround, div_lt_iff₀ (by norm_num)]
  constructor
  · rintro (h | ⟨-, h⟩)
    · push_cast at h
      linarith
    · cases h
  · intro h
    left
    push_cast
    linarith

/-- **An accepted number of seconds is positive in the format**, and its span is positive
exactly if it is more than half a nanosecond there. Half a nanosecond, written in decimals, is
rounded to more. -/
theorem positive_beyond_half_nanosecond (h : parse text = .ok d) :
    ∃ q, Denotes text q ∧ 0 < nearest q ∧ (0 < d.total ↔ 1 / (2 * 10 ^ 9) < nearest q) ∧
      (5 / 10 ^ 10 ≤ q → 0 < d.total) := by
  obtain ⟨q, hq, hlow, -, rfl⟩ := parse_eq_ok_iff.mp h
  refine ⟨q, hq, Binary64.nearest_pos_iff.mpr hlow, total_spanOf_pos_iff, fun hle => ?_⟩
  have hhalf : 1 / (2 * 10 ^ 9) < nearest (5 / 10 ^ 10) := by decide +kernel
  exact total_spanOf_pos_iff.mpr (hhalf.trans_le (Binary64.nearest_mono hle))

theorem halfNanosecond_positive : parse "5e-10".toList = .ok ⟨1⟩ ∧ 0 < (⟨1⟩ : Duration).total := by
  have hq : Denotes "5e-10".toList (5 / 10 ^ 10) :=
    Numeral.denotes_iff.mpr ⟨false, 5, -10, rfl, by decide +kernel⟩
  have hparse : parse "5e-10".toList = .ok ⟨1⟩ :=
    parse_eq_ok_iff.mpr ⟨_, hq, by decide +kernel, by decide +kernel, by decide +kernel⟩
  obtain ⟨p, hp, -, -, hpos⟩ := positive_beyond_half_nanosecond hparse
  exact ⟨hparse, hpos (hq.unique hp).le⟩

/-- A tenth of a nanosecond is accepted and gives no time at all. -/
theorem tenthNanosecond_zero : parse "1e-10".toList = .ok ⟨0⟩ ∧
    ¬ ∀ (text : Text) (d : Duration), parse text = .ok d → 0 < d.total := by
  have hq : Denotes "1e-10".toList (1 / 10 ^ 10) :=
    Numeral.denotes_iff.mpr ⟨false, 1, -10, rfl, by decide +kernel⟩
  have hparse : parse "1e-10".toList = .ok ⟨0⟩ :=
    parse_eq_ok_iff.mpr ⟨_, hq, by decide +kernel, by decide +kernel, by decide +kernel⟩
  exact ⟨hparse, fun h => absurd (h _ _ hparse) (lt_irrefl 0)⟩

end Timeout
end StressBench
