/-
# Numbers as they are written

A number is a sign or none, digits with at most one point before, among or behind them, and
perhaps an exponent of ten; or it is the name of infinity, with a sign or none, or of what is
no number. There may be blanks around it. The reader accepts these texts and no others, and of a
decimal number it keeps the exact value.

Key definitions: `Numeral.IsDecimal`, `Numeral.Denotes`, `Numeral.NamesInfinity`,
`Numeral.NamesNoNumber`.
Key theorems: `Numeral.denotes_iff`, `Numeral.namesInfinity_iff`, `Numeral.namesNoNumber_iff`,
`Numeral.Denotes.unique`.
-/
import StressBench.Number.Timeout
import StressBench.Proofs.Number.Reading
import StressBench.Proofs.Text.Splitting
import Mathlib.Algebra.Order.Field.Power
import Mathlib.Data.Rat.Cast.Order
import Mathlib.Tactic.FieldSimp
import Mathlib.Tactic.Ring
import Mathlib.Tactic.Positivity

namespace StressBench
namespace Numeral

/-! ### The grammar -/

/-- A number with its sign. -/
def withSign {α : Type} [Neg α] (negative : Bool) (x : α) : α :=
  if negative then -x else x

/-- What may stand before a number, and whether it makes the number negative. -/
inductive IsSign : Bool → Text → Prop
  | none : IsSign false []
  | plus : IsSign false ['+']
  | minus : IsSign true ['-']

/-- Digits with at most one point before, among or behind them, and the number that they are. -/
inductive IsMantissa : Text → ℚ → Prop
  | whole {ds : Text} (h : Decimal.isNumeral ds = true) : IsMantissa ds (Decimal.value ds)
  | pointed {ds fs : Text} (h : Decimal.isNumeral (ds ++ fs) = true) :
      IsMantissa (ds ++ '.' :: fs) (Decimal.value ds + Decimal.value fs / 10 ^ fs.length)

/-- Nothing, or a mark and the exponent of the power of ten that a number is to be taken by. -/
inductive IsScale : Text → ℤ → Prop
  | none : IsScale [] 0
  | power {mark : Char} {negative : Bool} {sign ds : Text} (hmark : mark = 'e' ∨ mark = 'E')
      (hsign : IsSign negative sign) (hds : Decimal.isNumeral ds = true) :
      IsScale (mark :: (sign ++ ds)) (withSign negative (Decimal.value ds))

/-- A decimal number. -/
inductive IsDecimal : Text → ℚ → Prop
  | intro {negative : Bool} {sign ms es : Text} {m : ℚ} {e : ℤ} (hsign : IsSign negative sign)
      (hm : IsMantissa ms m) (hes : IsScale es e) :
      IsDecimal (sign ++ (ms ++ es)) (withSign negative (m * 10 ^ e))

/-- The names of infinity, in any case of letters. -/
def IsInfinityName (name : Text) : Prop :=
  lowerCase name = ['i', 'n', 'f'] ∨ lowerCase name = ['i', 'n', 'f', 'i', 'n', 'i', 't', 'y']

/-- The name of what is no number, in any case of letters. -/
def IsNoNumberName (name : Text) : Prop :=
  lowerCase name = ['n', 'a', 'n']

/-- An infinity by its name. -/
def IsInfinity (negative : Bool) (s : Text) : Prop :=
  ∃ sign name, s = sign ++ name ∧ IsSign negative sign ∧ IsInfinityName name

/-- What is no number by its name. -/
def IsNoNumber (s : Text) : Prop :=
  ∃ negative sign name, s = sign ++ name ∧ IsSign negative sign ∧ IsNoNumberName name

/-- A text that is a decimal number with blanks around it. -/
def Denotes (text : Text) (q : ℚ) : Prop :=
  ∃ s, text.Surrounds s ∧ IsDecimal s q

/-- A text that is the name of an infinity with blanks around it. -/
def NamesInfinity (negative : Bool) (text : Text) : Prop :=
  ∃ s, text.Surrounds s ∧ IsInfinity negative s

/-- A text that is the name of what is no number with blanks around it. -/
def NamesNoNumber (text : Text) : Prop :=
  ∃ s, text.Surrounds s ∧ IsNoNumber s

/-! ### Signs -/

variable {negative : Bool} {sign s ms es : Text} {m q : ℚ} {e : ℤ}

theorem exists_sign (s : Text) : ∃ negative sign t, IsSign negative sign ∧ s = sign ++ t ∧
    parse? s = parseUnsigned? negative t := by
  unfold parse?
  split
  · exact ⟨true, _, _, .minus, rfl, rfl⟩
  · exact ⟨false, _, _, .plus, rfl, rfl⟩
  · exact ⟨false, _, _, .none, rfl, rfl⟩

theorem parse?_append (hsign : IsSign negative sign)
    (hs : s.head? ≠ some '-' ∧ s.head? ≠ some '+') :
    parse? (sign ++ s) = parseUnsigned? negative s := by
  cases hsign with
  | none =>
    rw [List.nil_append]
    unfold parse?
    split
    · exact absurd rfl hs.1
    · exact absurd rfl hs.2
    · rfl
  | plus => rfl
  | minus => rfl

theorem exists_digit_cons {ds : Text} (h : Decimal.isNumeral ds = true) :
    ∃ c t, ds = c :: t ∧ c.isDigit = true := by
  obtain ⟨hne, hdigits⟩ := Decimal.isNumeral_iff.mp h
  obtain ⟨c, t, rfl⟩ := List.exists_cons_of_ne_nil hne
  exact ⟨c, t, rfl, hdigits c List.mem_cons_self⟩

/-! ### Exponents -/

theorem parseExponent?_append {ds : Text} (hsign : IsSign negative sign)
    (hds : Decimal.isNumeral ds = true) :
    parseExponent? (sign ++ ds) = some (withSign negative (Decimal.value ds : ℤ)) := by
  cases hsign with
  | none =>
    rw [List.nil_append]
    unfold parseExponent?
    split
    · obtain ⟨c, t, hcons, hc⟩ := exists_digit_cons hds
      cases hcons
      exact absurd hc (by decide)
    · exact absurd rfl (Decimal.isNumeral_ne_plus hds)
    · exact if_pos hds
  | plus => exact if_pos hds
  | minus => exact if_pos hds

theorem exists_of_parseExponent? {s : Text} (h : parseExponent? s = some e) :
    ∃ negative sign ds, IsSign negative sign ∧ Decimal.isNumeral ds = true ∧ s = sign ++ ds ∧
      e = withSign negative (Decimal.value ds : ℤ) := by
  unfold parseExponent? at h
  split at h <;> split at h <;> simp only [Option.some.injEq, reduceCtorEq] at h
  · next ds hds => exact ⟨true, _, ds, .minus, hds, rfl, h.symm⟩
  · next ds hds => exact ⟨false, _, ds, .plus, hds, rfl, h.symm⟩
  · next hds => exact ⟨false, [], s, .none, hds, rfl, h.symm⟩

/-- **An exponent is read exactly where one is written.** -/
theorem parseScale?_iff : parseScale? es = some e ↔ IsScale es e := by
  constructor
  · intro h
    unfold parseScale? at h
    split at h
    · obtain rfl := Option.some.inj h
      exact .none
    · split at h
      · next hmark =>
        obtain ⟨negative, sign, ds, hsign, hds, rfl, rfl⟩ := exists_of_parseExponent? h
        exact .power hmark hsign hds
      · cases h
  · intro h
    cases h with
    | none => rfl
    | power hmark hsign hds => exact (if_pos hmark).trans (parseExponent?_append hsign hds)

/-! ### Digits and a point -/

/-- The digits at the beginning of a text are told from what comes after them. -/
theorem takeWhile_dropWhile_append {ds : Text} (hds : ∀ c ∈ ds, c.isDigit = true)
    (hs : ∀ c ∈ s.head?, c.isDigit = false) :
    (ds ++ s).takeWhile Char.isDigit = ds ∧ (ds ++ s).dropWhile Char.isDigit = s := by
  have hnone : s.takeWhile Char.isDigit = [] ∧ s.dropWhile Char.isDigit = s := by
    rcases s with _ | ⟨c, t⟩
    · exact ⟨rfl, rfl⟩
    · have hc : ¬ c.isDigit = true := by simp [hs c rfl]
      exact ⟨List.takeWhile_cons_of_neg hc, List.dropWhile_cons_of_neg hc⟩
  rw [List.takeWhile_append_of_pos hds, List.dropWhile_append_of_pos hds, hnone.1, hnone.2,
    List.append_nil]
  exact ⟨rfl, rfl⟩

theorem IsScale.head? (h : IsScale es e) :
    ∀ c ∈ es.head?, c.isDigit = false ∧ c ≠ '.' := by
  intro c hc
  cases h with
  | none => cases hc
  | power hmark hsign hds =>
    obtain rfl := Option.some.inj hc
    rcases hmark with rfl | rfl <;> decide

theorem splitFraction_of_ne (h : ∀ c ∈ s.head?, c ≠ '.') : splitFraction s = ([], s) := by
  unfold splitFraction
  split
  · exact absurd rfl (h '.' rfl)
  · rfl

theorem value_append (ds fs : Text) :
    Decimal.value (ds ++ fs) = Decimal.value ds * 10 ^ fs.length + Decimal.value fs := by
  unfold Decimal.value
  rw [Nat.ofDigitChars_append, Nat.ofDigitChars_eq_ofDigitChars_zero, Nat.mul_comm]

/-- The digits of both sides of the point make a number as many places too great. -/
theorem value_append_div (ds fs : Text) :
    (Decimal.value (ds ++ fs) : ℚ) / 10 ^ fs.length =
      Decimal.value ds + Decimal.value fs / 10 ^ fs.length := by
  rw [value_append]
  push_cast
  field_simp

theorem IsMantissa.split (hm : IsMantissa ms m) (hes : IsScale es e) :
    ∃ ds fs, (ms ++ es).takeWhile Char.isDigit = ds ∧
      splitFraction ((ms ++ es).dropWhile Char.isDigit) = (fs, es) ∧
      ds ++ fs ≠ [] ∧ m = (Decimal.value (ds ++ fs) : ℚ) / 10 ^ fs.length := by
  have hhead := hes.head?
  cases hm with
  | whole h =>
    obtain ⟨hne, hdigits⟩ := Decimal.isNumeral_iff.mp h
    obtain ⟨htake, hdrop⟩ := takeWhile_dropWhile_append hdigits fun c hc => (hhead c hc).1
    refine ⟨ms, [], htake, ?_, by simpa using hne, by simp⟩
    rw [hdrop, splitFraction_of_ne fun c hc => (hhead c hc).2]
  | @pointed ds fs h =>
    obtain ⟨hne, hdigits⟩ := Decimal.isNumeral_iff.mp h
    rw [List.forall_mem_append] at hdigits
    obtain ⟨htake, hdrop⟩ := takeWhile_dropWhile_append (s := '.' :: (fs ++ es)) hdigits.1
      fun c hc => by
        obtain rfl := Option.some.inj hc
        decide
    obtain ⟨htake', hdrop'⟩ := takeWhile_dropWhile_append hdigits.2 fun c hc => (hhead c hc).1
    refine ⟨ds, fs, ?_, ?_, hne, (value_append_div ds fs).symm⟩
    · rw [List.append_assoc, List.cons_append, htake]
    · rw [List.append_assoc, List.cons_append, hdrop]
      exact Prod.ext htake' hdrop'

theorem isDigit_of_mem_takeWhile (t : Text) : ∀ c ∈ t.takeWhile Char.isDigit, c.isDigit = true :=
  List.all_eq_true.mp List.all_takeWhile

/-- The parts that a text is taken to are a mantissa and what comes after it, if there is any
digit. -/
theorem isMantissa_of_split {t fs rest : Text}
    (ht : splitFraction (t.dropWhile Char.isDigit) = (fs, rest))
    (hne : t.takeWhile Char.isDigit ++ fs ≠ []) :
    ∃ ms, t = ms ++ rest ∧
      IsMantissa ms ((Decimal.value (t.takeWhile Char.isDigit ++ fs) : ℚ) / 10 ^ fs.length) := by
  have hdigits := isDigit_of_mem_takeWhile t
  have happend : t.takeWhile Char.isDigit ++ t.dropWhile Char.isDigit = t :=
    List.takeWhile_append_dropWhile
  unfold splitFraction at ht
  split at ht
  · next r hdrop =>
    obtain ⟨rfl, rfl⟩ := Prod.mk.inj ht
    refine ⟨t.takeWhile Char.isDigit ++ '.' :: r.takeWhile Char.isDigit, ?_, ?_⟩
    · rw [List.append_assoc, List.cons_append, List.takeWhile_append_dropWhile, ← hdrop, happend]
    · rw [value_append_div]
      refine .pointed (Decimal.isNumeral_iff.mpr ⟨hne, ?_⟩)
      exact List.forall_mem_append.mpr ⟨hdigits, isDigit_of_mem_takeWhile r⟩
  · obtain ⟨rfl, rfl⟩ := Prod.mk.inj ht
    rw [List.append_nil] at hne ⊢
    rw [List.length_nil, pow_zero, div_one]
    exact ⟨_, happend.symm, .whole (Decimal.isNumeral_iff.mpr ⟨hne, hdigits⟩)⟩

/-! ### Numbers without a sign -/

theorem IsMantissa.exists_cons (hm : IsMantissa ms m) :
    ∃ c t, ms = c :: t ∧ (c.isDigit = true ∨ c = '.') := by
  cases hm with
  | whole h =>
    obtain ⟨c, t, hcons, hc⟩ := exists_digit_cons h
    exact ⟨c, t, hcons, .inl hc⟩
  | @pointed ds fs h =>
    rcases ds with _ | ⟨c, t⟩
    · exact ⟨'.', fs, rfl, .inr rfl⟩
    · obtain ⟨c', t', hcons, hc⟩ := exists_digit_cons h
      cases hcons
      exact ⟨c, t ++ '.' :: fs, rfl, .inl hc⟩

theorem size_sub (n places : ℕ) (e : ℤ) :
    size n (e - places) = (n : ℚ) / 10 ^ places * 10 ^ e := by
  unfold size
  rw [zpow_sub₀ (by norm_num), zpow_natCast]
  ring

theorem toLower_ne {c : Char} (hc : c.isDigit = true ∨ c = '.') :
    c.toLower ≠ 'i' ∧ c.toLower ≠ 'n' := by
  rcases hc with hc | rfl
  · have hall : ∀ d < 10, (Nat.digitChar d).toLower ≠ 'i' ∧ (Nat.digitChar d).toLower ≠ 'n' := by
      decide
    have hlt : c.toNat - 48 < 10 := by
      have := Decimal.toNat_bounds hc
      omega
    rw [← Decimal.digitChar_toNat_sub hc]
    exact hall _ hlt
  · decide

theorem not_isName (hm : IsMantissa ms m) (es : Text) :
    ¬ IsInfinityName (ms ++ es) ∧ ¬ IsNoNumberName (ms ++ es) := by
  obtain ⟨c, t, rfl, hc⟩ := hm.exists_cons
  obtain ⟨hi, hn⟩ := toLower_ne hc
  constructor
  · rintro (h | h)
    · exact hi (List.cons.inj h).1
    · exact hi (List.cons.inj h).1
  · exact fun h => hn (List.cons.inj h).1

/-- What is no name is read by its digits and its exponent. -/
theorem parseUnsigned?_of_split {t fs rest : Text} (hinf : ¬ IsInfinityName t)
    (hnan : ¬ IsNoNumberName t) (ht : splitFraction (t.dropWhile Char.isDigit) = (fs, rest)) :
    parseUnsigned? negative t =
      if (t.takeWhile Char.isDigit ++ fs).isEmpty then none
      else (parseScale? rest).map fun e =>
        .finite negative (Decimal.value (t.takeWhile Char.isDigit ++ fs)) (e - fs.length) := by
  unfold parseUnsigned?
  dsimp only
  rw [ht]
  exact (if_neg hinf).trans (if_neg hnan)

theorem parseUnsigned?_append (negative : Bool) (hm : IsMantissa ms m) (hes : IsScale es e) :
    ∃ n k, parseUnsigned? negative (ms ++ es) = some (.finite negative n k) ∧
      size n k = m * 10 ^ e := by
  obtain ⟨hinf, hnan⟩ := not_isName hm es
  obtain ⟨ds, fs, htake, hsplit, hne, rfl⟩ := hm.split hes
  refine ⟨_, _, ?_, size_sub (Decimal.value (ds ++ fs)) fs.length e⟩
  have hempty : ¬ (ds ++ fs).isEmpty = true := by simpa using hne
  rw [parseUnsigned?_of_split hinf hnan hsplit, htake, if_neg hempty, parseScale?_iff.mpr hes]
  rfl

/-- What a text without a sign stands for, with the sign that was before it. -/
inductive Unsigned (negative : Bool) : Text → Numeral → Prop
  | infinite {t : Text} (h : IsInfinityName t) : Unsigned negative t (.infinite negative)
  | notANumber {t : Text} (h : IsNoNumberName t) : Unsigned negative t .notANumber
  | finite {ms es : Text} {m : ℚ} {e k : ℤ} {n : ℕ} (hm : IsMantissa ms m) (hes : IsScale es e)
      (hsize : size n k = m * 10 ^ e) : Unsigned negative (ms ++ es) (.finite negative n k)

theorem unsigned_of_parseUnsigned? {t : Text} {number : Numeral}
    (h : parseUnsigned? negative t = some number) : Unsigned negative t number := by
  by_cases hinf : IsInfinityName t
  · have hread : parseUnsigned? negative t = some (.infinite negative) := if_pos hinf
    obtain rfl := Option.some.inj (h.symm.trans hread)
    exact .infinite hinf
  · by_cases hnan : IsNoNumberName t
    · have hread : parseUnsigned? negative t = some .notANumber :=
        (if_neg hinf).trans (if_pos hnan)
      obtain rfl := Option.some.inj (h.symm.trans hread)
      exact .notANumber hnan
    · obtain ⟨fs, rest, hsplit⟩ : ∃ fs rest,
          splitFraction (t.dropWhile Char.isDigit) = (fs, rest) := ⟨_, _, rfl⟩
      rw [parseUnsigned?_of_split hinf hnan hsplit] at h
      split at h
      · cases h
      · next hempty =>
        obtain ⟨e, he, rfl⟩ := Option.map_eq_some_iff.mp h
        have hne : t.takeWhile Char.isDigit ++ fs ≠ [] := by simpa using hempty
        obtain ⟨ms, hms, hm⟩ := isMantissa_of_split hsplit hne
        have hes := parseScale?_iff.mp he
        generalize t.takeWhile Char.isDigit = ds at hm ⊢
        rw [hms]
        exact .finite hm hes (size_sub _ _ _)

/-! ### What is read -/

theorem head?_ne_sign {c : Char} {t : Text} (hc : c ≠ '-' ∧ c ≠ '+') :
    (c :: t).head? ≠ some '-' ∧ (c :: t).head? ≠ some '+' :=
  ⟨fun h => hc.1 (Option.some.inj h), fun h => hc.2 (Option.some.inj h)⟩

/-- **Exactly the decimal numbers are read as such**, with their value. -/
theorem isDecimal_iff : IsDecimal s q ↔
    ∃ negative n k, parse? s = some (.finite negative n k) ∧ withSign negative (size n k) = q := by
  constructor
  · intro h
    cases h with
    | @intro negative sign ms es m e hsign hm hes =>
      obtain ⟨n, k, hread, hsize⟩ := parseUnsigned?_append negative hm hes
      refine ⟨negative, n, k, ?_, by rw [hsize]⟩
      obtain ⟨c, t, hcons, hc⟩ := hm.exists_cons
      have hhead : c ≠ '-' ∧ c ≠ '+' := by
        constructor <;> rintro rfl <;> exact absurd hc (by decide)
      rw [parse?_append hsign (by rw [hcons]; exact head?_ne_sign hhead), hread]
  · rintro ⟨negative, n, k, hread, rfl⟩
    obtain ⟨negative', sign, t, hsign, rfl, hparse⟩ := exists_sign s
    cases unsigned_of_parseUnsigned? (hparse.symm.trans hread) with
    | finite hm hes hsize =>
      rw [hsize]
      exact .intro hsign hm hes

theorem exists_cons_of_isName {name : Text} (h : IsInfinityName name ∨ IsNoNumberName name) :
    ∃ c t, name = c :: t ∧ c ≠ '-' ∧ c ≠ '+' := by
  rcases name with _ | ⟨c, t⟩
  · rcases h with (h | h) | h <;> cases h
  · refine ⟨c, t, rfl, ?_⟩
    constructor <;> rintro rfl <;> rcases h with (h | h) | h <;>
      exact absurd (List.cons.inj h).1 (by decide)

/-- **Exactly the names of infinity are read as such.** -/
theorem isInfinity_iff : IsInfinity negative s ↔ parse? s = some (.infinite negative) := by
  constructor
  · rintro ⟨sign, name, rfl, hsign, hname⟩
    obtain ⟨c, t, rfl, hc⟩ := exists_cons_of_isName (.inl hname)
    rw [parse?_append hsign (head?_ne_sign hc)]
    exact if_pos hname
  · intro hread
    obtain ⟨negative', sign, t, hsign, rfl, hparse⟩ := exists_sign s
    cases unsigned_of_parseUnsigned? (hparse.symm.trans hread) with
    | infinite hname => exact ⟨sign, t, rfl, hsign, hname⟩

/-- **Exactly the names of what is no number are read as such.** -/
theorem isNoNumber_iff : IsNoNumber s ↔ parse? s = some .notANumber := by
  constructor
  · rintro ⟨negative, sign, name, rfl, hsign, hname⟩
    have hinf : ¬ IsInfinityName name := by
      unfold IsInfinityName
      rw [hname]
      decide
    obtain ⟨c, t, rfl, hc⟩ := exists_cons_of_isName (.inr hname)
    rw [parse?_append hsign (head?_ne_sign hc)]
    exact (if_neg hinf).trans (if_pos hname)
  · intro hread
    obtain ⟨negative, sign, t, hsign, rfl, hparse⟩ := exists_sign s
    cases unsigned_of_parseUnsigned? (hparse.symm.trans hread) with
    | notANumber hname => exact ⟨negative, sign, t, rfl, hsign, hname⟩

/-! ### Blanks around -/

theorem isBlank_eq_false {c : Char} (h : 33 ≤ c.toNat) (h' : c.toNat ≤ 126) :
    Text.isBlank c = false := by
  rw [Bool.eq_false_iff]
  intro hb
  simp only [Text.isBlank, Bool.or_eq_true, Bool.and_eq_true, decide_eq_true_eq,
    beq_iff_eq] at hb
  omega

theorem isBlank_eq_false_of_toLower {c : Char} (h : Text.isBlank c.toLower = false) :
    Text.isBlank c = false := by
  unfold Char.toLower at h
  split at h
  · next hupper =>
    have hlow : 65 ≤ c.toNat := UInt32.le_iff_toNat_le.mp hupper.1
    have hhigh : c.toNat ≤ 90 := UInt32.le_iff_toNat_le.mp hupper.2
    exact isBlank_eq_false (by omega) (by omega)
  · exact h

theorem IsSign.noBlank (h : IsSign negative sign) : ∀ c ∈ sign, Text.isBlank c = false := by
  cases h with
  | none => exact List.forall_mem_nil _
  | plus => exact List.forall_mem_singleton.mpr rfl
  | minus => exact List.forall_mem_singleton.mpr rfl

theorem IsMantissa.noBlank (h : IsMantissa ms m) : ∀ c ∈ ms, Text.isBlank c = false := by
  cases h with
  | whole h => exact Decimal.noBlank_of_isNumeral h
  | pointed h =>
    have hdigits := List.forall_mem_append.mp (Decimal.noBlank_of_isNumeral h)
    rw [List.forall_mem_append, List.forall_mem_cons]
    exact ⟨hdigits.1, by decide, hdigits.2⟩

theorem IsScale.noBlank (h : IsScale es e) : ∀ c ∈ es, Text.isBlank c = false := by
  cases h with
  | none => exact List.forall_mem_nil _
  | power hmark hsign hds =>
    rw [List.forall_mem_cons, List.forall_mem_append]
    refine ⟨?_, hsign.noBlank, Decimal.noBlank_of_isNumeral hds⟩
    rcases hmark with rfl | rfl <;> decide

theorem IsDecimal.isWord (h : IsDecimal s q) : s.IsWord := by
  cases h with
  | intro hsign hm hes =>
    obtain ⟨c, t, hcons, -⟩ := hm.exists_cons
    refine ⟨by simp [hcons], ?_⟩
    rw [List.forall_mem_append, List.forall_mem_append]
    exact ⟨hsign.noBlank, hm.noBlank, hes.noBlank⟩

theorem isWord_of_isName {name : Text} (hsign : IsSign negative sign)
    (h : IsInfinityName name ∨ IsNoNumberName name) : (sign ++ name).IsWord := by
  obtain ⟨c, t, hcons, -⟩ := exists_cons_of_isName h
  have hall : (lowerCase name).all (fun c => !Text.isBlank c) = true := by
    rcases h with (h | h) | h <;> rw [h] <;> rfl
  have hlower : ∀ c ∈ lowerCase name, Text.isBlank c = false := by simpa using hall
  refine ⟨by simp [hcons], List.forall_mem_append.mpr ⟨hsign.noBlank, fun c hc => ?_⟩⟩
  exact isBlank_eq_false_of_toLower (hlower _ (List.mem_map_of_mem hc))

/-- **Exactly the texts of decimal numbers are read as such**, with their value. -/
theorem denotes_iff {text : Text} : Denotes text q ↔
    ∃ negative n k, parse? text.trim = some (.finite negative n k) ∧
      withSign negative (size n k) = q :=
  (Text.exists_surrounds_iff (fun _ h => h.isWord) text).trans isDecimal_iff

theorem namesInfinity_iff {text : Text} :
    NamesInfinity negative text ↔ parse? text.trim = some (.infinite negative) := by
  refine (Text.exists_surrounds_iff ?_ text).trans isInfinity_iff
  rintro _ ⟨sign, name, rfl, hsign, hname⟩
  exact isWord_of_isName hsign (.inl hname)

theorem namesNoNumber_iff {text : Text} :
    NamesNoNumber text ↔ parse? text.trim = some .notANumber := by
  refine (Text.exists_surrounds_iff ?_ text).trans isNoNumber_iff
  rintro _ ⟨negative, sign, name, rfl, hsign, hname⟩
  exact isWord_of_isName hsign (.inr hname)

theorem Denotes.unique {text : Text} {p : ℚ} (hp : Denotes text p) (hq : Denotes text q) :
    p = q := by
  obtain ⟨negative, n, k, hread, rfl⟩ := denotes_iff.mp hp
  obtain ⟨negative', n', k', hread', rfl⟩ := denotes_iff.mp hq
  cases hread.symm.trans hread'
  rfl

end Numeral
end StressBench
