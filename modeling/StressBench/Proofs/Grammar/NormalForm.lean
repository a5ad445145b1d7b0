/-
# The normal form of a line

A line that spells an instruction can differ from how the instruction is written in two ways
only: in the blanks before, between and behind the tokens, and in zeros in front of the numeral
of a memory operand. The normal form does away with both and keeps everything else. So the
tokens spell an instruction exactly when their normal forms are its words, and a line that is
told not to be canonical is one whose normal form is another text and an instruction.

Key definitions: `Decimal.withoutZeros`, `Text.unpadded`, `Text.normalForm`.
Key theorems: `Instruction.ofTokens_eq_ok_iff`, `Instruction.parse_normalForm_eq_ok_iff`,
`Instruction.nonCanonical_up_to_normalForm`.
-/
import StressBench.Proofs.Grammar.Faults

namespace StressBench

/-! ### Zeros in front of a numeral -/

namespace Decimal

/-- The digits without the zeros in front of others. -/
def withoutZeros : Text → Text
  | '0' :: d :: ds => withoutZeros (d :: ds)
  | ds => ds

theorem withoutZeros_of_isCanonical {ds : Text} (h : IsCanonical ds) : withoutZeros ds = ds := by
  unfold withoutZeros
  split
  · next d ds => exact absurd rfl (h.2.2 (by simp))
  · rfl

theorem isCanonical_withoutZeros {ds : Text} (h : isNumeral ds = true) :
    IsCanonical (withoutZeros ds) := by
  obtain ⟨hne, hdigits⟩ := isNumeral_iff.mp h
  fun_induction withoutZeros ds with
  | case1 d ds ih =>
    have hrest : ∀ c ∈ d :: ds, c.isDigit = true := fun c hc =>
      hdigits c (List.mem_cons_of_mem _ hc)
    exact ih (isNumeral_iff.mpr ⟨by simp, hrest⟩) (by simp) hrest
  | case2 ds hzero =>
    refine ⟨hne, hdigits, fun hlength hhead => ?_⟩
    obtain ⟨d, ds, rfl⟩ := List.exists_cons_of_length_pos (Nat.lt_trans Nat.zero_lt_one hlength)
    obtain rfl : d = '0' := Option.some.inj hhead
    obtain ⟨d, ds, rfl⟩ := List.exists_cons_of_length_pos (Nat.lt_of_succ_lt_succ hlength)
    exact hzero d ds rfl

theorem value_withoutZeros (ds : Text) : value (withoutZeros ds) = value ds := by
  fun_induction withoutZeros ds with
  | case1 d ds ih =>
    rw [ih, value, value, Nat.ofDigitChars_cons]
    rfl
  | case2 ds => rfl

theorem withoutZeros_eq_digits {ds : Text} (h : isNumeral ds = true) :
    withoutZeros ds = digits (value ds) := by
  rw [← value_withoutZeros ds, digits_value (isCanonical_withoutZeros h)]

end Decimal

/-! ### Tokens and lines -/

namespace Text

/-- A token of the form `m<`, digits, `>` without superfluous zeros, and any other as it is. -/
def unpadded (t : Text) : Text :=
  match t with
  | 'm' :: '<' :: rest =>
    if rest.getLast? = some '>' ∧ Decimal.isNumeral rest.dropLast then
      "m<".toList ++ Decimal.withoutZeros rest.dropLast ++ ">".toList
    else t
  | _ => t

/-- The tokens of a line, without superfluous zeros, with one space between them. -/
def normalForm (s : Text) : Text :=
  [' '].intercalate ((tokens s).map unpadded)

theorem unpadded_numeral {ds : Text} (h : Decimal.isNumeral ds = true) :
    unpadded ("m<".toList ++ ds ++ ">".toList) =
      "m<".toList ++ Decimal.withoutZeros ds ++ ">".toList := by
  show unpadded ('m' :: '<' :: (ds ++ ['>'])) = _
  have hlast : (ds ++ ['>']).getLast? = some '>' := List.getLast?_concat
  simp only [unpadded, List.dropLast_concat]
  rw [if_pos ⟨hlast, h⟩]

/-- A token stays as it is unless it is a numeral between `m<` and `>`. -/
theorem unpadded_cases (t : Text) : unpadded t = t ∨
    ∃ ds, Decimal.isNumeral ds = true ∧ t = "m<".toList ++ ds ++ ">".toList := by
  unfold unpadded
  split
  · next rest =>
    split
    · next h =>
      obtain ⟨ds, rfl⟩ := List.getLast?_eq_some_iff.mp h.1
      exact .inr ⟨ds, by simpa using h.2, by simp⟩
    · exact .inl rfl
  · exact .inl rfl

theorem unpadded_unpadded (t : Text) : unpadded (unpadded t) = unpadded t := by
  rcases unpadded_cases t with h | ⟨ds, hds, rfl⟩
  · rw [h, h]
  · have hcanonical := Decimal.isCanonical_withoutZeros hds
    have hnumeral := Decimal.isNumeral_iff.mpr ⟨hcanonical.1, hcanonical.2.1⟩
    rw [unpadded_numeral hds, unpadded_numeral hnumeral,
      Decimal.withoutZeros_of_isCanonical hcanonical]

theorem isWord_unpadded {t : Text} (h : IsWord t) : IsWord (unpadded t) := by
  rcases unpadded_cases t with ht | ⟨ds, hds, rfl⟩
  · rwa [ht]
  · obtain ⟨-, hdigits, -⟩ := Decimal.isCanonical_withoutZeros hds
    rw [unpadded_numeral hds]
    refine ⟨by simp, fun c hc => ?_⟩
    simp only [List.mem_append] at hc
    rcases hc with (hc | hc) | hc
    · exact h.2 c (List.mem_append_left _ (List.mem_append_left _ hc))
    · exact Decimal.isBlank_of_isDigit (hdigits c hc)
    · exact h.2 c (List.mem_append_right _ hc)

theorem tokens_normalForm (s : Text) : tokens (normalForm s) = (tokens s).map unpadded := by
  refine tokens_intercalate _ fun w hw => ?_
  obtain ⟨t, ht, rfl⟩ := List.mem_map.mp hw
  exact isWord_unpadded (isWord_of_mem_tokens ht)

/-- **The normal form of a normal form is itself.** -/
theorem normalForm_normalForm (s : Text) : normalForm (normalForm s) = normalForm s := by
  rw [normalForm, tokens_normalForm, List.map_map, normalForm]
  congr 1
  exact List.map_congr_left fun t _ => unpadded_unpadded t

end Text

/-! ### Words and their spellings -/

theorem bind_eq_ok_iff {ε α β : Type} {x : Except ε α} {f : α → Except ε β} {b : β} :
    (x >>= f) = .ok b ↔ ∃ a, x = .ok a ∧ f a = .ok b := by
  cases x with
  | error e => exact iff_of_false nofun nofun
  | ok a => simp [bind, Except.bind]

namespace Text

/-- A word that does not begin with `m<` is the only token with this normal form. -/
theorem unpadded_eq_iff {w t : Text} (h : w.take 2 ≠ "m<".toList) : unpadded t = w ↔ t = w := by
  rcases unpadded_cases t with ht | ⟨ds, hds, rfl⟩
  · rw [ht]
  · rw [unpadded_numeral hds]
    refine iff_of_false ?_ ?_ <;> rintro rfl <;> exact h rfl

end Text

theorem Register.parse?_eq_some_iff_unpadded {t : Text} {r : Register} :
    parse? t = some r ↔ Text.unpadded t = r.render := by
  rw [Text.unpadded_eq_iff (by simp [render]), parse?_eq_some_iff, eq_comm]

theorem Address.parse?_eq_some_iff_unpadded {t : Text} {a : Address} :
    parse? t = some a ↔ Text.unpadded t = a.render := by
  constructor
  · intro h
    obtain ⟨ds, hds, hvalue, rfl⟩ := parse?_eq_some_iff.mp h
    rw [Text.unpadded_numeral hds, Decimal.withoutZeros_eq_digits hds, hvalue]
    rfl
  · intro h
    rcases Text.unpadded_cases t with ht | ⟨ds, hds, rfl⟩
    · rw [← ht, h, parse?_render]
    · rw [Text.unpadded_numeral hds, Decimal.withoutZeros_eq_digits hds] at h
      have hdigits : Decimal.digits (Decimal.value ds) = Decimal.digits a.value := by
        simpa [render] using h
      refine parse?_eq_some_iff.mpr ⟨ds, hds, ?_, rfl⟩
      rw [← Decimal.value_digits (Decimal.value ds), hdigits, Decimal.value_digits]

namespace Instruction

theorem unpadded_mnemonic {o : Opcode} {t : Text} :
    Text.unpadded t = o.mnemonic ↔ t = o.mnemonic := by
  refine Text.unpadded_eq_iff ?_
  cases o with
  | arith op => cases op <;> decide
  | move | load | store => decide

theorem unpadded_withWord {t : Text} : Text.unpadded t = withWord ↔ t = withWord :=
  Text.unpadded_eq_iff (by decide)

theorem unpadded_toWord {t : Text} : Text.unpadded t = toWord ↔ t = toWord :=
  Text.unpadded_eq_iff (by decide)

theorem readRegister_eq_ok_iff {t : Text} {r : Register} :
    readRegister t = .ok r ↔ Text.unpadded t = r.render := by
  rw [← Register.parse?_eq_some_iff_unpadded, readRegister]
  cases Register.parse? t <;> simp

theorem readAddress_eq_ok_iff {t : Text} {a : Address} :
    readAddress t = .ok a ↔ Text.unpadded t = a.render := by
  rw [← Address.parse?_eq_some_iff_unpadded, readAddress]
  cases Address.parse? t <;> simp

theorem words_of_readOperands {o : Opcode} {rest : List Text} {i : Instruction}
    (h : readOperands o rest = .ok i) : i.words = o.mnemonic :: rest.map Text.unpadded := by
  have hwith : Text.unpadded withWord = withWord := unpadded_withWord.mpr rfl
  have hto : Text.unpadded toWord = toWord := unpadded_toWord.mpr rfl
  unfold readOperands at h
  split at h
  · next op lhs w rhs t dst =>
    split at h
    · next hwords =>
      obtain ⟨rfl, rfl⟩ := hwords
      simp only [bind_eq_ok_iff, readRegister_eq_ok_iff] at h
      obtain ⟨l, hl, r, hr, d, hd, hi⟩ := h
      cases hi
      simp only [words, List.map_cons, List.map_nil, hl, hr, hd, hwith, hto, Opcode.mnemonic]
    · cases h
  · next src t dst =>
    split at h
    · next hword =>
      subst hword
      simp only [bind_eq_ok_iff, readRegister_eq_ok_iff] at h
      obtain ⟨s, hs, d, hd, hi⟩ := h
      cases hi
      simp only [words, List.map_cons, List.map_nil, hs, hd, hto]
    · cases h
  · next addr t dst =>
    split at h
    · next hword =>
      subst hword
      simp only [bind_eq_ok_iff, readRegister_eq_ok_iff, readAddress_eq_ok_iff] at h
      obtain ⟨a, ha, d, hd, hi⟩ := h
      cases hi
      simp only [words, List.map_cons, List.map_nil, ha, hd, hto]
    · cases h
  · next src t addr =>
    split at h
    · next hword =>
      subst hword
      simp only [bind_eq_ok_iff, readRegister_eq_ok_iff, readAddress_eq_ok_iff] at h
      obtain ⟨s, hs, a, ha, hi⟩ := h
      cases hi
      simp only [words, List.map_cons, List.map_nil, hs, ha, hto]
    · cases h
  · cases h

theorem readOperands_of_words {rest : List Text} (i : Instruction)
    (h : rest.map Text.unpadded = i.words.tail) : readOperands i.opcode rest = .ok i := by
  cases i with
  | arith op lhs rhs dst =>
    simp only [words, List.tail_cons, List.map_eq_cons_iff, List.map_eq_nil_iff,
      unpadded_withWord, unpadded_toWord, ← readRegister_eq_ok_iff] at h
    obtain ⟨l, -, rfl, hl, -, -, rfl, rfl, r, -, rfl, hr, -, -, rfl, rfl, d, -, rfl, hd, rfl⟩ := h
    simp only [opcode, readOperands, and_self, if_true, hl, hr, hd]
    rfl
  | move src dst =>
    simp only [words, List.tail_cons, List.map_eq_cons_iff, List.map_eq_nil_iff,
      unpadded_toWord, ← readRegister_eq_ok_iff] at h
    obtain ⟨s, -, rfl, hs, -, -, rfl, rfl, d, -, rfl, hd, rfl⟩ := h
    simp only [opcode, readOperands, if_true, hs, hd]
    rfl
  | load addr dst =>
    simp only [words, List.tail_cons, List.map_eq_cons_iff, List.map_eq_nil_iff,
      unpadded_toWord, ← readRegister_eq_ok_iff, ← readAddress_eq_ok_iff] at h
    obtain ⟨a, -, rfl, ha, -, -, rfl, rfl, d, -, rfl, hd, rfl⟩ := h
    simp only [opcode, readOperands, if_true, ha, hd]
    rfl
  | store src addr =>
    simp only [words, List.tail_cons, List.map_eq_cons_iff, List.map_eq_nil_iff,
      unpadded_toWord, ← readRegister_eq_ok_iff, ← readAddress_eq_ok_iff] at h
    obtain ⟨s, -, rfl, hs, -, -, rfl, rfl, a, -, rfl, ha, rfl⟩ := h
    simp only [opcode, readOperands, if_true, hs, ha]
    rfl

/-- **Tokens spell an instruction** when its words are their normal forms, and only then. -/
theorem ofTokens_eq_ok_iff {ts : List Text} {i : Instruction} :
    ofTokens ts = .ok i ↔ ts.map Text.unpadded = i.words := by
  obtain ⟨rest, hwords, -⟩ := i.words_eq_cons
  cases ts with
  | nil => simp [ofTokens, hwords]
  | cons t ts =>
    rw [List.map_cons]
    constructor
    · intro h
      rw [ofTokens] at h
      split at h
      · cases h
      · next o ho =>
        obtain rfl := Opcode.ofMnemonic?_eq_some_iff.mp ho
        rw [words_of_readOperands h, unpadded_mnemonic.mpr rfl]
    · intro h
      have htail := congrArg List.tail h
      rw [hwords, List.cons.injEq, unpadded_mnemonic] at h
      rw [h.1, ofTokens_cons, readOperands_of_words i htail]

/-! ### The whole line -/

/-- The normal form of a line is an instruction exactly when the tokens spell it, and then it
is how the instruction is written. -/
theorem parse_normalForm_eq_ok_iff {s : Text} {i : Instruction} :
    parse (Text.normalForm s) = .ok i ↔ ofTokens (Text.tokens s) = .ok i := by
  rw [parse_eq_ok_iff, ofTokens_eq_ok_iff, ← Text.tokens_normalForm]
  constructor
  · intro h
    rw [← h, tokens_render]
  · intro h
    rw [render, ← h, Text.tokens_normalForm]
    rfl

theorem normalForm_eq_of_parse {s : Text} {i : Instruction} (h : parse s = .ok i) :
    Text.normalForm s = s := by
  have hrender := render_of_parse h
  have htokens : ofTokens (Text.tokens s) = .ok i := by
    rw [← hrender, tokens_render, ofTokens_words]
  rw [← render_of_parse (parse_normalForm_eq_ok_iff.mpr htokens), hrender]

theorem parse_normalForm_ne_nonCanonical (s : Text) :
    parse (Text.normalForm s) ≠ .error .nonCanonical := by
  intro h
  obtain ⟨i, htokens, hne⟩ := parse_eq_nonCanonical_iff.mp h
  rw [← parse_normalForm_eq_ok_iff, Text.normalForm_normalForm] at htokens
  exact hne (render_of_parse htokens)

theorem parse_eq_nonCanonical_iff_normalForm {s : Text} : parse s = .error .nonCanonical ↔
    Text.normalForm s ≠ s ∧ ∃ i, parse (Text.normalForm s) = .ok i := by
  rw [parse_eq_nonCanonical_iff]
  constructor
  · rintro ⟨i, htokens, hne⟩
    have hparse := parse_normalForm_eq_ok_iff.mpr htokens
    exact ⟨fun heq => hne ((render_of_parse hparse).trans heq), i, hparse⟩
  · rintro ⟨hne, i, hparse⟩
    refine ⟨i, parse_normalForm_eq_ok_iff.mp hparse, ?_⟩
    rwa [render_of_parse hparse]

/-- A line that is told nothing else is told that it is not canonical, or is the instruction
that its normal form is. -/
theorem parse_of_only_nonCanonical {s : Text} (h : ∀ e, parse s = .error e → e = .nonCanonical) :
    ∃ i, parse (Text.normalForm s) = .ok i ∧
      (parse s = .ok i ∨ parse s = .error .nonCanonical) := by
  cases hparse : parse s with
  | error e =>
    obtain rfl := h e hparse
    obtain ⟨-, i, hi⟩ := parse_eq_nonCanonical_iff_normalForm.mp hparse
    exact ⟨i, hi, .inr rfl⟩
  | ok i => exact ⟨i, by rw [normalForm_eq_of_parse hparse, hparse], .inl rfl⟩

/-- **Not canonical is an instruction up to spacing and zeros.** It is told of a line exactly
when its normal form is another text and an instruction. The normal form of a normal form is
itself, and it is never told of one. Of lines with one normal form that are told nothing else,
each is the same instruction or is told that it is not canonical, and no two of them are it. -/
theorem nonCanonical_up_to_normalForm :
    (∀ s : Text, parse s = .error .nonCanonical ↔
      Text.normalForm s ≠ s ∧ ∃ i, parse (Text.normalForm s) = .ok i) ∧
    (∀ s : Text, Text.normalForm (Text.normalForm s) = Text.normalForm s) ∧
    (∀ s : Text, parse (Text.normalForm s) ≠ .error .nonCanonical) ∧
    (∀ s s' : Text, Text.normalForm s = Text.normalForm s' →
      (∀ e, parse s = .error e → e = .nonCanonical) →
      (∀ e, parse s' = .error e → e = .nonCanonical) →
      ∃ i, (parse s = .ok i ∨ parse s = .error .nonCanonical) ∧
        (parse s' = .ok i ∨ parse s' = .error .nonCanonical)) ∧
    ∀ (s s' : Text) (i i' : Instruction), Text.normalForm s = Text.normalForm s' →
      parse s = .ok i → parse s' = .ok i' → s = s' := by
  refine ⟨fun s => parse_eq_nonCanonical_iff_normalForm, Text.normalForm_normalForm,
    parse_normalForm_ne_nonCanonical, fun s s' hsame hs hs' => ?_, fun s s' i i' hsame hs hs' => ?_⟩
  · obtain ⟨i, hi, hparse⟩ := parse_of_only_nonCanonical hs
    obtain ⟨i', hi', hparse'⟩ := parse_of_only_nonCanonical hs'
    rw [hsame, hi', Except.ok.injEq] at hi
    subst hi
    exact ⟨i', hparse, hparse'⟩
  · rw [← normalForm_eq_of_parse hs, hsame, normalForm_eq_of_parse hs']

/-- Two spellings of one line: the first has a line break, a tab and zeros. -/
theorem spellings_of_load :
    Text.normalForm "\nload\tm<007> to r1".toList = Text.normalForm "load m<7> to r1".toList ∧
      parse "\nload\tm<007> to r1".toList = .error .nonCanonical ∧
      ∃ i, (parse "\nload\tm<007> to r1".toList = .ok i ∨
          parse "\nload\tm<007> to r1".toList = .error .nonCanonical) ∧
        (parse "load m<7> to r1".toList = .ok i ∨
          parse "load m<7> to r1".toList = .error .nonCanonical) := by
  have hsame : Text.normalForm "\nload\tm<007> to r1".toList =
      Text.normalForm "load m<7> to r1".toList := by decide
  have hpadded : parse "\nload\tm<007> to r1".toList = .error .nonCanonical :=
    parse_eq_nonCanonical_iff.mpr
      ⟨.load ⟨7⟩ ⟨1⟩, ofTokens_eq_ok_iff.mpr (by decide), by decide⟩
  have hplain : parse "load m<7> to r1".toList = .ok (.load ⟨7⟩ ⟨1⟩) :=
    parse_eq_ok_iff.mpr (by decide)
  refine ⟨hsame, hpadded, nonCanonical_up_to_normalForm.2.2.2.1 _ _ hsame (fun e he => ?_)
    fun e he => ?_⟩
  · rw [hpadded] at he
    exact (Except.error.inj he).symm
  · rw [hplain] at he
    cases he

end Instruction
end StressBench
