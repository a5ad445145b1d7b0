/-
# What is accepted as a number of lines

A text gives a number of lines if it is, blanks around it aside, the numeral of a number that
is a word and leaves room for the first and the last line. A numeral of a smaller number is told
to be too few, and every other text to be no number; the sentence quotes the text as it was
given.

Key definitions: `CommandLine.Counts`, `CommandLine.numLinesOrSentence`.
Key theorems: `CommandLine.parseNumLines_cases`, `CommandLine.parseNumLines_eq_ok_iff`,
`CommandLine.message_injective`, `CommandLine.numLines_in_range`.
-/
import Mathlib
import StressBench.CommandLine.Parse
import StressBench.Proofs.Number.Reading
import StressBench.Proofs.Text.Splitting

namespace StressBench
namespace CommandLine

/-- A text that is the numeral of a number with blanks around it. -/
def Counts (text : Text) (n : Nat) : Prop :=
  ∃ s, text.Surrounds s ∧ Decimal.Writes s n

/-- The number of lines that a text gives, or the sentence that says why it gives none. -/
def numLinesOrSentence (text : Text) : Except String Nat :=
  (parseNumLines text).mapError fun fault => (ValueFault.numLines fault).message text

variable {text : Text} {n : Nat}

/-! ### Numbers -/

theorem isWord_of_writes {s : Text} (h : Decimal.Writes s n) : Text.IsWord s := by
  obtain ⟨ds, hs, hds, -⟩ := h
  have hne : ds ≠ [] := (Decimal.isNumeral_iff.mp hds).1
  have hblank := Decimal.noBlank_of_isNumeral hds
  obtain rfl | rfl := hs
  · exact ⟨hne, hblank⟩
  · exact ⟨List.cons_ne_nil _ _, List.forall_mem_cons.mpr ⟨by decide, hblank⟩⟩

theorem counts_iff : Counts text n ↔ Decimal.Writes (Text.trim text) n :=
  Text.exists_surrounds_iff (fun _ => isWord_of_writes) text

theorem Counts.unique {m : Nat} (hn : Counts text n) (hm : Counts text m) : n = m :=
  (counts_iff.mp hn).unique (counts_iff.mp hm)

theorem readBelow_trim_iff : Decimal.readBelow UInt64.size (Text.trim text) = .ok n ↔
    Counts text n ∧ n < UInt64.size := by
  rw [counts_iff]
  exact Decimal.readBelow_eq_ok_iff_writes (by decide)

theorem parseNumLines_of_counts (h : Counts text n) (hn : n < UInt64.size) :
    parseNumLines text = if n < minLines then .error (.tooFew n) else .ok n := by
  unfold parseNumLines
  rw [readBelow_trim_iff.mpr ⟨h, hn⟩]

theorem parseNumLines_of_not_counts (h : ∀ n, Counts text n → UInt64.size ≤ n) :
    parseNumLines text = .error .notANumber := by
  unfold parseNumLines
  split
  · rfl
  · next n hread =>
    obtain ⟨hcounts, hn⟩ := readBelow_trim_iff.mp hread
    exact absurd hn (Nat.not_lt.mpr (h n hcounts))

/-- A text is judged by the word that it is the numeral of, or it is the numeral of none and
refused. -/
theorem parseNumLines_cases (text : Text) :
    (∃ n, Counts text n ∧ n < UInt64.size ∧
      parseNumLines text = if n < minLines then .error (.tooFew n) else .ok n) ∨
    (∀ n, Counts text n → UInt64.size ≤ n) ∧ parseNumLines text = .error .notANumber := by
  by_cases hword : ∃ n, Counts text n ∧ n < UInt64.size
  · obtain ⟨n, hcounts, hn⟩ := hword
    exact .inl ⟨n, hcounts, hn, parseNumLines_of_counts hcounts hn⟩
  · have hlarge : ∀ n, Counts text n → UInt64.size ≤ n := fun n hcounts =>
      Nat.not_lt.mp fun hn => hword ⟨n, hcounts, hn⟩
    exact .inr ⟨hlarge, parseNumLines_of_not_counts hlarge⟩

theorem parseNumLines_eq_ok_iff :
    parseNumLines text = .ok n ↔ Counts text n ∧ minLines ≤ n ∧ n < UInt64.size := by
  constructor
  · intro h
    obtain ⟨m, hcounts, hm, hread⟩ | ⟨-, hnone⟩ := parseNumLines_cases text
    · rw [hread] at h
      split at h
      · cases h
      · next hmin =>
        cases h
        exact ⟨hcounts, Nat.not_lt.mp hmin, hm⟩
    · cases hnone.symm.trans h
  · rintro ⟨hcounts, hmin, hn⟩
    rw [parseNumLines_of_counts hcounts hn, if_neg (Nat.not_lt.mpr hmin)]

theorem parseNumLines_eq_tooFew_iff :
    parseNumLines text = .error (.tooFew n) ↔ Counts text n ∧ n < minLines := by
  constructor
  · intro h
    obtain ⟨m, hcounts, -, hread⟩ | ⟨-, hnone⟩ := parseNumLines_cases text
    · rw [hread] at h
      split at h
      · next hmin =>
        cases h
        exact ⟨hcounts, hmin⟩
      · cases h
    · cases hnone.symm.trans h
  · rintro ⟨hcounts, hmin⟩
    have hword : minLines < UInt64.size := by decide
    rw [parseNumLines_of_counts hcounts (Nat.lt_trans hmin hword), if_pos hmin]

theorem parseNumLines_eq_notANumber_iff : parseNumLines text = .error .notANumber ↔
    (¬ ∃ n, Counts text n) ∨ ∃ n, Counts text n ∧ UInt64.size ≤ n := by
  constructor
  · intro h
    obtain ⟨m, -, -, hread⟩ | ⟨hlarge, -⟩ := parseNumLines_cases text
    · rw [hread] at h
      split at h <;> cases h
    · by_cases hsome : ∃ n, Counts text n
      · obtain ⟨n, hcounts⟩ := hsome
        exact .inr ⟨n, hcounts, hlarge n hcounts⟩
      · exact .inl hsome
  · rintro (hnone | ⟨n, hn, hlarge⟩)
    · exact parseNumLines_of_not_counts fun n hn => absurd ⟨n, hn⟩ hnone
    · exact parseNumLines_of_not_counts fun m hm => hm.unique hn ▸ hlarge

/-- The numerals on the two sides of the largest word, in blanks that are not ASCII. -/
example : parseNumLines "\u2003+0018446744073709551615\u00A0".toList = .ok (UInt64.size - 1) ∧
    parseNumLines "18446744073709551616".toList = .error .notANumber := ⟨rfl, rfl⟩

/-! ### Sentences -/

theorem head?_toList_append {s : String} (h : s.toList.head?.isSome = true) (t : String) :
    (s ++ t).toList.head? = s.toList.head? := by
  rw [String.toList_append, List.head?_append, Option.or_of_isSome h]

/-- The two sentences do not begin alike. -/
theorem message_notANumber_ne (n : Nat) : (ValueFault.numLines .notANumber).message text ≠
    (ValueFault.numLines (.tooFew n)).message text := by
  unfold ValueFault.message
  intro hsame
  have hfirst := congrArg (fun sentence => sentence.toList.head?) hsame
  simp only [String.append_assoc] at hfirst
  rw [head?_toList_append (by decide), head?_toList_append (by decide)] at hfirst
  exact absurd hfirst (by decide)

theorem message_injective {f g : NumLinesFault}
    (h : (ValueFault.numLines f).message text = (ValueFault.numLines g).message text) :
    f = g := by
  cases f with
  | notANumber =>
    cases g with
    | notANumber => rfl
    | tooFew n => exact absurd h (message_notANumber_ne n)
  | tooFew m =>
    cases g with
    | notANumber => exact absurd h.symm (message_notANumber_ne m)
    | tooFew n => rw [Nat.repr_injective ((String.append_right_inj _).mp h)]

theorem numLinesOrSentence_eq_ok_iff :
    numLinesOrSentence text = .ok n ↔ parseNumLines text = .ok n := by
  unfold numLinesOrSentence
  cases parseNumLines text with
  | ok m => exact ⟨fun h => congrArg _ (Except.ok.inj h), fun h => congrArg _ (Except.ok.inj h)⟩
  | error fault => exact ⟨nofun, nofun⟩

theorem numLinesOrSentence_eq_error_iff {fault : NumLinesFault} :
    numLinesOrSentence text = .error ((ValueFault.numLines fault).message text) ↔
      parseNumLines text = .error fault := by
  unfold numLinesOrSentence
  cases parseNumLines text with
  | ok n => exact ⟨nofun, nofun⟩
  | error other =>
    -- the sentence tells the fault
    exact ⟨fun h => congrArg _ (message_injective (Except.error.inj h)), fun h => h ▸ rfl⟩

theorem message_tooFew (n : Nat) : (ValueFault.numLines (.tooFew n)).message text =
    "corpus needs at least 2 lines (header and terminator), got " ++ toString n :=
  congrArg (· ++ toString n) (by decide :
    "corpus needs at least " ++ toString minLines ++ " lines (header and terminator), got " =
      "corpus needs at least 2 lines (header and terminator), got ")

/-- **Exactly the numbers in range are accepted.** A text gives a number of lines if it is the
numeral of this number, blanks around it aside, and the number is a word and not 0 or 1. A text
that is no numeral, or that of a number that is no word, is told to be none and quoted as it is;
a numeral of 0 or 1 is told to be too few. The reading can be done in words, of which none
wraps. -/
theorem numLines_in_range (text : Text) :
    (∀ n, numLinesOrSentence text = .ok n ↔ Counts text n ∧ 2 ≤ n ∧ n < UInt64.size) ∧
    (numLinesOrSentence text =
        .error ("`" ++ String.ofList text ++ "` is not a non-negative integer") ↔
      (¬ ∃ n, Counts text n) ∨ ∃ n, Counts text n ∧ UInt64.size ≤ n) ∧
    (∀ n, numLinesOrSentence text =
        .error ("corpus needs at least 2 lines (header and terminator), got " ++ toString n) ↔
      Counts text n ∧ (n = 0 ∨ n = 1)) ∧
    (∀ m n, Counts text m → Counts text n → m = n) ∧
    Decimal.readBelow UInt64.size (Text.trim text) =
      (Decimal.readWord (Text.trim text)).map UInt64.toNat := by
  refine ⟨fun n => ?_, ?_, fun n => ?_, fun m n hm hn => hm.unique hn,
    Decimal.readBelow_eq_readWord _⟩
  · rw [numLinesOrSentence_eq_ok_iff]
    exact parseNumLines_eq_ok_iff
  · have hanswer := @numLinesOrSentence_eq_error_iff text .notANumber
    exact hanswer.trans parseNumLines_eq_notANumber_iff
  · rw [← message_tooFew, numLinesOrSentence_eq_error_iff, parseNumLines_eq_tooFew_iff]
    have hfew : n < minLines ↔ n = 0 ∨ n = 1 := by
      unfold minLines
      omega
    rw [hfew]

end CommandLine
end StressBench
