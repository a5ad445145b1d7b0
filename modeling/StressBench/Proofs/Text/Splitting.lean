/-
# Splitting a text and putting it together

Words with one blank between them have these words as their tokens, and a file
text splits at its line breaks into the lines that it was made of, provided that
no line has a line break of its own. The second splitting has an inverse: a text
is the file text of its own lines. A word with blanks around it is trimmed to the word.

Key definitions: `Text.IsWord`, `Text.Surrounds`.
Key theorems: `Text.isWord_of_mem_tokens`, `Text.tokens_intercalate`, `Text.Surrounds.trim_eq`,
`splitOn_fileText`, `eq_fileText_of_splitOn`.
-/
import StressBench.Sink

namespace StressBench

/-! ### Tokens -/

namespace Text

/-- One or more characters, none of them blank. -/
def IsWord (w : Text) : Prop := w ≠ [] ∧ ∀ c ∈ w, isBlank c = false

theorem isWord_iff (w : Text) : IsWord w ↔ (!w.isEmpty && w.all (!isBlank ·)) = true := by
  simp [IsWord]

instance (w : Text) : Decidable (IsWord w) :=
  decidable_of_iff _ (isWord_iff w).symm

theorem IsWord.not_mem {w : Text} (h : IsWord w) {c : Char} (hc : isBlank c = true) : c ∉ w := by
  intro hm
  have hb := h.2 c hm
  rw [hc] at hb
  cases hb

theorem tokens_append_blank (s t : Text) {c : Char} (hc : isBlank c = true) :
    tokens (s ++ c :: t) = tokens s ++ tokens t := by
  unfold tokens
  rw [List.splitOnP_append_cons s t hc, List.filter_append]

theorem tokens_of_isWord {w : Text} (h : IsWord w) : tokens w = [w] := by
  obtain ⟨hne, hb⟩ := h
  rw [tokens, List.splitOnP_eq_singleton hb]
  simp [hne]

theorem isBlank_of_mem_splitOnP {s t : Text} (h : t ∈ s.splitOnP isBlank) :
    ∀ c ∈ t, isBlank c = false := by
  induction s generalizing t with
  | nil =>
    rw [List.splitOnP_nil, List.mem_singleton] at h
    subst h
    exact nofun
  | cons x s ih =>
    rw [List.splitOnP_cons_eq_if_modifyHead] at h
    obtain ⟨first, rest, hsplit⟩ := List.exists_cons_of_ne_nil (List.splitOnP_ne_nil isBlank s)
    rw [hsplit, List.modifyHead_cons] at h
    rw [hsplit] at ih
    split at h
    · rcases List.mem_cons.mp h with rfl | hmem
      · exact nofun
      · exact ih hmem
    · next hx =>
      rcases List.mem_cons.mp h with rfl | hmem
      · exact List.forall_mem_cons.mpr ⟨Bool.eq_false_iff.mpr hx, ih List.mem_cons_self⟩
      · exact ih (List.mem_cons_of_mem _ hmem)

theorem isWord_of_mem_tokens {s t : Text} (h : t ∈ tokens s) : IsWord t :=
  ⟨tokens_ne_nil h, isBlank_of_mem_splitOnP (List.mem_filter.mp h).1⟩

/-- **Words are read back.** The tokens of words with one space between them are
the words. -/
theorem tokens_intercalate : ∀ ws : List Text, (∀ w ∈ ws, IsWord w) →
    tokens ([' '].intercalate ws) = ws
  | [], _ => by simp [tokens]
  | [w], h => by
    rw [List.intercalate_singleton]
    exact tokens_of_isWord (h w List.mem_cons_self)
  | w :: w' :: ws, h => by
    have hw : IsWord w := h w List.mem_cons_self
    have ih := tokens_intercalate (w' :: ws) fun x hx => h x (List.mem_cons_of_mem _ hx)
    rw [List.intercalate_cons_cons, List.append_assoc, List.singleton_append,
      tokens_append_blank _ _ (by decide), ih, tokens_of_isWord hw]
    rfl

/-- A line of words has no blank but the space. -/
theorem not_mem_intercalate {c : Char} (hc : isBlank c = true) (hs : c ≠ ' ') :
    ∀ ws : List Text, (∀ w ∈ ws, IsWord w) → c ∉ [' '].intercalate ws
  | [], _ => by simp
  | [w], h => by
    rw [List.intercalate_singleton]
    exact (h w List.mem_cons_self).not_mem hc
  | w :: w' :: ws, h => by
    have ih := not_mem_intercalate hc hs (w' :: ws) fun x hx => h x (List.mem_cons_of_mem _ hx)
    have hw : c ∉ w := (h w List.mem_cons_self).not_mem hc
    rw [List.intercalate_cons_cons, List.mem_append, List.mem_append, List.mem_singleton]
    rintro ((hm | hm) | hm)
    · exact hw hm
    · exact hs hm
    · exact ih hm

/-- A text keeps its first character when it is trimmed, if that is no blank. -/
theorem trim_cons {c : Char} (hc : isBlank c = false) (s : Text) :
    trim (c :: s) = c :: trimEnd s := by
  have hneg : ¬ isBlank c = true := by simp [hc]
  unfold trim trimEnd
  rw [List.dropWhile_cons_of_neg hneg, List.reverse_cons, List.dropWhile_append]
  split
  · next hempty =>
    rw [List.isEmpty_iff.mp hempty, List.dropWhile_cons_of_neg hneg]
    rfl
  · simp

/-- A text that is another one with blanks around it. -/
def Surrounds (s inner : Text) : Prop :=
  ∃ before after : Text, (∀ c ∈ before ++ after, isBlank c = true) ∧ s = before ++ inner ++ after

theorem surrounds_trim (s : Text) : s.Surrounds (trim s) := by
  refine ⟨s.takeWhile isBlank, ((s.dropWhile isBlank).reverse.takeWhile isBlank).reverse,
    fun c hc => ?_, ?_⟩
  · rw [List.mem_append, List.mem_reverse] at hc
    have hall : ∀ l : Text, ∀ c ∈ l.takeWhile isBlank, isBlank c = true := fun l =>
      List.all_eq_true.mp List.all_takeWhile
    exact hc.elim (hall _ c) (hall _ c)
  · unfold trim trimEnd
    rw [List.append_assoc, ← List.reverse_append, List.takeWhile_append_dropWhile,
      List.reverse_reverse, List.takeWhile_append_dropWhile]

theorem Surrounds.trim_eq {s w : Text} (h : s.Surrounds w) (hw : IsWord w) : trim s = w := by
  obtain ⟨before, after, hblank, rfl⟩ := h
  rw [List.forall_mem_append] at hblank
  have hrev : ∀ c ∈ after.reverse, isBlank c = true := fun c hc =>
    hblank.2 c (List.mem_reverse.mp hc)
  have hfirst : (w ++ after).dropWhile isBlank = w ++ after := by
    obtain ⟨c, t, rfl⟩ := List.exists_cons_of_ne_nil hw.1
    rw [List.cons_append, List.dropWhile_cons_of_neg (by simp [hw.2 c List.mem_cons_self])]
  have hlast : w.reverse.dropWhile isBlank = w.reverse := by
    obtain ⟨c, t, hrev⟩ := List.exists_cons_of_ne_nil (List.reverse_ne_nil_iff.mpr hw.1)
    have hc : isBlank c = false := hw.2 c (List.mem_reverse.mp (hrev ▸ List.mem_cons_self))
    rw [hrev, List.dropWhile_cons_of_neg (by simp [hc])]
  unfold trim trimEnd
  rw [List.append_assoc, List.dropWhile_append_of_pos hblank.1, hfirst, List.reverse_append,
    List.dropWhile_append_of_pos hrev, hlast, List.reverse_reverse]

/-- Words of some kind are found between blanks by trimming. -/
theorem exists_surrounds_iff {P : Text → Prop} (hword : ∀ s, P s → IsWord s) (text : Text) :
    (∃ s, text.Surrounds s ∧ P s) ↔ P (trim text) := by
  constructor
  · rintro ⟨s, hs, hP⟩
    rwa [hs.trim_eq (hword s hP)]
  · exact fun hP => ⟨trim text, surrounds_trim text, hP⟩

end Text

/-! ### Lines -/

theorem fileText_eq_intercalate (header : Text) (lines : List Text) (terminator : Text) :
    fileText header lines terminator = ['\n'].intercalate (header :: (lines ++ [terminator])) := by
  induction lines generalizing header with
  | nil => simp [fileText]
  | cons l ls ih =>
    rw [List.cons_append, List.intercalate_cons_cons, ← ih l]
    simp [fileText]

/-- **Lines are read back.** A file text splits into its header, its lines and its
terminator. -/
theorem splitOn_fileText {header terminator : Text} {lines : List Text} (hh : '\n' ∉ header)
    (hl : ∀ l ∈ lines, '\n' ∉ l) (ht : '\n' ∉ terminator) :
    (fileText header lines terminator).splitOn '\n' = header :: (lines ++ [terminator]) := by
  rw [fileText_eq_intercalate]
  refine List.splitOn_intercalate '\n' (fun l hm => ?_) (List.cons_ne_nil _ _)
  rcases List.mem_cons.mp hm with rfl | hm
  · exact hh
  · rcases List.mem_append.mp hm with hm | hm
    · exact hl l hm
    · rw [List.mem_singleton.mp hm]
      exact ht

theorem eq_fileText_of_splitOn {text header terminator : Text} {lines : List Text}
    (h : text.splitOn '\n' = header :: (lines ++ [terminator])) :
    text = fileText header lines terminator := by
  rw [fileText_eq_intercalate, ← h, List.intercalate_splitOn]

end StressBench
