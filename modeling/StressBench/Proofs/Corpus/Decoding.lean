/-
# A corpus text is decoded uniquely

The text of a corpus is the file text of its lines, and none of them has a line
break, so the text splits into the fixed first line, the lines of the body and
`stop`. The lines of the body read back as the instructions that they were
written for. So a text of this form belongs to one body, and to no other.

Key definitions: `Corpus.interior`, `Corpus.IsText`.
Key theorems: `Corpus.render_eq_fileText`, `Corpus.splitOn_render`, `Corpus.isText_iff`,
`Corpus.render_injective`.
-/
import StressBench.Corpus
import StressBench.Proofs.Grammar.Language
import StressBench.Proofs.Sink.Writing

namespace StressBench

/-! ### The lines of a corpus -/

theorem Instruction.newline_not_mem_render (i : Instruction) : '\n' ∉ i.render :=
  Text.not_mem_intercalate (by decide) (by decide) _ i.isWord_words

theorem newline_not_mem_headerLine : '\n' ∉ headerLine := by decide +kernel

theorem newline_not_mem_terminatorLine : '\n' ∉ terminatorLine := by decide

theorem parse_headerLine :
    Instruction.parse headerLine = .error (.unknownMnemonic "comment".toList) := by rfl

theorem parse_terminatorLine :
    Instruction.parse terminatorLine = .error (.unknownMnemonic terminatorLine) := rfl

namespace Corpus

theorem newline_not_mem_lines (c : Corpus) : ∀ l ∈ c.lines, '\n' ∉ l := by
  intro l hl
  obtain ⟨i, -, rfl⟩ := List.mem_map.mp hl
  exact i.newline_not_mem_render

/-! ### The text of a corpus -/

theorem lines_feed (c : Corpus) : c.feed.lines = c.lines :=
  LineFeed.lines_ofList c.lines

theorem bytes_eq_encode (c : Corpus) :
    c.bytes = Utf8.encode (fileText headerLine c.lines terminatorLine) := by
  have h := (writeLines_of_fits headerLine c.feed terminatorLine
    (Sink.fits_of_unlimited (s := Sink.unlimited) rfl _)).2
  have hempty : Sink.unlimited.taken = [] := rfl
  rw [lines_feed, hempty, List.nil_append] at h
  exact h

theorem render_eq_fileText (c : Corpus) :
    c.render = fileText headerLine c.lines terminatorLine := by
  rw [render, bytes_eq_encode, Utf8.decodeLossy_encode]

theorem splitOn_render (c : Corpus) :
    c.render.splitOn '\n' = headerLine :: (c.lines ++ [terminatorLine]) := by
  rw [render_eq_fileText]
  exact splitOn_fileText newline_not_mem_headerLine c.newline_not_mem_lines
    newline_not_mem_terminatorLine

/-! ### Decoding -/

/-- The lines of a text between the first and the last. -/
def interior (t : Text) : List Text :=
  (t.splitOn '\n').tail.dropLast

/-- The text has at least two lines, its first and last are those of a corpus and
all between them read as instructions. -/
structure IsText (t : Text) : Prop where
  two_le : 2 ≤ (t.splitOn '\n').length
  head : (t.splitOn '\n').head? = some headerLine
  last : (t.splitOn '\n').getLast? = some terminatorLine
  parses : ∀ l ∈ interior t, ∃ i, Instruction.parse l = .ok i

theorem interior_render (c : Corpus) : interior c.render = c.lines := by
  rw [interior, splitOn_render, List.tail_cons, List.dropLast_concat]

theorem isText_render (c : Corpus) : IsText c.render where
  two_le := by simp [splitOn_render]
  head := by rw [splitOn_render, List.head?_cons]
  last := by rw [splitOn_render, ← List.cons_append, List.getLast?_concat]
  parses l hl := by
    rw [interior_render] at hl
    obtain ⟨i, -, rfl⟩ := List.mem_map.mp hl
    exact ⟨i, i.parse_render⟩

/-- A text with the first and the last line of a corpus is cut by them. -/
theorem IsText.splitOn_eq {t : Text} (h : IsText t) :
    t.splitOn '\n' = headerLine :: (interior t ++ [terminatorLine]) := by
  obtain ⟨hlen, hhead, hlast, -⟩ := h
  unfold interior
  generalize t.splitOn '\n' = ls at hlen hhead hlast ⊢
  rcases ls with _ | ⟨x, xs⟩
  · cases hhead
  have hne : xs ≠ [] := by
    rintro rfl
    simp at hlen
  rw [List.head?_cons, Option.some.injEq] at hhead
  rw [List.getLast?_cons_of_ne_nil hne, List.getLast?_eq_some_getLast hne, Option.some.injEq]
    at hlast
  rw [hhead, List.tail_cons, ← hlast, List.dropLast_concat_getLast]

/-- Lines that all read as instructions are the lines of what they read as. -/
theorem lines_of_parse : ∀ {ls : List Text} {b : List Instruction},
    ls.map Instruction.parse = b.map .ok → (Corpus.mk b).lines = ls
  | [], [], _ => rfl
  | [], _ :: _, h => by cases h
  | _ :: _, [], h => by cases h
  | l :: ls, i :: b, h => by
    rw [List.map_cons, List.map_cons, List.cons.injEq] at h
    have ih : b.map Instruction.render = ls := lines_of_parse h.2
    show i.render :: b.map Instruction.render = l :: ls
    rw [Instruction.render_of_parse h.1, ih]

theorem exists_body : ∀ {ls : List Text}, (∀ l ∈ ls, ∃ i, Instruction.parse l = .ok i) →
    ∃ b : List Instruction, ls.map Instruction.parse = b.map .ok
  | [], _ => ⟨[], rfl⟩
  | l :: ls, h => by
    obtain ⟨i, hi⟩ := h l List.mem_cons_self
    obtain ⟨b, hb⟩ := exists_body fun x hx => h x (List.mem_cons_of_mem _ hx)
    exact ⟨i :: b, by rw [List.map_cons, hi, hb, List.map_cons]⟩

theorem map_parse_lines (c : Corpus) : c.lines.map Instruction.parse = c.body.map .ok := by
  rw [lines, List.map_map]
  exact List.map_congr_left fun i _ => i.parse_render

theorem render_of_isText {t : Text} (h : IsText t) {b : List Instruction}
    (hb : (interior t).map Instruction.parse = b.map .ok) : (Corpus.mk b).render = t := by
  rw [render_eq_fileText, lines_of_parse hb]
  exact (eq_fileText_of_splitOn h.splitOn_eq).symm

theorem isText_iff (t : Text) : IsText t ↔ ∃ b, t = (Corpus.mk b).render := by
  constructor
  · intro h
    obtain ⟨b, hb⟩ := exists_body h.parses
    exact ⟨b, (render_of_isText h hb).symm⟩
  · rintro ⟨b, hb⟩
    rw [hb]
    exact isText_render _

theorem map_parse_interior {t : Text} {b : List Instruction} (h : t = (Corpus.mk b).render) :
    (interior t).map Instruction.parse = b.map .ok := by
  rw [h, interior_render, map_parse_lines]

theorem render_injective {c c' : Corpus} (h : c.render = c'.render) : c.body = c'.body := by
  have hb := c.map_parse_lines
  rw [← interior_render, h, interior_render, map_parse_lines] at hb
  exact (List.map_inj_right fun _ _ => Except.ok.inj).mp hb.symm

/-- **A corpus text is decoded uniquely.** A text has the form of a corpus exactly
when it is the text of one; its body is unique and is what the lines between the
first and the last read as; lines that all read as instructions come back as the
lines of the corpus of these; and corpora with one text have one body. -/
theorem decodes_uniquely :
    (∀ t : Text, IsText t ↔ ∃ b, t = (Corpus.mk b).render) ∧
      (∀ (t : Text) (b : List Instruction), t = (Corpus.mk b).render →
        (interior t).map Instruction.parse = b.map .ok ∧
          ∀ b', t = (Corpus.mk b').render → b' = b) ∧
      (∀ ls : List Text, (∀ l ∈ ls, ∃ i, Instruction.parse l = .ok i) →
        ∃ b : List Instruction, ls.map Instruction.parse = b.map .ok ∧
          (Corpus.mk b).render.splitOn '\n' = headerLine :: (ls ++ [terminatorLine])) ∧
      ∀ c c' : Corpus, c.render = c'.render → c.body = c'.body := by
  refine ⟨isText_iff, fun t b h => ⟨map_parse_interior h, fun b' h' => ?_⟩, fun ls h => ?_,
    fun c c' => render_injective⟩
  · have hr : (Corpus.mk b').render = (Corpus.mk b).render := by rw [← h', h]
    exact render_injective hr
  · obtain ⟨b, hb⟩ := exists_body h
    exact ⟨b, hb, by rw [splitOn_render, lines_of_parse hb]⟩

/-- A corpus of two lines that are written alike but for their operands. -/
theorem two_stores_decoded :
    (∀ l ∈ ["store r9 to m<0>".toList, "store r9 to m<1000>".toList],
        ∃ i, Instruction.parse l = .ok i) ∧
      ∃ b : List Instruction,
        ["store r9 to m<0>".toList, "store r9 to m<1000>".toList].map Instruction.parse =
            b.map .ok ∧
          (Corpus.mk b).render.splitOn '\n' = headerLine ::
            (["store r9 to m<0>".toList, "store r9 to m<1000>".toList] ++ [terminatorLine]) := by
  have h : ∀ l ∈ ["store r9 to m<0>".toList, "store r9 to m<1000>".toList],
      ∃ i, Instruction.parse l = .ok i := by
    intro l hl
    simp only [List.mem_cons, List.not_mem_nil, or_false] at hl
    rcases hl with rfl | rfl
    · exact ⟨.store ⟨9⟩ ⟨0⟩, Instruction.parse_eq_ok_iff.mpr (by decide)⟩
    · exact ⟨.store ⟨9⟩ ⟨1000⟩, Instruction.parse_eq_ok_iff.mpr (by decide)⟩
  exact ⟨h, decodes_uniquely.2.2.1 _ h⟩

end Corpus
end StressBench
