/-
# The shape of a generated corpus

A corpus that is generated for a number of lines has this number of lines: the
fixed first line, the instructions that the source gives one after another, and
`stop`. Each line between the first and the last reads as the instruction that
was drawn for its place, and neither of these two reads as one.

Key theorems: `Corpus.generate_of_fits`, `Corpus.generate_eq_ok`, `Corpus.position_of_parse`.
-/
import StressBench.Proofs.Corpus.Decoding
import StressBench.Proofs.Synthesis.Sequence

namespace StressBench

/-! ### Sizes -/

theorem bodyLength?_of_le {total : Nat} (h : minLines ≤ total) :
    bodyLength? total = some (total - minLines) := by
  rw [bodyLength?, if_neg (Nat.not_lt.mpr h)]

theorem bodyLength?_of_lt {total : Nat} (h : total < minLines) : bodyLength? total = none := by
  rw [bodyLength?, if_pos h]

namespace Corpus

variable {σ : Type} [WordSource σ] {memory : Memory}

/-! ### Generation -/

/-- A size that has room for its first and last line is generated if the memory grants
room for its body. -/
theorem generate_of_fits {total : Nat} (s : σ) (hmin : minLines ≤ total)
    (hfit : memory.grants (total - minLines) = true) :
    generate memory total s = (.ok ⟨(Synthesis.instructions (total - minLines) s).1⟩,
      (Synthesis.instructions (total - minLines) s).2) := by
  unfold generate
  rw [bodyLength?_of_le hmin]
  simp only [if_pos hfit]

theorem generate_eq_ok {total : Nat} {s : σ} {c : Corpus}
    (h : (generate memory total s).1 = .ok c) :
    minLines ≤ total ∧ c.body = (Synthesis.instructions (total - minLines) s).1 := by
  rcases Nat.lt_or_ge total minLines with hlt | hge
  · unfold generate at h
    rw [bodyLength?_of_lt hlt] at h
    cases h
  by_cases hfit : memory.grants (total - minLines) = true
  · rw [generate_of_fits s hge hfit] at h
    exact ⟨hge, by rw [← Except.ok.inj h]⟩
  · unfold generate at h
    rw [bodyLength?_of_le hge] at h
    simp only [if_neg hfit] at h
    cases h

theorem length_lines {total : Nat} {s : σ} {c : Corpus}
    (h : (generate memory total s).1 = .ok c) :
    c.lines.length = total - 2 := by
  rw [lines, List.length_map, (generate_eq_ok h).2, Synthesis.length_instructions]
  rfl

/-! ### The lines by position -/

theorem getElem?_splitOn_render (c : Corpus) {k : Nat} (h : k < c.lines.length) :
    (c.render.splitOn '\n')[k + 1]? = c.lines[k]? := by
  rw [splitOn_render, List.getElem?_cons_succ, List.getElem?_append_left h]

theorem getElem?_splitOn_last (c : Corpus) :
    (c.render.splitOn '\n')[c.lines.length + 1]? = some terminatorLine := by
  rw [splitOn_render, List.getElem?_cons_succ, List.getElem?_append_right (Nat.le_refl _),
    Nat.sub_self]
  rfl

/-- A line of a corpus that reads as an instruction is neither the first nor the
last. -/
theorem position_of_parse {c : Corpus} {k : Nat} {l : Text} {i : Instruction}
    (hl : (c.render.splitOn '\n')[k]? = some l) (hi : Instruction.parse l = .ok i) :
    0 < k ∧ k < c.lines.length + 1 := by
  have hlen : (c.render.splitOn '\n').length = c.lines.length + 2 := by
    rw [splitOn_render, List.length_cons, List.length_append, List.length_singleton]
  have hk : k < c.lines.length + 2 := hlen ▸ (List.getElem?_eq_some_iff.mp hl).1
  constructor
  · rcases Nat.eq_zero_or_pos k with h0 | h0
    · rw [h0, splitOn_render, List.getElem?_cons_zero, Option.some.injEq] at hl
      rw [← hl, parse_headerLine] at hi
      cases hi
    · exact h0
  · rcases Nat.lt_or_ge k (c.lines.length + 1) with h1 | h1
    · exact h1
    · rw [show k = c.lines.length + 1 by omega, getElem?_splitOn_last, Option.some.injEq] at hl
      rw [← hl, parse_terminatorLine] at hi
      cases hi

/-- **The shape of a generated corpus.** It has as many lines as were asked for,
the first and the last are fixed, each line between them reads as the instruction
that the source gives at its place, and no other line reads as one. Every operand
is in range, and so is every draw that ends, before it is made an operand. -/
theorem generated_shape {total : Nat} {s : σ} {c : Corpus}
    (h : (generate memory total s).1 = .ok c) :
    (c.render.splitOn '\n').length = total ∧ c.lineCount = total ∧
      (c.render.splitOn '\n')[0]? = some headerLine ∧
      (c.render.splitOn '\n')[total - 1]? = some terminatorLine ∧
      (∀ k, k < total - 2 → ∃ l, (c.render.splitOn '\n')[k + 1]? = some l ∧
        Instruction.parse l = .ok (Synthesis.instructionAt s k)) ∧
      (∀ k l i, (c.render.splitOn '\n')[k]? = some l → Instruction.parse l = .ok i →
        0 < k ∧ k < total - 1) ∧
      (∀ i ∈ c.body, ∀ o ∈ i.operands, o.InRange) ∧
      ∀ (w : Uniform.Width) (n : Nat) (pos : 0 < n) (t t' : σ) (r : Fin n),
        Uniform.draw? w n t pos = some (r, t') → ∃ k, t' = Uniform.sourceAfter w t (k + 1) ∧
          (r : Nat) = ((Uniform.take w (Uniform.sourceAfter w t k)).1.toNat * n) >>> w.bits ∧
          ((Uniform.take w (Uniform.sourceAfter w t k)).1.toNat * n) >>> w.bits < n := by
  obtain ⟨hmin, hbody⟩ := generate_eq_ok h
  have htotal : 2 ≤ total := hmin
  have hlen := length_lines h
  have hlast : total - 1 = c.lines.length + 1 := by omega
  refine ⟨?_, ?_, ?_, ?_, fun k hk => ?_, fun k l i hl hi => ?_, fun _ _ o _ => o.inRange,
    fun w n pos t t' r hr => ?_⟩
  · rw [splitOn_render, List.length_cons, List.length_append, List.length_singleton]
    omega
  · rw [lineCount, ← List.length_map Instruction.render, ← lines, hlen]
    omega
  · rw [splitOn_render, List.getElem?_cons_zero]
  · rw [hlast, getElem?_splitOn_last]
  · refine ⟨(Synthesis.instructionAt s k).render, ?_, Instruction.parse_render _⟩
    rw [getElem?_splitOn_render c (by omega), lines, List.getElem?_map, hbody,
      Synthesis.getElem?_instructions s (show k < total - minLines from hk)]
    rfl
  · have := position_of_parse hl hi
    omega
  · obtain ⟨k, ht, hk⟩ := Uniform.draw?_eq_high hr
    exact ⟨k, ht, hk, Uniform.high_lt pos _⟩

/-- A tape from which `store` is drawn with the highest register and address. Its
first word of 64 bits and its first of 32 are rejected. -/
def storeTape : Tape where
  words := [0xFFFFFFFF, 0xFFFFFFFF, 0, 0xF0000000, 0, 0xF0000000, 0xFFFFFFFF, 0xFFF00000]

/-- The corpus of three lines from this tape, with room for its one instruction. -/
theorem storeTape_shape :
    (generate (.upTo 1) 3 storeTape).1 = .ok ⟨[.store ⟨Fin.last 9⟩ ⟨Fin.last 1000⟩]⟩ ∧
      ((Corpus.mk [.store ⟨Fin.last 9⟩ ⟨Fin.last 1000⟩]).render.splitOn '\n').length = 3 ∧
      ∃ l, ((Corpus.mk [.store ⟨Fin.last 9⟩ ⟨Fin.last 1000⟩]).render.splitOn '\n')[1]? = some l ∧
        Instruction.parse l = .ok (Synthesis.instructionAt storeTape 0) := by
  have h : (generate (.upTo 1) 3 storeTape).1 = .ok ⟨[.store ⟨Fin.last 9⟩ ⟨Fin.last 1000⟩]⟩ := rfl
  have hshape := generated_shape h
  exact ⟨h, hshape.1, hshape.2.2.2.2.1 0 (by decide)⟩

end Corpus
end StressBench
