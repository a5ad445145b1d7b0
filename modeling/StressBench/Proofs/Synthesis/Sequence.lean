/-
# The sequence of instructions of a source

Drawing one instruction after another from a source passes through a sequence of
sources, each of which gives one instruction. Drawing `n` at once gives the first
`n` of this sequence and leaves the source that comes after them. What a draw
gives is the high part of a word times the number of values, so it is in range.

Key definitions: `Uniform.sourceAfter`, `Synthesis.sourceAt`, `Synthesis.instructionAt`,
`Operand.InRange`.
Key theorems: `Uniform.draw?_eq_high`, `Operand.inRange`, `Synthesis.instructions_eq`.
-/
import StressBench.Synthesis

namespace StressBench

/-! ### Draws -/

namespace Uniform

variable {σ : Type} [WordSource σ]

theorem high_lt {bits n : Nat} (pos : 0 < n) (v : BitVec bits) : (v.toNat * n) >>> bits < n := by
  rw [Nat.shiftRight_eq_div_pow, Nat.div_lt_iff_lt_mul (Nat.two_pow_pos bits), Nat.mul_comm n]
  exact Nat.mul_lt_mul_of_pos_right v.isLt pos

theorem accept?_eq_high {bits n : Nat} {pos : 0 < n} {v : BitVec bits} {r : Fin n}
    (h : accept? pos v = some r) : (r : Nat) = (v.toNat * n) >>> bits := by
  unfold accept? at h
  split at h
  · rw [← Option.some.inj h]
  · cases h

/-- The source after `k` words have been taken from it. -/
def sourceAfter (w : Width) (s : σ) : Nat → σ
  | 0 => s
  | k + 1 => (take w (sourceAfter w s k)).2

theorem sourceAfter_take (w : Width) (s : σ) :
    ∀ k, sourceAfter w (take w s).2 k = sourceAfter w s (k + 1)
  | 0 => rfl
  | k + 1 => by
    show (take w (sourceAfter w (take w s).2 k)).2 = _
    rw [sourceAfter_take w s k]
    rfl

theorem drawWithin_eq_high {w : Width} {n : Nat} {pos : 0 < n} :
    ∀ {attempts : Nat} {s s' : σ} {r : Fin n}, drawWithin w pos attempts s = some (r, s') →
      ∃ k, s' = sourceAfter w s (k + 1) ∧
        (r : Nat) = ((take w (sourceAfter w s k)).1.toNat * n) >>> w.bits
  | 0, _, _, _, h => by cases h
  | attempts + 1, s, s', r, h => by
    simp only [drawWithin] at h
    split at h
    · next r' hr =>
      obtain ⟨hrr, hs⟩ := Prod.mk.inj (Option.some.inj h)
      exact ⟨0, hs.symm, accept?_eq_high (hrr ▸ hr)⟩
    · obtain ⟨k, hs, hk⟩ := drawWithin_eq_high h
      rw [sourceAfter_take] at hs hk
      exact ⟨k + 1, hs, hk⟩

/-- **A draw that ends gives the high part of a word of the source times `n`.** The
word is the last one taken. -/
theorem draw?_eq_high {w : Width} {n : Nat} {pos : 0 < n} {s s' : σ} {r : Fin n}
    (h : draw? w n s pos = some (r, s')) :
    ∃ k, s' = sourceAfter w s (k + 1) ∧
      (r : Nat) = ((take w (sourceAfter w s k)).1.toNat * n) >>> w.bits :=
  drawWithin_eq_high h

end Uniform

/-- The operand is one of the ten registers or of the addresses up to 1000. -/
def Operand.InRange : Operand → Prop
  | .register r => (r.index : Nat) < 10
  | .address a => (a.value : Nat) ≤ 1000

theorem Operand.inRange : ∀ o : Operand, o.InRange
  | .register r => r.index.isLt
  | .address a => Nat.le_of_lt_succ a.value.isLt

/-! ### The sequence -/

namespace Synthesis

variable {σ : Type} [WordSource σ]

/-- The source after `k` instructions have been drawn one by one. -/
def sourceAt (s : σ) : Nat → σ
  | 0 => s
  | k + 1 => (nextInstruction (sourceAt s k)).2

/-- The instruction that is drawn after `k` others. -/
def instructionAt (s : σ) (k : Nat) : Instruction :=
  (nextInstruction (sourceAt s k)).1

theorem sourceAt_next (s : σ) : ∀ k, sourceAt (nextInstruction s).2 k = sourceAt s (k + 1)
  | 0 => rfl
  | k + 1 => by
    show (nextInstruction (sourceAt (nextInstruction s).2 k)).2 = _
    rw [sourceAt_next s k]
    rfl

theorem instructionAt_next (s : σ) (k : Nat) :
    instructionAt (nextInstruction s).2 k = instructionAt s (k + 1) := by
  rw [instructionAt, sourceAt_next, instructionAt]

/-- **Instructions drawn at once are those drawn one by one.** -/
theorem instructions_eq : ∀ (n : Nat) (s : σ),
    instructions n s = ((List.range n).map (instructionAt s), sourceAt s n)
  | 0, s => rfl
  | n + 1, s => by
    have hshift : (List.range n).map (instructionAt (nextInstruction s).2) =
        ((List.range n).map Nat.succ).map (instructionAt s) := by
      rw [List.map_map]
      exact List.map_congr_left fun k _ => instructionAt_next s k
    simp only [instructions, instructions_eq n, sourceAt_next, hshift, List.range_succ_eq_map,
      List.map_cons]
    rfl

theorem getElem?_instructions {n k : Nat} (s : σ) (h : k < n) :
    (instructions n s).1[k]? = some (instructionAt s k) := by
  rw [instructions_eq, List.getElem?_map, List.getElem?_range h]
  rfl

end Synthesis
end StressBench
