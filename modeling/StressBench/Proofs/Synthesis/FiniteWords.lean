/-
# A finite list of words is enough

A draw goes on until a word is accepted, and nothing in it bounds how long. On a tape it ends all
the same: behind the list come zeros, which are not rejected, so that every word that is rejected
has used up some of the list. The measure is what is left of the list, and it is carried through
the draws of an instruction and through the instructions. So the words rejected are no more than
the list and one, as a word of 64 bits may begin with the last of the list; those accepted are at
most eight for an instruction.

Key definition: `Uniform.wordsRejected`.
Key theorems: `Uniform.wordsTaken_eq`, `Uniform.wordsRejected_le`, `Instruction.wordCount_le`,
`Synthesis.finite_words_suffice`.
-/
import StressBench.Proofs.Synthesis.Accounting
import StressBench.Proofs.Synthesis.Uniformity

namespace StressBench

namespace Uniform

/-! ### Words rejected and words accepted -/

/-- The 32-bit words that trials reject together. -/
def wordsRejected (es : List Trial) : Nat :=
  (es.map fun e => e.rejected * e.draw.width.words).sum

theorem wordsRejected_cons (e : Trial) (es : List Trial) :
    wordsRejected (e :: es) = e.rejected * e.draw.width.words + wordsRejected es := by
  rw [wordsRejected, List.map_cons, List.sum_cons, wordsRejected]

theorem wordsTaken_eq : ∀ es : List Trial,
    wordsTaken es = wordsRejected es + wordCount (es.map Trial.draw)
  | [] => rfl
  | e :: es => by
    have hwords : e.words = e.rejected * e.draw.width.words + e.draw.width.words :=
      Nat.succ_mul _ _
    rw [wordsTaken_cons, wordsTaken_eq es, wordsRejected_cons, List.map_cons, wordCount_cons]
    omega

/-- **Rejections use up the list.** If every rejected word begins among the first `n` words of the
stream, those rejected from the place `p` on are at most the ones left there, and one more. -/
theorem wordsRejected_le {n : Nat} : ∀ {es : List Trial} {p : Nat},
    (∀ x ∈ placed p es, ∀ j < x.2.rejected, x.1 + j * x.2.draw.width.words < n) →
    wordsRejected es ≤ n + 1 - p
  | [], p, _ => Nat.zero_le _
  | e :: es, p, h => by
    obtain ⟨hfirst, hothers⟩ := List.forall_mem_cons.mp h
    have ih : wordsRejected es ≤ n + 1 - (p + e.words) := wordsRejected_le hothers
    have hwords : e.words = e.rejected * e.draw.width.words + e.draw.width.words :=
      Nat.succ_mul _ _
    have hwidth := e.draw.width.words_le
    rw [wordsRejected_cons]
    rcases Nat.eq_zero_or_pos e.rejected with hnone | hsome
    · rw [hnone, Nat.zero_mul] at hwords ⊢
      omega
    · -- the last word that is rejected begins in the list
      obtain ⟨k, hk⟩ := Nat.exists_eq_succ_of_ne_zero (Nat.ne_of_gt hsome)
      have hlast : p + k * e.draw.width.words < n := hfirst k (show k < e.rejected by omega)
      have hmul : e.rejected * e.draw.width.words =
          k * e.draw.width.words + e.draw.width.words := by rw [hk, Nat.succ_mul]
      omega

end Uniform

/-- An instruction takes at most eight words when none is rejected. -/
theorem Instruction.wordCount_le (i : Instruction) : i.wordCount ≤ 8 := by
  cases i <;> simp [wordCount, operands, Operand.wordCount]

theorem Instruction.wordCount_flatMap_le : ∀ is : List Instruction,
    Uniform.wordCount (is.flatMap draws) ≤ 8 * is.length
  | [] => Nat.le_refl 0
  | i :: is => by
    have hfirst := i.wordCount_le
    have hothers := wordCount_flatMap_le is
    have happend : Uniform.wordCount (i.draws ++ is.flatMap draws) =
        Uniform.wordCount i.draws + Uniform.wordCount (is.flatMap draws) := by
      rw [Uniform.wordCount, List.map_append, List.sum_append]
      rfl
    rw [List.flatMap_cons, happend, i.wordCount_draws, List.length_cons]
    omega

namespace Synthesis

open StressBench.Uniform (Account Ends accept? placed wordsTaken)
open WordSource (after word)

/-- **A finite list of words is enough,** for any number of instructions. Every draw from the list
and the zeros behind it ends: no range rejects zero, and every word that is rejected begins in the
list. Together the draws take at most the list, one word more, and eight for every instruction. -/
theorem finite_words_suffice (ws : List UInt32) (count : Nat) :
    Ends ((instructions count (⟨ws, 0⟩ : Tape)).1.flatMap Instruction.draws) (⟨ws, 0⟩ : Tape) ∧
      (∀ (bits n : Nat) (pos : 0 < n), accept? pos (BitVec.zero bits) = some ⟨0, pos⟩) ∧
      (∃ es, Account (word (⟨ws, 0⟩ : Tape)) 0
          ((instructions count (⟨ws, 0⟩ : Tape)).1.flatMap Instruction.draws) es ∧
        (instructions count (⟨ws, 0⟩ : Tape)).2 = after (⟨ws, 0⟩ : Tape) (wordsTaken es) ∧
        ∀ x ∈ placed 0 es, ∀ j < x.2.rejected, x.1 + j * x.2.draw.width.words < ws.length) ∧
      (instructions count (⟨ws, 0⟩ : Tape)).2.used ≤ ws.length + 1 + 8 * count := by
  generalize ht : (⟨ws, 0⟩ : Tape) = t
  have hends := Uniform.ends_tape ((instructions count t).1.flatMap Instruction.draws) t
  obtain ⟨es, haccount, -, hleft⟩ := account_of_ends hends
  have hbegin : ∀ x ∈ placed 0 es, ∀ j < x.2.rejected,
      x.1 + j * x.2.draw.width.words < ws.length := by
    intro x hx j hj
    have hlt := Tape.lt_of_rejected (haccount.succeeds x hx) hj
    rw [← ht] at hlt
    exact hlt
  refine ⟨hends, fun bits _ => Uniform.accept?_zero bits, ⟨es, haccount, hleft, hbegin⟩, ?_⟩
  have hused : (instructions count t).2.used = wordsTaken es := by
    rw [hleft, Tape.after_eq, ← ht]
    exact Nat.zero_add _
  have hrejected := Uniform.wordsRejected_le hbegin
  have haccepted := Instruction.wordCount_flatMap_le (instructions count t).1
  rw [length_instructions] at haccepted
  rw [hused, Uniform.wordsTaken_eq, haccount.draws]
  omega

/-- The bound is reached but for one word: two words are rejected for the opcode, and an
arithmetic line takes eight. -/
example : (instructions 1 rejectedTape).2.used = rejectedTape.words.length + 8 * 1 := rfl

end Synthesis
end StressBench
