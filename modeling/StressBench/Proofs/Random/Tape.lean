/-
# Draws from a tape

A draw from a tape ends: each rejected word is taken from the list as long as there is something
in it, and behind the list come zeros, which are not rejected. It takes at least one word of
its width. If it takes no more, this word was accepted, and the tape is what is left after it. As
a stream a tape is its list and zeros behind it, and every word that is rejected begins in the list.

Key definition: `Uniform.Width.split`.
Key theorems: `Uniform.exists_drawWithin`, `Uniform.used_le_draw`, `Uniform.draw_of_used`,
`Tape.word_eq`, `Tape.lt_of_rejected`, `Tape.patient`.
-/
import StressBench.Proofs.Random.Stream

namespace StressBench
namespace Uniform

/-! ### One word of a width -/

/-- The 32-bit words that a word is taken as, the low half first. -/
def Width.split : (w : Width) → BitVec w.bits → List UInt32
  | .single, v => [⟨v⟩]
  | .double, v => [⟨v.extractLsb' 0 32⟩, ⟨v.extractLsb' 32 32⟩]

theorem Width.words_pos (w : Width) : 0 < w.words := by
  cases w <;> decide

theorem Width.words_le (w : Width) : w.words ≤ 2 := by
  cases w <;> decide

theorem Width.length_split (w : Width) (v : BitVec w.bits) : (w.split v).length = w.words := by
  cases w <;> rfl

theorem take_split (w : Width) (v : BitVec w.bits) (ws : List UInt32) (used : Nat) :
    take w (⟨w.split v ++ ws, used⟩ : Tape) = (v, ⟨ws, used + w.words⟩) := by
  cases w with
  | single => rfl
  | double =>
    have hv : v.extractLsb' 32 32 ++ v.extractLsb' 0 32 = v := BitVec.extractLsb'_append_extractLsb'
    exact Prod.ext hv rfl

/-- Enough 32-bit words begin with those of a word. -/
theorem exists_split (w : Width) {ws : List UInt32} (h : w.words ≤ ws.length) :
    ∃ v rest, ws = w.split v ++ rest := by
  cases w with
  | single =>
    obtain ⟨a, ws, rfl⟩ := List.exists_cons_of_length_pos h
    exact ⟨a.toBitVec, ws, rfl⟩
  | double =>
    obtain ⟨a, ws, rfl⟩ := List.exists_cons_of_length_pos (Nat.lt_of_succ_le (Nat.le_of_succ_le h))
    obtain ⟨b, ws, rfl⟩ := List.exists_cons_of_length_pos (Nat.le_of_succ_le_succ h)
    have hlow : (b.toBitVec ++ a.toBitVec).extractLsb' 0 32 = a.toBitVec :=
      BitVec.extractLsb'_append_eq_right
    have hhigh : (b.toBitVec ++ a.toBitVec).extractLsb' 32 32 = b.toBitVec :=
      BitVec.extractLsb'_append_eq_left
    refine ⟨b.toBitVec ++ a.toBitVec, ws, ?_⟩
    show a :: b :: ws = ⟨(b.toBitVec ++ a.toBitVec).extractLsb' 0 32⟩ ::
      ⟨(b.toBitVec ++ a.toBitVec).extractLsb' 32 32⟩ :: ws
    rw [hlow, hhigh]

/-! ### Taking from a tape -/

theorem used_take (w : Width) (t : Tape) : (take w t).2.used = t.used + w.words := by
  obtain ⟨ws, used⟩ := t
  cases w with
  | single => cases ws <;> rfl
  | double => match ws with | [] | [_] | _ :: _ :: _ => rfl

theorem take_empty (w : Width) (used : Nat) :
    take w (⟨[], used⟩ : Tape) = (BitVec.zero w.bits, ⟨[], used + w.words⟩) := by
  cases w <;> rfl

theorem length_take_lt (w : Width) {t : Tape} (h : t.words ≠ []) :
    (take w t).2.words.length < t.words.length := by
  obtain ⟨ws, used⟩ := t
  match w, ws, h with
  | .single, _ :: ws, _ => exact Nat.lt_succ_self _
  | .double, [_], _ => exact Nat.zero_lt_one
  | .double, _ :: _ :: ws, _ => exact Nat.lt_succ_of_lt (Nat.lt_succ_self _)

/-! ### Drawing from a tape -/

variable {w : Width} {n : Nat} {pos : 0 < n}

/-- **A draw from a tape ends.** -/
theorem exists_drawWithin (w : Width) (pos : 0 < n) {attempts : Nat} {t : Tape}
    (h : t.words.length < attempts) : ∃ drawn, drawWithin w pos attempts t = some drawn := by
  induction attempts generalizing t with
  | zero => exact absurd h (Nat.not_lt_zero _)
  | succ attempts ih =>
    unfold drawWithin
    dsimp only
    cases haccept : accept? pos (take w t).1 with
    | some r => exact ⟨(r, _), rfl⟩
    | none =>
      -- zero is not rejected, so that there was something in the list
      have hne : t.words ≠ [] := by
        intro hnil
        obtain ⟨ws, used⟩ := t
        subst hnil
        rw [take_empty, accept?_zero] at haccept
        cases haccept
      have := length_take_lt w hne
      exact ih (by omega)

theorem used_drawWithin {attempts : Nat} {t : Tape} {drawn : Fin n × Tape}
    (h : drawWithin w pos attempts t = some drawn) :
    accept? pos (take w t).1 = some drawn.1 ∧ drawn.2 = (take w t).2 ∨
      t.used + w.words < drawn.2.used := by
  induction attempts generalizing t with
  | zero => cases h
  | succ attempts ih =>
    unfold drawWithin at h
    dsimp only at h
    cases haccept : accept? pos (take w t).1 with
    | some r' =>
      rw [haccept] at h
      cases h
      exact .inl ⟨rfl, rfl⟩
    | none =>
      rw [haccept] at h
      have hpos := w.words_pos
      have hused := used_take w t
      have hused' := used_take w (take w t).2
      right
      obtain ⟨-, hrest⟩ | hlt := ih h
      · rw [hrest]
        omega
      · omega

theorem drawWithin_tape (w : Width) (pos : 0 < n) (t : Tape) :
    drawWithin w pos (t.words.length + 1) t = some (draw w n t pos) := by
  obtain ⟨drawn, h⟩ := exists_drawWithin w pos (Nat.lt_succ_self t.words.length)
  have hdraw : draw w n t pos = drawn := by
    show (drawWithin w pos (t.words.length + 1) t).getD _ = _
    rw [h, Option.getD_some]
  rw [h, hdraw]

theorem used_le_draw (w : Width) (pos : 0 < n) (t : Tape) :
    t.used + w.words ≤ (draw w n t pos).2.used := by
  obtain ⟨-, h⟩ | h := used_drawWithin (drawWithin_tape w pos t)
  · exact Nat.le_of_eq (by rw [h, used_take])
  · exact Nat.le_of_lt h

/-- **A draw that takes no more than one word accepts it.** -/
theorem draw_of_used {t : Tape} (h : (draw w n t pos).2.used = t.used + w.words) :
    accept? pos (take w t).1 = some (draw w n t pos).1 ∧ (draw w n t pos).2 = (take w t).2 := by
  obtain haccept | hlt := used_drawWithin (drawWithin_tape w pos t)
  · exact haccept
  · omega

/-- A word that is accepted is the only one that is taken, from any source. -/
theorem draw_of_accept {σ : Type} [WordSource σ] {s : σ} {r : Fin n}
    (h : accept? pos (take w s).1 = some r) : draw w n s pos = (r, (take w s).2) := by
  unfold draw draw? drawWithin
  dsimp only
  rw [h, Option.getD_some]

end Uniform

/-! ### A tape as a stream -/

namespace Tape

open StressBench.Uniform (Finds Width accept? accept?_zero wordAt)
open WordSource (after word)

theorem next_eq (t : Tape) : t.next = (t.words.headD 0, ⟨t.words.tail, t.used + 1⟩) := by
  obtain ⟨_ | ⟨v, ws⟩, used⟩ := t <;> rfl

theorem after_eq (t : Tape) : ∀ k, after t k = ⟨t.words.drop k, t.used + k⟩
  | 0 => rfl
  | k + 1 => by
    show (after t k).next.2 = _
    rw [after_eq t k, next_eq, List.tail_drop]
    rfl

/-- The words of a tape by their places: zero behind the list. -/
theorem word_eq (t : Tape) (i : Nat) : word t i = t.words.getD i 0 := by
  show (after t i).next.1 = _
  rw [after_eq, next_eq, List.headD_eq_head?_getD, List.head?_drop, List.getD_eq_getElem?_getD]

theorem wordAt_eq_zero {t : Tape} {p : Nat} (h : t.words.length ≤ p) (w : Width) :
    wordAt (word t) w p = BitVec.zero w.bits := by
  have hzero : ∀ i, p ≤ i → i < p + w.words → word t i = (fun _ => 0) i := by
    intro i hi _
    rw [word_eq, List.getD_eq_getElem?_getD, List.getElem?_eq_none (Nat.le_trans h hi)]
    rfl
  rw [Uniform.wordAt_congr hzero]
  cases w with
  | single => rfl
  | double => exact (by decide : (0 : UInt32).toBitVec ++ (0 : UInt32).toBitVec = BitVec.zero 64)

/-- **A word that is rejected begins in the list.** -/
theorem lt_of_rejected {t : Tape} {w : Width} {n : Nat} {pos : 0 < n} {p k : Nat} {r : Fin n}
    (h : Finds (word t) w pos p k r) {j : Nat} (hj : j < k) :
    p + j * w.words < t.words.length := by
  refine Nat.lt_of_not_le fun hle => ?_
  have hrejects := h.rejects j hj
  rw [wordAt_eq_zero hle, accept?_zero] at hrejects
  cases hrejects

theorem patient (t : Tape) : WordSource.Patient t := by
  intro w n pos p k r h
  rw [after_eq]
  show k ≤ (t.words.drop p).length
  rw [List.length_drop]
  cases k with
  | zero => exact Nat.zero_le _
  | succ k =>
    have hlast := lt_of_rejected h (Nat.lt_succ_self k)
    have hle : k ≤ k * w.words := Nat.le_mul_of_pos_right k w.words_pos
    omega

end Tape
end StressBench
