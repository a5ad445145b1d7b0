/-
# A source as a stream of words

A source serves an infinite stream of words, and what has been taken from it is a place in this
stream. A word of 64 bits lies at any place, in two words that follow each other. A draw rejects
the words of its width from its place on, one after another, and takes the first that is
accepted; so it depends on the words that it takes and on no others. How many it may reject is
the patience of the source, which is enough if no draw that ends needs more.

Key definitions: `WordSource.after`, `WordSource.word`, `Uniform.wordAt`, `Uniform.Finds`,
`WordSource.Patient`.
Key theorems: `Uniform.take_after`, `Uniform.drawWithin_after_iff`, `Uniform.Finds.congr`.
-/
import StressBench.Random.Source

namespace StressBench

/-! ### Places in a stream -/

namespace WordSource

variable {σ : Type} [WordSource σ]

/-- The source after so many words have been taken from it. -/
def after (s : σ) : Nat → σ
  | 0 => s
  | k + 1 => (next (after s k)).2

/-- The words of a source by their places. -/
def word (s : σ) (i : Nat) : UInt32 :=
  (next (after s i)).1

end WordSource

namespace Uniform

open WordSource (after word patience)

/-- The word of a width at a place of a stream, its low half first. -/
def wordAt (f : Nat → UInt32) : (w : Width) → Nat → BitVec w.bits
  | .single, p => (f p).toBitVec
  | .double, p => (f (p + 1)).toBitVec ++ (f p).toBitVec

/-- The first word of a width that is accepted, from the place `p` on, comes after `k` others and
gives `r`. -/
structure Finds (f : Nat → UInt32) (w : Width) {n : Nat} (pos : 0 < n) (p k : Nat) (r : Fin n) :
    Prop where
  rejects : ∀ j < k, accept? pos (wordAt f w (p + j * w.words)) = none
  accepts : accept? pos (wordAt f w (p + k * w.words)) = some r

section Streams

variable {f g : Nat → UInt32} {w : Width} {n : Nat} {pos : 0 < n} {p k : Nat} {r : Fin n}

theorem wordAt_congr (h : ∀ i, p ≤ i → i < p + w.words → f i = g i) :
    wordAt f w p = wordAt g w p := by
  cases w with
  | single =>
    have hp : f p = g p := h p (Nat.le_refl p) (Nat.lt_succ_self p)
    show (f p).toBitVec = (g p).toBitVec
    rw [hp]
  | double =>
    have hlow : f p = g p := h p (Nat.le_refl p) (Nat.lt_add_of_pos_right Nat.two_pos)
    have hhigh : f (p + 1) = g (p + 1) := h (p + 1) (Nat.le_succ p) (Nat.lt_succ_self _)
    show (f (p + 1)).toBitVec ++ (f p).toBitVec = (g (p + 1)).toBitVec ++ (g p).toBitVec
    rw [hlow, hhigh]

theorem wordAt_add {c : Nat} (h : ∀ i, f (i + c) = f i) (w : Width) (p : Nat) :
    wordAt f w (p + c) = wordAt f w p := by
  cases w with
  | single =>
    show (f (p + c)).toBitVec = (f p).toBitVec
    rw [h]
  | double =>
    show (f (p + c + 1)).toBitVec ++ (f (p + c)).toBitVec = (f (p + 1)).toBitVec ++ (f p).toBitVec
    rw [Nat.add_right_comm, h, h]

/-- **A draw depends on the words that it takes.** -/
theorem Finds.congr (h : Finds f w pos p k r)
    (hwords : ∀ i, p ≤ i → i < p + (k + 1) * w.words → f i = g i) : Finds g w pos p k r := by
  have hword : ∀ j ≤ k, wordAt g w (p + j * w.words) = wordAt f w (p + j * w.words) := by
    intro j hj
    refine wordAt_congr fun i hlow hhigh => (hwords i (by omega) ?_).symm
    have hle : j * w.words ≤ k * w.words := Nat.mul_le_mul_right _ hj
    rw [Nat.succ_mul]
    omega
  refine ⟨fun j hj => ?_, ?_⟩
  · rw [hword j (Nat.le_of_lt hj)]
    exact h.rejects j hj
  · rw [hword k (Nat.le_refl k)]
    exact h.accepts

theorem finds_zero_iff : Finds f w pos p 0 r ↔ accept? pos (wordAt f w p) = some r := by
  have hp : p + 0 * w.words = p := by rw [Nat.zero_mul, Nat.add_zero]
  refine ⟨fun h => ?_, fun h => ⟨nofun, ?_⟩⟩
  · rw [← hp]
    exact h.accepts
  · rw [hp]
    exact h

/-- The search goes on behind a word that is rejected. -/
theorem finds_succ_iff : Finds f w pos p (k + 1) r ↔
    accept? pos (wordAt f w p) = none ∧ Finds f w pos (p + w.words) k r := by
  have hshift : ∀ j, p + (j + 1) * w.words = p + w.words + j * w.words := by
    intro j
    rw [Nat.succ_mul]
    omega
  have hp : p + 0 * w.words = p := by rw [Nat.zero_mul, Nat.add_zero]
  constructor
  · intro h
    refine ⟨?_, fun j hj => ?_, ?_⟩
    · rw [← hp]
      exact h.rejects 0 (Nat.succ_pos k)
    · rw [← hshift]
      exact h.rejects (j + 1) (Nat.succ_lt_succ hj)
    · rw [← hshift]
      exact h.accepts
  · rintro ⟨hfirst, hrejects, haccepts⟩
    refine ⟨fun j hj => ?_, ?_⟩
    · cases j with
      | zero =>
        rw [hp]
        exact hfirst
      | succ j =>
        rw [hshift]
        exact hrejects j (Nat.lt_of_succ_lt_succ hj)
    · rw [hshift]
      exact haccepts

end Streams

/-! ### Drawing from a place -/

variable {σ : Type} [WordSource σ]

theorem take_after (w : Width) (s : σ) (p : Nat) :
    take w (after s p) = (wordAt (word s) w p, after s (p + w.words)) := by
  cases w <;> rfl

/-- **What a draw does at a place of the stream.** -/
theorem drawWithin_after_iff (w : Width) {n : Nat} (pos : 0 < n) (s : σ) {attempts p : Nat}
    {r : Fin n} {s' : σ} : drawWithin w pos attempts (after s p) = some (r, s') ↔
      ∃ k < attempts, Finds (word s) w pos p k r ∧ s' = after s (p + (k + 1) * w.words) := by
  induction attempts generalizing p with
  | zero =>
    refine iff_of_false nofun ?_
    rintro ⟨k, hk, -⟩
    exact Nat.not_lt_zero k hk
  | succ attempts ih =>
    have hone : p + (0 + 1) * w.words = p + w.words := by rw [Nat.zero_add, Nat.one_mul]
    rw [drawWithin, take_after]
    dsimp only
    cases haccept : accept? pos (wordAt (word s) w p) with
    | some r' =>
      dsimp only
      constructor
      · intro h
        obtain ⟨rfl, rfl⟩ := Prod.mk.inj (Option.some.inj h)
        exact ⟨0, Nat.succ_pos _, finds_zero_iff.mpr haccept, by rw [hone]⟩
      · rintro ⟨k, -, hfinds, rfl⟩
        cases k with
        | zero =>
          obtain rfl := Option.some.inj (haccept.symm.trans (finds_zero_iff.mp hfinds))
          rw [hone]
        | succ k => cases haccept.symm.trans (finds_succ_iff.mp hfinds).1
    | none =>
      have hshift : ∀ k, p + (k + 1 + 1) * w.words = p + w.words + (k + 1) * w.words := by
        intro k
        rw [Nat.succ_mul (k + 1)]
        omega
      dsimp only
      rw [ih]
      constructor
      · rintro ⟨k, hk, hfinds, rfl⟩
        exact ⟨k + 1, Nat.succ_lt_succ hk, finds_succ_iff.mpr ⟨haccept, hfinds⟩, by rw [hshift]⟩
      · rintro ⟨k, hk, hfinds, rfl⟩
        cases k with
        | zero => cases haccept.symm.trans (finds_zero_iff.mp hfinds)
        | succ k =>
          exact ⟨k, Nat.lt_of_succ_lt_succ hk, (finds_succ_iff.mp hfinds).2, by rw [hshift]⟩

/-- A draw ends when an accepted word comes before patience does. -/
theorem draw?_after_iff (w : Width) {n : Nat} (pos : 0 < n) (s : σ) {p : Nat} {r : Fin n}
    {s' : σ} : draw? w n (after s p) pos = some (r, s') ↔
      ∃ k ≤ patience (after s p),
        Finds (word s) w pos p k r ∧ s' = after s (p + (k + 1) * w.words) := by
  rw [draw?, drawWithin_after_iff]
  simp only [Nat.lt_succ_iff]

end Uniform

/-- No draw from the source that ends needs more patience than the source has. -/
def WordSource.Patient {σ : Type} [WordSource σ] (s : σ) : Prop :=
  ∀ (w : Uniform.Width) {n : Nat} (pos : 0 < n) (p k : Nat) (r : Fin n),
    Uniform.Finds (word s) w pos p k r → k ≤ patience (after s p)

end StressBench
