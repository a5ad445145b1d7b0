/-
# A keystream is served block after block

The keystream of a seed keeps the unread words of one block and the number of the next. At every
place these are the rest of the block that the place lies in, and the block after it, so that the
words served are those of block 0, of block 1 and so on, none left out and none twice. A word of
64 bits that begins with the last word of a block ends with the first of the next block. The
blocks come round after 2^64, and a draw for which all words of a round are rejected never ends:
the patience of a keystream is enough.

Key definition: `Keystream.atPlace`.
Key theorems: `Keystream.next_atPlace`, `Keystream.word_ofSeed`, `Keystream.take_across_blocks`,
`Keystream.patient_of_word`.
-/
import StressBench.Proofs.Random.Stream

namespace StressBench
namespace Keystream

open StressBench.Uniform (Finds Width wordAt)
open WordSource (Patient after patience)

/-! ### Places in the blocks -/

/-- The keystream of a key at a place: between two blocks nothing is unread, and inside a block
the rest of it. -/
def atPlace (key : Vector UInt32 8) (i : Nat) : Keystream where
  key := key
  unread := if i % 16 = 0 then []
    else (ChaCha.block key (UInt64.ofNat (i / 16))).toList.drop (i % 16)
  following := UInt64.ofNat ((i + 15) / 16)

/-- **One word** is the one at the place, and the next place comes after it. -/
theorem next_atPlace (key : Vector UInt32 8) (i : Nat) :
    (atPlace key i).next = (word key i, atPlace key (i + 1)) := by
  by_cases h : i % 16 = 0
  · have hblock : (i + 15) / 16 = i / 16 := by omega
    have hsame : (i + 1) / 16 = i / 16 := by omega
    have hfirst : (i + 1) % 16 = 1 := by omega
    have hnext : (i + 1 + 15) / 16 = i / 16 + 1 := by omega
    simp only [next, atPlace, word, h, if_true, hblock, hsame, hfirst, hnext, UInt64.ofNat_add,
      Nat.one_ne_zero, if_false, List.drop_one]
    rfl
  · have hlt : i % 16 < (ChaCha.block key (UInt64.ofNat (i / 16))).toList.length := by
      rw [Vector.length_toList]
      exact Nat.mod_lt _ (by decide)
    have hblock : (i + 15) / 16 = i / 16 + 1 := by omega
    have hnext : (i + 1 + 15) / 16 = i / 16 + 1 := by omega
    -- behind the word is the rest of its block, which is nothing if the word is the last
    have hrest : (if (i + 1) % 16 = 0 then []
        else (ChaCha.block key (UInt64.ofNat ((i + 1) / 16))).toList.drop ((i + 1) % 16)) =
        (ChaCha.block key (UInt64.ofNat (i / 16))).toList.drop (i % 16 + 1) := by
      by_cases hlast : (i + 1) % 16 = 0
      · rw [if_pos hlast, List.drop_of_length_le]
        rw [Vector.length_toList]
        omega
      · have hsame : (i + 1) / 16 = i / 16 := by omega
        have hplace : (i + 1) % 16 = i % 16 + 1 := by omega
        rw [if_neg hlast, hsame, hplace]
    unfold next
    simp only [atPlace, if_neg h, List.drop_eq_getElem_cons hlt, hblock, hnext, hrest]
    rfl

/-- **The places of a keystream.** -/
theorem after_ofSeed (seed : UInt64) : ∀ i, after (ofSeed seed) i = atPlace (Seed.key seed) i
  | 0 => rfl
  | i + 1 => by
    show (after (ofSeed seed) i).next.2 = _
    rw [after_ofSeed seed i, next_atPlace]

theorem word_ofSeed (seed : UInt64) (i : Nat) :
    WordSource.word (ofSeed seed) i = word (Seed.key seed) i := by
  show (after (ofSeed seed) i).next.1 = _
  rw [after_ofSeed, next_atPlace]

theorem word_of_block (key : Vector UInt32 8) (b : Nat) (j : Fin 16) :
    word key (16 * b + j) = (ChaCha.block key (UInt64.ofNat b)).get j := by
  have hblock : (16 * b + j) / 16 = b := by omega
  have hplace : (16 * b + j) % 16 = j := by omega
  simp only [word, hblock, hplace]
  rfl

theorem ends_of_block (key : Vector UInt32 8) (b : Nat) :
    (ChaCha.block key (UInt64.ofNat b)).toList.head? = some (word key (16 * b)) ∧
      (ChaCha.block key (UInt64.ofNat b)).toList.getLast? = some (word key (16 * b + 15)) := by
  have hlength := (ChaCha.block key (UInt64.ofNat b)).length_toList
  have hfirst : word key (16 * b) = _ := word_of_block key b ⟨0, by decide⟩
  have hlast : word key (16 * b + 15) = _ := word_of_block key b ⟨15, by decide⟩
  rw [List.head?_eq_getElem?, List.getLast?_eq_getElem?, hlength, hfirst, hlast,
    List.getElem?_eq_getElem (by omega), List.getElem?_eq_getElem (by omega)]
  exact ⟨rfl, rfl⟩

/-- **A word across two blocks** has its low half from the first and its high half from the
second. -/
theorem take_across_blocks (seed : UInt64) (b : Nat) :
    ∃ low high, (ChaCha.block (Seed.key seed) (UInt64.ofNat b)).toList.getLast? = some low ∧
      (ChaCha.block (Seed.key seed) (UInt64.ofNat (b + 1))).toList.head? = some high ∧
      Uniform.take .double (after (ofSeed seed) (16 * b + 15)) =
        (high.toBitVec ++ low.toBitVec, after (ofSeed seed) (16 * b + 17)) := by
  refine ⟨_, _, (ends_of_block (Seed.key seed) b).2, (ends_of_block (Seed.key seed) (b + 1)).1, ?_⟩
  rw [Uniform.take_after, wordAt, word_ofSeed, word_ofSeed,
    show 16 * b + 15 + 1 = 16 * (b + 1) by omega]
  rfl

/-! ### Rounds of blocks -/

/-- The words come round with the blocks. -/
theorem word_add_round (key : Vector UInt32 8) (i m : Nat) :
    word key (i + 16 * UInt64.size * m) = word key i := by
  have hplace : (i + 16 * UInt64.size * m) % 16 = i % 16 := by
    rw [Nat.mul_assoc, Nat.add_mul_mod_self_left]
  have hblock : UInt64.ofNat ((i + 16 * UInt64.size * m) / 16) = UInt64.ofNat (i / 16) := by
    apply UInt64.toNat_inj.mp
    rw [Nat.mul_assoc, Nat.add_mul_div_left _ _ (by decide)]
    simp only [UInt64.toNat_ofNat', UInt64.size]
    exact Nat.add_mul_mod_self_left ..
  simp only [word, hplace, hblock]

variable {τ : Type} [WordSource τ]

/-- **The patience of a round is enough.** A source that serves the words of a key finds an
accepted word within a round of blocks, or none at all. -/
theorem patient_of_word {key : Vector UInt32 8} {t : τ}
    (hword : ∀ i, WordSource.word t i = word key i)
    (hpatience : ∀ i, 16 * UInt64.size ≤ patience (after t i)) : Patient t := by
  intro w n pos p k r h
  refine Nat.le_trans (Nat.le_of_not_lt fun hlt => ?_) (hpatience p)
  -- the accepted word was there a round before
  obtain ⟨j, rfl⟩ : ∃ j, k = j + 16 * UInt64.size := ⟨k - 16 * UInt64.size, by omega⟩
  have hround : ∀ q, WordSource.word t (q + 16 * UInt64.size * w.words) = WordSource.word t q := by
    intro q
    rw [hword, hword, word_add_round]
  have hsame : wordAt (WordSource.word t) w (p + (j + 16 * UInt64.size) * w.words) =
      wordAt (WordSource.word t) w (p + j * w.words) := by
    rw [Nat.add_mul, ← Nat.add_assoc, Uniform.wordAt_add hround]
  have hrejects := h.rejects j (Nat.lt_add_of_pos_right (by decide))
  rw [← hsame, h.accepts] at hrejects
  cases hrejects

theorem patient_ofSeed (seed : UInt64) : Patient (ofSeed seed) :=
  patient_of_word (word_ofSeed seed) fun _ => Nat.le_refl _

end Keystream
end StressBench
