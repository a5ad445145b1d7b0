/-
# A seeded synthesizer draws from the flat stream of its seed

Two sources at the same place of one stream, both with the patience for whatever ends, give the
same values to every draw and are then at the same place again. What draws keep, instructions and
requests keep, so that the two answer any requests alike. A keystream is such a source, as is any
generator that serves its blocks word by word: it does not matter that the keystream keeps a block
and a counter, and that a word of 64 bits may lie across two blocks.

Key definitions: `Uniform.KeptByDraws`, `WordSource.SamePlace`, `WordGenerator`.
Key theorems: `Uniform.keptByDraws_samePlace`, `Synthesis.instructions_related`,
`Synthesis.answers_related`, `Synthesis.seeded_serves_flat_stream`.
-/
import StressBench.Proofs.Random.Blocks
import StressBench.Proofs.Synthesis.Accounting
import StressBench.Proofs.Synthesis.Requests

namespace StressBench

variable {σ τ : Type} [WordSource σ] [WordSource τ]

/-! ### Sources at the same place -/

/-- The sources have come equally far from where they started. -/
def WordSource.SamePlace (s₀ : σ) (t₀ : τ) (s : σ) (t : τ) : Prop :=
  ∃ p, s = after s₀ p ∧ t = after t₀ p

namespace Uniform

open WordSource (Patient SamePlace after word)

/-- Related sources give the same values, and are related after every draw. -/
def KeptByDraws (R : σ → τ → Prop) : Prop :=
  ∀ (s : σ) (t : τ), R s t → ∀ (w : Width) (n : Nat) (pos : 0 < n),
    (draw w n s pos).1 = (draw w n t pos).1 ∧ R (draw w n s pos).2 (draw w n t pos).2

theorem draw?_of_samePlace {s₀ : σ} {t₀ : τ} (hword : ∀ i, word s₀ i = word t₀ i)
    (ht : Patient t₀) {w : Width} {n : Nat} {pos : 0 < n} {p : Nat} {r : Fin n} {s' : σ}
    (h : draw? w n (after s₀ p) pos = some (r, s')) :
    ∃ q, s' = after s₀ q ∧ draw? w n (after t₀ p) pos = some (r, after t₀ q) := by
  obtain ⟨k, -, hfinds, rfl⟩ := (draw?_after_iff w pos s₀).mp h
  have hfinds' : Finds (word t₀) w pos p k r := hfinds.congr fun i _ _ => hword i
  exact ⟨_, rfl, (draw?_after_iff w pos t₀).mpr ⟨k, ht w pos p k r hfinds', hfinds', rfl⟩⟩

/-- **Sources of one stream stay at the same place.** -/
theorem keptByDraws_samePlace {s₀ : σ} {t₀ : τ} (hword : ∀ i, word s₀ i = word t₀ i)
    (hs : Patient s₀) (ht : Patient t₀) : KeptByDraws (SamePlace s₀ t₀) := by
  rintro s t ⟨p, rfl, rfl⟩ w n pos
  unfold draw
  cases hdraw : draw? w n (after s₀ p) pos with
  | some drawn =>
    obtain ⟨q, hq, hdraw'⟩ := draw?_of_samePlace hword ht hdraw
    rw [hdraw']
    exact ⟨rfl, q, hq, rfl⟩
  | none =>
    -- it ends with neither
    cases hdraw' : draw? w n (after t₀ p) pos with
    | some drawn =>
      obtain ⟨q, -, h⟩ := draw?_of_samePlace (fun i => (hword i).symm) hs hdraw'
      cases hdraw.symm.trans h
    | none => exact ⟨rfl, p, rfl, rfl⟩

theorem gives_related {R : σ → τ → Prop} (hR : KeptByDraws R) : ∀ {ds : List Draw} {s s' : σ}
    {t : τ}, R s t → Gives ds s s' → ∃ t', Gives ds t t' ∧ R s' t'
  | [], s, s', t, h, hgives => ⟨t, rfl, hgives ▸ h⟩
  | d :: ds, s, s', t, h, ⟨hvalue, hgives⟩ => by
    obtain ⟨hsame, hkept⟩ := hR s t h d.width d.count d.pos
    obtain ⟨t', hgives', ht'⟩ := gives_related hR hkept hgives
    exact ⟨t', ⟨hsame.symm.trans hvalue, hgives'⟩, ht'⟩

end Uniform

namespace Synthesis

open StressBench.Uniform (Gives KeptByDraws wordAt)
open WordSource (Patient SamePlace after patience word)

/-! ### What draws keep, requests keep -/

section Related

variable {R : σ → τ → Prop} (hR : KeptByDraws R) {s : σ} {t : τ} (h : R s t)
include hR h

theorem nextInstruction_related : (nextInstruction s).1 = (nextInstruction t).1 ∧
    R (nextInstruction s).2 (nextInstruction t).2 := by
  obtain ⟨t', hgives, ht'⟩ := Uniform.gives_related hR h (nextInstruction_eq_iff.mp rfl)
  rw [nextInstruction_eq_iff.mpr hgives]
  exact ⟨rfl, ht'⟩

theorem instructions_related (n : Nat) : (instructions n s).1 = (instructions n t).1 ∧
    R (instructions n s).2 (instructions n t).2 := by
  obtain ⟨t', hgives, ht'⟩ := Uniform.gives_related hR h (gives_instructions n s)
  have hdrawn := instructions_eq_iff.mpr hgives
  rw [length_instructions] at hdrawn
  rw [hdrawn]
  exact ⟨rfl, ht'⟩

theorem answer_related (r : Request) :
    (r.answer s).1 = (r.answer t).1 ∧ R (r.answer s).2 (r.answer t).2 := by
  cases r with
  | next =>
    obtain ⟨hsame, hkept⟩ := nextInstruction_related hR h
    simp only [Request.answer, hsame]
    exact ⟨trivial, hkept⟩
  | several count =>
    obtain ⟨hsame, hkept⟩ := instructions_related hR h count
    simp only [Request.answer, hsame]
    exact ⟨trivial, hkept⟩
  | stream count taken =>
    obtain ⟨hsame, hkept⟩ := instructions_related hR h (min taken count)
    simp only [Request.answer, LineStream.pulls_eq, hsame]
    exact ⟨trivial, hkept⟩
  | corpus memory total =>
    by_cases hfits : Corpus.Fits memory total
    · obtain ⟨hsame, hkept⟩ := instructions_related hR h (total - minLines)
      simp only [Request.answer, Corpus.generate_of_fits _ hfits.1 hfits.2, hsame]
      exact ⟨trivial, hkept⟩
    · simp only [Request.answer, Corpus.generate_of_not_fits hfits]
      exact ⟨trivial, h⟩

end Related

/-- **Related sources answer alike.** -/
theorem answers_related {R : σ → τ → Prop} (hR : KeptByDraws R) : ∀ (rs : List Request) {s : σ}
    {t : τ}, R s t → (answers rs s).1 = (answers rs t).1 ∧ R (answers rs s).2 (answers rs t).2
  | [], _, _, h => ⟨rfl, h⟩
  | r :: rs, s, t, h => by
    obtain ⟨hanswer, hkept⟩ := answer_related hR h r
    obtain ⟨ihanswers, ihkept⟩ := answers_related hR rs hkept
    simp only [answers, hanswer, ihanswers]
    exact ⟨trivial, ihkept⟩

/-! ### Seeds -/

/-- **A seeded synthesizer is one that is served the words of its blocks in order.** The stream of
a keystream is block 0, block 1 and so on, and a word taken at any place is the one of this stream,
also where it lies across two blocks. So whatever it is asked, the keystream gives the same answers
as a generator that serves this stream one word after another, and the two are left at the same
place. -/
theorem seeded_serves_flat_stream (seed : UInt64) {t : τ}
    (hword : ∀ i, word t i = Keystream.word (Seed.key seed) i) (hpatient : Patient t)
    (rs : List Request) :
    (answers rs (Keystream.ofSeed seed)).1 = (answers rs t).1 ∧
      (∃ p, (answers rs (Keystream.ofSeed seed)).2 = after (Keystream.ofSeed seed) p ∧
        (answers rs t).2 = after t p) ∧
      (∀ (b : Nat) (j : Fin 16), Keystream.word (Seed.key seed) (16 * b + j) =
        (ChaCha.block (Seed.key seed) (UInt64.ofNat b)).get j) ∧
      (∀ (w : Uniform.Width) (p : Nat), Uniform.take w (after (Keystream.ofSeed seed) p) =
        (wordAt (Keystream.word (Seed.key seed)) w p,
          after (Keystream.ofSeed seed) (p + w.words))) ∧
      ∀ b : Nat, ∃ low high,
        (ChaCha.block (Seed.key seed) (UInt64.ofNat b)).toList.getLast? = some low ∧
          (ChaCha.block (Seed.key seed) (UInt64.ofNat (b + 1))).toList.head? = some high ∧
          Uniform.take .double (after (Keystream.ofSeed seed) (16 * b + 15)) =
            (high.toBitVec ++ low.toBitVec, after (Keystream.ofSeed seed) (16 * b + 17)) := by
  have hsame : ∀ i, word (Keystream.ofSeed seed) i = word t i := fun i =>
    (Keystream.word_ofSeed seed i).trans (hword i).symm
  have hkept := Uniform.keptByDraws_samePlace hsame (Keystream.patient_ofSeed seed) hpatient
  obtain ⟨hanswers, hplace⟩ := answers_related hkept rs ⟨0, rfl, rfl⟩
  refine ⟨hanswers, hplace, Keystream.word_of_block _, fun w p => ?_,
    Keystream.take_across_blocks seed⟩
  rw [Uniform.take_after, Uniform.wordAt_congr fun i _ _ => Keystream.word_ofSeed seed i]

end Synthesis

/-! ### Generators -/

/-- A generator that serves the words of a function from a place on. -/
structure WordGenerator where
  words : Nat → UInt32
  place : Nat
  patience : Nat

instance : WordSource WordGenerator where
  next g := (g.words g.place, { g with place := g.place + 1 })
  patience := WordGenerator.patience

namespace WordGenerator

open WordSource (after patience)

theorem after_eq (g : WordGenerator) : ∀ k, after g k = { g with place := g.place + k }
  | 0 => rfl
  | k + 1 => by
    show ({ after g k with place := (after g k).place + 1 } : WordGenerator) = _
    rw [after_eq g k]
    rfl

theorem word_eq (g : WordGenerator) (i : Nat) : WordSource.word g i = g.words (g.place + i) := by
  show (after g i).words (after g i).place = _
  rw [after_eq]

/-- The generator of the blocks of a seed, with the patience for a round of them. -/
def ofSeed (seed : UInt64) : WordGenerator :=
  ⟨Keystream.word (Seed.key seed), 0, 16 * UInt64.size⟩

theorem word_ofSeed (seed : UInt64) (i : Nat) :
    WordSource.word (ofSeed seed) i = Keystream.word (Seed.key seed) i := by
  rw [word_eq]
  exact congrArg (Keystream.word (Seed.key seed)) (Nat.zero_add i)

theorem patient_ofSeed (seed : UInt64) : WordSource.Patient (ofSeed seed) := by
  refine Keystream.patient_of_word (word_ofSeed seed) fun i => ?_
  rw [after_eq]
  exact Nat.le_refl _

/-- Ten instructions, five of a stream of which two are pulled, and a corpus for which there is
room, from the seed 42 and from the blocks of this seed. -/
theorem fortyTwo_answers :
    (∀ i, WordSource.word (ofSeed 42) i = Keystream.word (Seed.key 42) i) ∧
      WordSource.Patient (ofSeed 42) ∧
      (Synthesis.answers [.several 10, .stream 5 2, .corpus (.upTo 7) 9] (Keystream.ofSeed 42)).1 =
        (Synthesis.answers [.several 10, .stream 5 2, .corpus (.upTo 7) 9] (ofSeed 42)).1 :=
  ⟨word_ofSeed 42, patient_ofSeed 42,
    (Synthesis.seeded_serves_flat_stream 42 (word_ofSeed 42) (patient_ofSeed 42) _).1⟩

end WordGenerator
end StressBench
