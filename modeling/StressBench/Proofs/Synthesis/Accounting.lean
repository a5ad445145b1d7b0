/-
# Every word of a stream is accounted for

Instructions are drawn from a stream by the draws of the first, of the second and so on, each by
its opcode and its operands in the order in which they are written. Every draw begins at the
place where the one before it has ended, rejects some words and accepts one. So the words taken
are the first of the stream, as many as the draws have rejected and accepted together, and
another source that begins with these words gives the same instructions and leaves the same place.

Key definitions: `Uniform.Trial`, `Uniform.placed`, `Uniform.Account`, `Uniform.Bears`,
`Uniform.Ends`.
Key theorems: `Uniform.gives_iff_account`, `Uniform.Account.congr`, `Synthesis.instructions_eq_iff`,
`Synthesis.account_of_ends`, `Synthesis.instructions_of_account`,
`Synthesis.draws_in_text_order`.
-/
import Mathlib.Algebra.GroupWithZero.Nat
import StressBench.Proofs.Grammar.Language
import StressBench.Proofs.Random.Stream
import StressBench.Proofs.Random.Tape
import StressBench.Proofs.Synthesis.Draws

namespace StressBench

open WordSource (after word patience)

/-! ### Draws with what they reject -/

namespace Uniform

/-- A draw, and how many words of its width it rejects before it accepts one. -/
structure Trial where
  draw : Draw
  rejected : Nat

/-- The 32-bit words that a trial takes: those of the words that it rejects and of the one that it
accepts. -/
def Trial.words (e : Trial) : Nat :=
  (e.rejected + 1) * e.draw.width.words

/-- The 32-bit words that trials take together. -/
def wordsTaken (es : List Trial) : Nat :=
  (es.map Trial.words).sum

/-- Trials with the places at which they begin, each where the one before it has ended. -/
def placed : Nat → List Trial → List (Nat × Trial)
  | _, [] => []
  | p, e :: es => (p, e) :: placed (p + e.words) es

/-- The stream has the trial at a place: so many words are rejected there, and the next one gives
the value of the draw. -/
def Trial.Succeeds (f : Nat → UInt32) (p : Nat) (e : Trial) : Prop :=
  Finds f e.draw.width e.draw.pos p e.rejected e.draw.value

/-- The trials are what the draws take of a stream from the place `p` on, with nothing between
them. -/
structure Account (f : Nat → UInt32) (p : Nat) (ds : List Draw) (es : List Trial) : Prop where
  draws : es.map Trial.draw = ds
  succeeds : ∀ x ∈ placed p es, x.2.Succeeds f x.1

section Trials

variable {f g : Nat → UInt32} {p : Nat} {d : Draw} {ds : List Draw} {e : Trial} {es : List Trial}

theorem wordsTaken_cons (e : Trial) (es : List Trial) :
    wordsTaken (e :: es) = e.words + wordsTaken es := by
  rw [wordsTaken, List.map_cons, List.sum_cons, wordsTaken]

theorem placed_bounds : ∀ {es : List Trial} {p : Nat} {x : Nat × Trial}, x ∈ placed p es →
    p ≤ x.1 ∧ x.1 + x.2.words ≤ p + wordsTaken es
  | e :: es, p, x, h => by
    rw [wordsTaken_cons]
    rcases List.mem_cons.mp h with rfl | h
    · exact ⟨Nat.le_refl p, by dsimp only; omega⟩
    · obtain ⟨hlow, hhigh⟩ := placed_bounds h
      omega

theorem account_nil_iff : Account f p [] es ↔ es = [] := by
  refine ⟨fun h => List.map_eq_nil_iff.mp h.draws, ?_⟩
  rintro rfl
  exact ⟨rfl, nofun⟩

theorem account_cons_iff : Account f p (d :: ds) (e :: es) ↔
    e.draw = d ∧ e.Succeeds f p ∧ Account f (p + e.words) ds es := by
  constructor
  · rintro ⟨hdraws, hsucceeds⟩
    obtain ⟨hd, hds⟩ := List.cons.inj hdraws
    obtain ⟨hfirst, hothers⟩ := List.forall_mem_cons.mp hsucceeds
    exact ⟨hd, hfirst, hds, hothers⟩
  · rintro ⟨rfl, hfirst, rfl, hothers⟩
    exact ⟨rfl, List.forall_mem_cons.mpr ⟨hfirst, hothers⟩⟩

/-- **An account depends on the words taken.** -/
theorem Account.congr (h : Account f p ds es)
    (hwords : ∀ i, p ≤ i → i < p + wordsTaken es → f i = g i) : Account g p ds es := by
  refine ⟨h.draws, fun x hx => (h.succeeds x hx).congr fun i hlow hhigh => ?_⟩
  obtain ⟨hfrom, hto⟩ := placed_bounds hx
  have hend : x.1 + x.2.words ≤ p + wordsTaken es := hto
  exact hwords i (Nat.le_trans hfrom hlow) (Nat.lt_of_lt_of_le hhigh hend)

end Trials

/-! ### Draws that end -/

variable {σ : Type} [WordSource σ]

/-- The draws, made one after another, all end. -/
def Ends : List Draw → σ → Prop
  | [], _ => True
  | d :: ds, s => (draw? d.width d.count s d.pos).isSome ∧ Ends ds (d.result s).2

/-- The source has the patience for all that the trials reject. -/
def Bears (s : σ) (p : Nat) (es : List Trial) : Prop :=
  ∀ x ∈ placed p es, x.2.rejected ≤ patience (after s x.1)

theorem Account.bears {s : σ} {p : Nat} {ds : List Draw} {es : List Trial}
    (h : Account (word s) p ds es) (hs : WordSource.Patient s) : Bears s p es :=
  fun x hx => hs _ _ _ _ _ (h.succeeds x hx)

theorem bears_cons_iff {s : σ} {p : Nat} {e : Trial} {es : List Trial} :
    Bears s p (e :: es) ↔ e.rejected ≤ patience (after s p) ∧ Bears s (p + e.words) es :=
  List.forall_mem_cons

/-- A draw ends with its value when the stream has a trial of it that the source bears. -/
theorem draw?_eq_value_iff {d : Draw} {s s' : σ} {p : Nat} :
    draw? d.width d.count (after s p) d.pos = some (d.value, s') ↔
      ∃ k, Trial.Succeeds (word s) p ⟨d, k⟩ ∧ k ≤ patience (after s p) ∧
        s' = after s (p + Trial.words ⟨d, k⟩) := by
  rw [draw?_after_iff]
  constructor
  · rintro ⟨k, hk, hfinds, hs'⟩
    exact ⟨k, hfinds, hk, hs'⟩
  · rintro ⟨k, hfinds, hk, hs'⟩
    exact ⟨k, hk, hfinds, hs'⟩

/-- **Draws that end give their values exactly when the stream has an account of them.** -/
theorem gives_iff_account {s s' : σ} : ∀ {ds : List Draw} {p : Nat},
    Gives ds (after s p) s' ∧ Ends ds (after s p) ↔
      ∃ es, Account (word s) p ds es ∧ Bears s p es ∧ s' = after s (p + wordsTaken es)
  | [], p => by
    constructor
    · rintro ⟨hs', -⟩
      exact ⟨[], account_nil_iff.mpr rfl, nofun, hs'.symm⟩
    · rintro ⟨es, haccount, -, hs'⟩
      obtain rfl := account_nil_iff.mp haccount
      exact ⟨hs'.symm, trivial⟩
  | d :: ds, p => by
    constructor
    · rintro ⟨⟨hvalue, hgives⟩, hends, hrest⟩
      obtain ⟨⟨r, s₁⟩, hdraw⟩ := Option.isSome_iff_exists.mp hends
      have hresult : d.result (after s p) = (r, s₁) := by rw [Draw.result, draw, hdraw]; rfl
      rw [hresult] at hvalue hgives hrest
      obtain rfl : r = d.value := hvalue
      obtain ⟨k, hsucceeds, hk, rfl⟩ := draw?_eq_value_iff.mp hdraw
      obtain ⟨es, haccount, hbears, rfl⟩ := gives_iff_account.mp ⟨hgives, hrest⟩
      refine ⟨⟨d, k⟩ :: es, account_cons_iff.mpr ⟨rfl, hsucceeds, haccount⟩,
        bears_cons_iff.mpr ⟨hk, hbears⟩, ?_⟩
      rw [wordsTaken_cons, Nat.add_assoc]
    · rintro ⟨es, haccount, hbears, rfl⟩
      cases es with
      | nil => cases haccount.draws
      | cons e es =>
        obtain ⟨rfl, hsucceeds, haccount⟩ := account_cons_iff.mp haccount
        obtain ⟨hk, hbears⟩ := bears_cons_iff.mp hbears
        have hdraw := draw?_eq_value_iff.mpr ⟨e.rejected, hsucceeds, hk, rfl⟩
        have hresult : e.draw.result (after s p) = (e.draw.value, after s (p + e.words)) := by
          rw [Draw.result, draw, hdraw]
          rfl
        have hothers := gives_iff_account.mpr ⟨es, haccount, hbears, rfl⟩
        rw [wordsTaken_cons, ← Nat.add_assoc]
        refine ⟨⟨?_, ?_⟩, ?_, ?_⟩
        · rw [hresult]
        · rw [hresult]
          exact hothers.1
        · rw [hdraw]
          rfl
        · rw [hresult]
          exact hothers.2

theorem gives_append {s s' : σ} : ∀ {ds ds' : List Draw},
    Gives (ds ++ ds') s s' ↔ ∃ m, Gives ds s m ∧ Gives ds' m s'
  | [], ds' => by
    constructor
    · exact fun h => ⟨s, rfl, h⟩
    · rintro ⟨m, rfl, h⟩
      exact h
  | d :: ds, ds' => by
    constructor
    · rintro ⟨hvalue, hgives⟩
      obtain ⟨m, hfirst, hthen⟩ := gives_append.mp hgives
      exact ⟨m, ⟨hvalue, hfirst⟩, hthen⟩
    · rintro ⟨m, ⟨hvalue, hfirst⟩, hthen⟩
      exact ⟨hvalue, gives_append.mpr ⟨m, hfirst, hthen⟩⟩

theorem ends_tape : ∀ (ds : List Draw) (t : Tape), Ends ds t
  | [], _ => trivial
  | d :: ds, t => by
    obtain ⟨drawn, hdrawn⟩ := exists_drawWithin d.width d.pos (Nat.lt_succ_self t.words.length)
    exact ⟨Option.isSome_iff_exists.mpr ⟨drawn, hdrawn⟩, ends_tape ds _⟩

end Uniform

/-! ### Instructions -/

namespace Synthesis

open StressBench.Uniform (Account Bears Ends Gives Trial placed wordsTaken)

variable {σ : Type} [WordSource σ]

/-- **Instructions are drawn by their draws, one instruction after another.** -/
theorem instructions_eq_iff : ∀ {is : List Instruction} {s s' : σ},
    instructions is.length s = (is, s') ↔ Gives (is.flatMap Instruction.draws) s s'
  | [], s, s' => by
    rw [List.length_nil, instructions, Prod.mk.injEq]
    exact ⟨fun h => h.2, fun h => ⟨rfl, h⟩⟩
  | i :: is, s, s' => by
    rw [List.flatMap_cons, Uniform.gives_append]
    simp only [List.length_cons, instructions, Prod.mk.injEq, List.cons.injEq]
    constructor
    · rintro ⟨⟨hi, his⟩, hs'⟩
      have hgives := instructions_eq_iff.mp (Prod.ext his hs')
      exact ⟨_, nextInstruction_eq_iff.mp (Prod.ext hi rfl), hgives⟩
    · rintro ⟨m, hfirst, hothers⟩
      rw [nextInstruction_eq_iff.mpr hfirst, instructions_eq_iff.mpr hothers]
      exact ⟨⟨rfl, rfl⟩, rfl⟩

theorem gives_instructions (count : Nat) (s : σ) :
    Gives ((instructions count s).1.flatMap Instruction.draws) s (instructions count s).2 := by
  rw [← instructions_eq_iff, length_instructions]

/-- **Draws that end have an account.** -/
theorem account_of_ends {s : σ} {count : Nat}
    (h : Ends ((instructions count s).1.flatMap Instruction.draws) s) :
    ∃ es, Account (word s) 0 ((instructions count s).1.flatMap Instruction.draws) es ∧
      Bears s 0 es ∧ (instructions count s).2 = after s (wordsTaken es) := by
  obtain ⟨es, haccount, hbears, hleft⟩ :=
    Uniform.gives_iff_account.mp (And.intro (gives_instructions count (after s 0)) h)
  rw [Nat.zero_add] at hleft
  exact ⟨es, haccount, hbears, hleft⟩

/-- **Whatever has an account on a stream is drawn** from every source that begins with the words
taken and bears what is rejected. -/
theorem instructions_of_account {f : Nat → UInt32} {is : List Instruction} {es : List Trial}
    (h : Account f 0 (is.flatMap Instruction.draws) es) {t : σ}
    (hwords : ∀ k < wordsTaken es, word t k = f k) (hbears : Bears t 0 es) :
    instructions is.length t = (is, after t (wordsTaken es)) ∧
      Ends (is.flatMap Instruction.draws) t := by
  have haccount : Account (word t) 0 (is.flatMap Instruction.draws) es :=
    h.congr fun i _ hi => (hwords i (by omega)).symm
  obtain ⟨hgives, hends⟩ := Uniform.gives_iff_account.mpr ⟨es, haccount, hbears, rfl⟩
  rw [Nat.zero_add] at hgives
  exact ⟨instructions_eq_iff.mpr hgives, hends⟩

/-- The tokens of a line are its mnemonic and, `with` and `to` aside, its operands in order. -/
def OperandsInOrder (i : Instruction) : Prop :=
  ∃ rest, Text.tokens i.render = i.opcode.mnemonic :: rest ∧
    rest.filter (fun t => t ≠ Instruction.withWord ∧ t ≠ Instruction.toWord) =
      i.operands.map Operand.render

theorem operandsInOrder (i : Instruction) : OperandsInOrder i := by
  rw [OperandsInOrder, Instruction.tokens_render]
  exact i.words_eq_cons

/-- **Draws follow the order of the text, and every word is accounted for.** If the draws of
`count` instructions end, they are those of the first instruction, of the second and so on, each
opcode before the operands and these as the line shows them; they take the words of the stream
from its beginning, with nothing between them, and leave the place after the last. Conversely, if
a stream has such an account of some instructions, every source that begins with the words of the
account draws these instructions from them, whatever follows, and is left after the last. (A
generator has no patience that could run out; a source of the library is asked to bear what is
rejected.) -/
theorem draws_in_text_order :
    (∀ {σ : Type} [WordSource σ] (s : σ) (count : Nat),
      Ends ((instructions count s).1.flatMap Instruction.draws) s →
      ∃ es, Account (word s) 0 ((instructions count s).1.flatMap Instruction.draws) es ∧
        Bears s 0 es ∧ (instructions count s).2 = after s (wordsTaken es)) ∧
    (∀ (f : Nat → UInt32) (is : List Instruction) (es : List Trial),
      Account f 0 (is.flatMap Instruction.draws) es →
      ∀ {τ : Type} [WordSource τ] (t : τ), (∀ k < wordsTaken es, word t k = f k) →
        Bears t 0 es → instructions is.length t = (is, after t (wordsTaken es)) ∧
          Ends (is.flatMap Instruction.draws) t) ∧
    ∀ i : Instruction, OperandsInOrder i :=
  ⟨fun _ _ hends => account_of_ends hends, fun _ _ _ h _ _ _ hwords hbears =>
    instructions_of_account h hwords hbears, operandsInOrder⟩

/-- A tape of two words, which are rejected for an opcode. -/
def rejectedTape : Tape where
  words := [0xFFFFFFFF, 0xFFFFFFFF]

/-- The same words, the zeros behind them as far as a line takes them, and another word. -/
def continuedTape : Tape where
  words := [0xFFFFFFFF, 0xFFFFFFFF, 0, 0, 0, 0, 0, 0, 0, 0, 5]

/-- The first word for an opcode is rejected, so that a line of four draws takes ten words, and
the word behind them is left. -/
theorem rejected_opcode_accounted :
    Ends ((instructions 1 rejectedTape).1.flatMap Instruction.draws) rejectedTape ∧
      ∃ es, Account (word rejectedTape) 0 (Instruction.draws (.arith .add ⟨0⟩ ⟨0⟩ ⟨0⟩)) es ∧
        wordsTaken es = 10 ∧ (∀ k < wordsTaken es, word continuedTape k = word rejectedTape k) ∧
        Bears continuedTape 0 es ∧
        instructions 1 continuedTape = ([.arith .add ⟨0⟩ ⟨0⟩ ⟨0⟩], ⟨[5], 10⟩) := by
  have hdrawn : instructions 1 rejectedTape = ([.arith .add ⟨0⟩ ⟨0⟩ ⟨0⟩], ⟨[], 10⟩) := rfl
  have hends := Uniform.ends_tape
    ((instructions 1 rejectedTape).1.flatMap Instruction.draws) rejectedTape
  obtain ⟨hforth, hback, -⟩ := draws_in_text_order
  obtain ⟨es, haccount, -, hleft⟩ := hforth rejectedTape 1 hends
  rw [hdrawn] at haccount hleft
  have htaken : wordsTaken es = 10 := by
    have hused : 10 = 0 + wordsTaken es := by
      rw [Tape.after_eq] at hleft
      exact congrArg Tape.used hleft
    omega
  have hwords : ∀ k < wordsTaken es, word continuedTape k = word rejectedTape k := by
    rw [htaken]
    decide
  have hbears : Bears continuedTape 0 es :=
    (haccount.congr fun k _ hk => (hwords k (by omega)).symm).bears (Tape.patient _)
  have hline := (hback _ [.arith .add ⟨0⟩ ⟨0⟩ ⟨0⟩] es haccount continuedTape hwords hbears).1
  rw [htaken, Tape.after_eq] at hline
  exact ⟨hends, es, haccount, htaken, hwords, hbears, hline⟩

end Synthesis
end StressBench
