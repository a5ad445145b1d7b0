/-
# Instructions have equal shares of the words

The lists of words from which draws give their values, with no word left and none rejected, are
put together from the words that are accepted for each draw. So their number is the product of
the shares of the draws, and the share of a draw depends on its range only. For an instruction
it depends on how many registers and memory operands it has: all instructions of an opcode have
the same, and so have all opcodes.

Key definitions: `Uniform.wordCount`, `Uniform.Served`, `Instruction.wordCount`,
`Synthesis.WordsOf`.
Key theorems: `Uniform.served_cons`, `Uniform.ncard_served`,
`Synthesis.instructions_have_equal_shares`.
-/
import StressBench.Proofs.Random.Shares
import StressBench.Proofs.Random.Tape
import StressBench.Proofs.Synthesis.Draws

namespace StressBench

/-! ### Lists of words for draws -/

namespace Uniform

/-- The number of 32-bit words that draws take when none is rejected. -/
def wordCount (ds : List Draw) : Nat :=
  (ds.map fun d => d.width.words).sum

/-- The lists of so many words from which the draws give their values, so that what follows is
left and no more has been taken. -/
def Served (ds : List Draw) (rest : List UInt32) (used : Nat) : Set (List UInt32) :=
  {ws | ws.length = wordCount ds ∧
    Gives ds (⟨ws ++ rest, used⟩ : Tape) ⟨rest, used + wordCount ds⟩}

/-- The number of words that give the value of a draw. -/
def Draw.share (d : Draw) : Nat :=
  2 ^ shift d.width.bits d.count

theorem wordCount_cons (d : Draw) (ds : List Draw) :
    wordCount (d :: ds) = d.width.words + wordCount ds := by
  rw [wordCount, List.map_cons, List.sum_cons, wordCount]

/-- Draws take at least as many words as they take when none is rejected. -/
theorem used_le_of_gives : ∀ {ds : List Draw} {t t' : Tape}, Gives ds t t' →
    t.used + wordCount ds ≤ t'.used
  | [], t, t', h => by
    obtain rfl := h
    exact Nat.le_refl _
  | d :: ds, t, t', h => by
    have hfirst : t.used + d.width.words ≤ (d.result t).2.used := used_le_draw d.width d.pos t
    have hothers := used_le_of_gives h.2
    rw [wordCount_cons]
    omega

/-- **A list for draws is an accepted word for the first and a list for the others.** -/
theorem served_cons (d : Draw) (ds : List Draw) (rest : List UInt32) (used : Nat) :
    Served (d :: ds) rest used = (fun p => d.width.split p.1 ++ p.2) ''
      ({v | accept? d.pos v = some d.value} ×ˢ Served ds rest (used + d.width.words)) := by
  ext ws
  constructor
  · rintro ⟨hlength, hvalue, hgives⟩
    rw [wordCount_cons] at hlength hgives
    obtain ⟨v, ws, rfl⟩ := exists_split d.width (by omega : d.width.words ≤ ws.length)
    rw [List.length_append, d.width.length_split] at hlength
    rw [List.append_assoc] at hvalue hgives
    generalize ht : (⟨d.width.split v ++ (ws ++ rest), used⟩ : Tape) = t at hvalue hgives
    have htake : take d.width t = (v, ⟨ws ++ rest, used + d.width.words⟩) :=
      ht ▸ take_split d.width v (ws ++ rest) used
    -- the others take their words at least, so that the first takes no more than one
    have hused : (d.result t).2.used = t.used + d.width.words := by
      have hfirst : t.used + d.width.words ≤ (d.result t).2.used := used_le_draw d.width d.pos t
      have hothers := used_le_of_gives hgives
      have hstart : t.used = used := by rw [← ht]
      dsimp only at hothers
      omega
    obtain ⟨haccept, hleft⟩ := draw_of_used hused
    rw [htake] at haccept hleft
    have hlength' : ws.length = wordCount ds := by omega
    refine ⟨(v, ws), ⟨?_, hlength', ?_⟩, rfl⟩
    · rw [← hvalue]
      exact haccept
    · have hothers : Gives ds (d.result t).2 ⟨rest, used + (d.width.words + wordCount ds)⟩ := hgives
      rw [show (d.result t).2 = _ from hleft, ← Nat.add_assoc] at hothers
      exact hothers
  · rintro ⟨⟨v, ws⟩, ⟨haccept, hlength, hgives⟩, rfl⟩
    have hresult : d.result (⟨d.width.split v ++ (ws ++ rest), used⟩ : Tape) =
        (d.value, ⟨ws ++ rest, used + d.width.words⟩) := by
      have htake := take_split d.width v (ws ++ rest) used
      have hdraw := draw_of_accept (w := d.width) (by rw [htake]; exact haccept)
      rw [htake] at hdraw
      exact hdraw
    refine ⟨?_, ?_⟩
    · rw [List.length_append, d.width.length_split, hlength, wordCount_cons]
    · dsimp only
      rw [List.append_assoc, Gives, hresult, wordCount_cons, ← Nat.add_assoc]
      exact ⟨rfl, hgives⟩

/-- **The lists for draws are as many as the product of their shares.** -/
theorem ncard_served {ds : List Draw} (h : ∀ d ∈ ds, d.count < 2 ^ d.width.bits)
    (rest : List UInt32) (used : Nat) :
    (Served ds rest used).ncard = (ds.map Draw.share).prod := by
  induction ds generalizing used with
  | nil =>
    have hnil : Served [] rest used = {[]} := by
      ext ws
      refine ⟨fun hws => List.eq_nil_of_length_eq_zero hws.1, ?_⟩
      rintro rfl
      exact ⟨rfl, rfl⟩
    rw [hnil, Set.ncard_singleton, List.map_nil, List.prod_nil]
  | cons d ds ih =>
    have hinjective : Function.Injective
        fun p : BitVec d.width.bits × List UInt32 => d.width.split p.1 ++ p.2 := by
      rintro ⟨v, ws⟩ ⟨v', ws'⟩ (happend : d.width.split v ++ ws = d.width.split v' ++ ws')
      have htake := take_split d.width v ws 0
      rw [happend, take_split] at htake
      simpa using htake.symm
    rw [served_cons, Set.ncard_image_of_injective _ hinjective, Set.ncard_prod,
      ncard_accepted d.pos (h d List.mem_cons_self),
      ih (fun x hx => h x (List.mem_cons_of_mem _ hx)), List.map_cons, List.prod_cons, Draw.share]

end Uniform

/-! ### Lists of words for instructions -/

/-- The number of words that an operand takes when none is rejected. -/
def Operand.wordCount : Operand → Nat
  | .register _ => 2
  | .address _ => 1

/-- The number of words that an instruction takes when none is rejected: two for the opcode, and
those of the operands. -/
def Instruction.wordCount (i : Instruction) : Nat :=
  2 + (i.operands.map Operand.wordCount).sum

/-- The share of an operand. -/
def Operand.share : Operand → Nat
  | .register _ => 2 ^ 60
  | .address _ => 2 ^ 22

theorem Operand.share_draw (o : Operand) : o.draw.share = o.share := by
  cases o with
  | register r => exact congrArg (2 ^ ·) (by decide : Uniform.shift 64 10 = 60)
  | address a => exact congrArg (2 ^ ·) (by decide : Uniform.shift 32 (addressMax + 1) = 22)

theorem Opcode.share_draw (o : Opcode) : o.draw.share = 2 ^ 61 :=
  congrArg (2 ^ ·) (by decide : Uniform.shift 64 7 = 61)

theorem Instruction.wordCount_draws (i : Instruction) :
    Uniform.wordCount i.draws = i.wordCount := by
  rw [draws, Uniform.wordCount_cons, wordCount, Uniform.wordCount, List.map_map]
  congr 2
  exact List.map_congr_left fun o _ => by cases o <;> rfl

theorem Instruction.count_lt_of_mem_draws {i : Instruction} {d : Uniform.Draw} (h : d ∈ i.draws) :
    d.count < 2 ^ d.width.bits := by
  rcases List.mem_cons.mp h with rfl | h
  · show 7 < 2 ^ 64
    decide
  · obtain ⟨o, -, rfl⟩ := List.mem_map.mp h
    cases o with
    | register r => show 10 < 2 ^ 64; decide
    | address a => show addressMax + 1 < 2 ^ 32; decide

namespace Synthesis

open StressBench.Uniform (Served)

/-- The lists of so many words from which the instruction is drawn, so that what follows is left
and no more has been taken. -/
def WordsOf (i : Instruction) (rest : List UInt32) (used : Nat) : Set (List UInt32) :=
  {ws | ws.length = i.wordCount ∧
    nextInstruction (⟨ws ++ rest, used⟩ : Tape) = (i, ⟨rest, used + i.wordCount⟩)}

/-- The lists of two words from which the opcode is drawn, likewise. -/
def WordsOfOpcode (o : Opcode) (rest : List UInt32) (used : Nat) : Set (List UInt32) :=
  {ws | ws.length = 2 ∧ nextOpcode (⟨ws ++ rest, used⟩ : Tape) = (o, ⟨rest, used + 2⟩)}

theorem wordsOf_eq_served (i : Instruction) (rest : List UInt32) (used : Nat) :
    WordsOf i rest used = Served i.draws rest used := by
  ext ws
  show _ ∧ _ ↔ _ ∧ _
  rw [nextInstruction_eq_iff, i.wordCount_draws]

theorem wordsOfOpcode_eq_served (o : Opcode) (rest : List UInt32) (used : Nat) :
    WordsOfOpcode o rest used = Served [o.draw] rest used := by
  ext ws
  show _ ∧ _ ↔ _ ∧ _
  rw [gives_opcode_iff, gives_nil, Prod.ext_iff]
  rfl

/-- **The number of lists for an instruction.** -/
theorem ncard_wordsOf (i : Instruction) (rest : List UInt32) (used : Nat) :
    (WordsOf i rest used).ncard = 2 ^ 61 * (i.operands.map Operand.share).prod := by
  have hshares : (i.operands.map Operand.draw).map Uniform.Draw.share =
      i.operands.map Operand.share := by
    rw [List.map_map]
    exact List.map_congr_left fun o _ => o.share_draw
  rw [wordsOf_eq_served, Uniform.ncard_served fun d => Instruction.count_lt_of_mem_draws,
    Instruction.draws, List.map_cons, List.prod_cons, Opcode.share_draw, hshares]

theorem ncard_wordsOfOpcode (o : Opcode) (rest : List UInt32) (used : Nat) :
    (WordsOfOpcode o rest used).ncard = 2 ^ 61 := by
  have hroom : ∀ d ∈ [o.draw], d.count < 2 ^ d.width.bits := by
    intro d hd
    obtain rfl := List.mem_singleton.mp hd
    show 7 < 2 ^ 64
    decide
  rw [wordsOfOpcode_eq_served, Uniform.ncard_served hroom, List.map_singleton,
    List.prod_singleton, Opcode.share_draw]

/-- The opcode fixes the kinds of the operands and with them their shares. -/
theorem share_operands (i : Instruction) : i.operands.map Operand.share = match i.opcode with
    | .arith _ => [2 ^ 60, 2 ^ 60, 2 ^ 60]
    | .move => [2 ^ 60, 2 ^ 60]
    | .load => [2 ^ 22, 2 ^ 60]
    | .store => [2 ^ 60, 2 ^ 22] := by
  cases i <;> rfl

/-- **Instructions are drawn exactly uniformly.** Counted in the lists of words from which an
instruction is drawn without a rejection, whatever follows them, its share is 2^61 for the opcode,
times 2^60 for each register and 2^22 for a memory operand. So all instructions of an opcode have
the same share, registers that are repeated or not; every instruction is drawn from some words;
and the opcodes have equal shares of the words that are accepted first. -/
theorem instructions_have_equal_shares :
    (∀ (i : Instruction) (rest : List UInt32) (used : Nat),
      (WordsOf i rest used).ncard = 2 ^ 61 * (i.operands.map Operand.share).prod) ∧
    (∀ (i j : Instruction) (rest : List UInt32) (used : Nat), i.opcode = j.opcode →
      (WordsOf i rest used).ncard = (WordsOf j rest used).ncard) ∧
    (∀ (i : Instruction) (rest : List UInt32) (used : Nat), (WordsOf i rest used).Nonempty) ∧
    ∀ (o : Opcode) (rest : List UInt32) (used : Nat),
      (WordsOfOpcode o rest used).ncard = 2 ^ 61 := by
  refine ⟨ncard_wordsOf, fun i j rest used h => ?_, fun i rest used => ?_, ncard_wordsOfOpcode⟩
  · rw [ncard_wordsOf, ncard_wordsOf, share_operands i, share_operands j, h]
  · have hpos : 0 < (i.operands.map Operand.share).prod := by
      cases i <;> simp [Instruction.operands, Operand.share]
    refine Set.nonempty_of_ncard_ne_zero ?_
    rw [ncard_wordsOf]
    exact Nat.ne_of_gt (Nat.mul_pos (Nat.two_pow_pos _) hpos)

/-- A line with one register three times has the share of one with three registers. -/
theorem repeated_register_share :
    (WordsOf (.arith .add ⟨4⟩ ⟨4⟩ ⟨4⟩) [] 0).ncard =
      (WordsOf (.arith .add ⟨0⟩ ⟨1⟩ ⟨2⟩) [] 0).ncard :=
  instructions_have_equal_shares.2.1 _ _ [] 0 rfl

end Synthesis
end StressBench
