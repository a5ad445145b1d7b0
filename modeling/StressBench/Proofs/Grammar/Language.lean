/-
# The language of instruction lines

The lines are described once more, by their characters and without the types of
the operands: a mnemonic, registers that are `r` and a digit, memory operands
that are `m<`, a numeral up to 1000 and `>`, and single spaces. A text is a line
of this language exactly when it reads as an instruction, which is then the only
one that is written so.

Key definitions: `RegisterText`, `AddressText`, `InstructionText`.
Key theorems: `Instruction.parse_render`, `Instruction.parse_eq_ok_iff`,
`Instruction.instructionText_iff`.
-/
import StressBench.Grammar.Parse
import StressBench.Proofs.Number.Numeral
import StressBench.Proofs.Text.Splitting

namespace StressBench

/-! ### The grammar -/

/-- `r` and one ASCII digit. -/
def RegisterText (t : Text) : Prop :=
  ∃ d : Char, d.isDigit = true ∧ t = "r".toList ++ [d]

/-- `m<`, the numeral of a number up to 1000 without superfluous zeros, and `>`. -/
def AddressText (t : Text) : Prop :=
  ∃ ds : Text, Decimal.IsCanonical ds ∧ Decimal.value ds ≤ 1000 ∧
    t = "m<".toList ++ ds ++ ">".toList

/-- A line: a mnemonic, its operands and the words between them, with one space
where two of these meet and nothing before or after. -/
inductive InstructionText : Text → Prop
  | arith {op a b c : Text}
      (hop : op ∈ ["add".toList, "sub".toList, "multiply".toList, "divide".toList])
      (ha : RegisterText a) (hb : RegisterText b) (hc : RegisterText c) :
      InstructionText (op ++ " ".toList ++ a ++ " with ".toList ++ b ++ " to ".toList ++ c)
  | move {a b : Text} (ha : RegisterText a) (hb : RegisterText b) :
      InstructionText ("move ".toList ++ a ++ " to ".toList ++ b)
  | load {m a : Text} (hm : AddressText m) (ha : RegisterText a) :
      InstructionText ("load ".toList ++ m ++ " to ".toList ++ a)
  | store {a m : Text} (ha : RegisterText a) (hm : AddressText m) :
      InstructionText ("store ".toList ++ a ++ " to ".toList ++ m)

/-! ### Operands -/

namespace Register

theorem render_eq (r : Register) : r.render = ['r', (r.index : Nat).digitChar] := by
  rw [render, Decimal.digits_of_lt r.index.isLt]

theorem parse?_render (r : Register) : parse? r.render = some r := by
  have hd : (r.index : Nat).digitChar.isDigit = true := by
    rw [Nat.isDigit_digitChar]
    exact decide_eq_true r.index.isLt
  have hv : Decimal.value [(r.index : Nat).digitChar] = r.index := by
    rw [← Decimal.digits_of_lt r.index.isLt, Decimal.value_digits]
  rw [render_eq, parse?, if_pos hd, hv, ofNat?, dif_pos r.index.isLt]

theorem registerText_render (r : Register) : RegisterText r.render := by
  refine ⟨(r.index : Nat).digitChar, ?_, render_eq r⟩
  rw [Nat.isDigit_digitChar]
  exact decide_eq_true r.index.isLt

theorem exists_render {t : Text} (h : RegisterText t) : ∃ r : Register, r.render = t := by
  obtain ⟨d, hd, rfl⟩ := h
  have hb := Decimal.toNat_bounds hd
  refine ⟨⟨⟨d.toNat - 48, by omega⟩⟩, ?_⟩
  rw [render_eq, Decimal.digitChar_toNat_sub hd]
  rfl

end Register

namespace Address

theorem value_le (a : Address) : (a.value : Nat) ≤ 1000 :=
  Nat.le_of_lt_succ a.value.isLt

theorem parse?_render (a : Address) : parse? a.render = some a := by
  have hlast : (Decimal.digits a.value ++ ['>']).getLast? = some '>' := List.getLast?_concat
  rw [render, parse?]
  simp only [List.dropLast_concat]
  rw [if_pos ⟨hlast, Decimal.isNumeral_digits _⟩, Decimal.value_digits, ofNat?,
    dif_pos a.value.isLt]

theorem addressText_render (a : Address) : AddressText a.render := by
  refine ⟨Decimal.digits a.value, Decimal.isCanonical_digits _, ?_, rfl⟩
  rw [Decimal.value_digits]
  exact a.value_le

theorem exists_render {t : Text} (h : AddressText t) : ∃ a : Address, a.render = t := by
  obtain ⟨ds, hds, hv, rfl⟩ := h
  refine ⟨⟨⟨Decimal.value ds, Nat.lt_succ_of_le hv⟩⟩, ?_⟩
  rw [render, Decimal.digits_value hds]
  rfl

end Address

theorem ArithOp.exists_mnemonic {op : Text}
    (h : op ∈ ["add".toList, "sub".toList, "multiply".toList, "divide".toList]) :
    ∃ o : ArithOp, o.mnemonic = op := by
  simp only [List.mem_cons, List.not_mem_nil, or_false] at h
  rcases h with rfl | rfl | rfl | rfl
  · exact ⟨.add, rfl⟩
  · exact ⟨.sub, rfl⟩
  · exact ⟨.multiply, rfl⟩
  · exact ⟨.divide, rfl⟩

theorem ArithOp.mnemonic_mem (o : ArithOp) :
    o.mnemonic ∈ ["add".toList, "sub".toList, "multiply".toList, "divide".toList] := by
  cases o <;> decide

/-! ### Words -/

theorem Register.isWord_render (r : Register) : Text.IsWord r.render := by
  obtain ⟨d, hd, hr⟩ := r.registerText_render
  rw [hr]
  refine ⟨by simp, fun c hc => ?_⟩
  rcases List.mem_append.mp hc with hc | hc
  · rw [List.mem_singleton.mp hc]
    decide
  · rw [List.mem_singleton.mp hc]
    exact Decimal.isBlank_of_isDigit hd

theorem Address.isWord_render (a : Address) : Text.IsWord a.render := by
  refine ⟨by simp [Address.render], fun c hc => ?_⟩
  rw [Address.render] at hc
  rcases List.mem_cons.mp hc with rfl | hc
  · decide
  rcases List.mem_cons.mp hc with rfl | hc
  · decide
  rcases List.mem_append.mp hc with hc | hc
  · exact Decimal.isBlank_of_isDigit ((Decimal.isCanonical_digits _).2.1 c hc)
  · rw [List.mem_singleton.mp hc]
    decide

theorem Opcode.isWord_mnemonic (o : Opcode) : Text.IsWord o.mnemonic := by
  cases o with
  | arith op => cases op <;> decide
  | _ => decide

namespace Instruction

theorem isWord_withWord : Text.IsWord withWord := by decide

theorem isWord_toWord : Text.IsWord toWord := by decide

theorem isWord_words (i : Instruction) : ∀ w ∈ i.words, Text.IsWord w := by
  cases i with
  | arith op lhs rhs dst =>
    simp only [words, List.forall_mem_cons, List.not_mem_nil, false_implies, implies_true, and_true]
    exact ⟨(Opcode.arith op).isWord_mnemonic, lhs.isWord_render, isWord_withWord,
      rhs.isWord_render, isWord_toWord, dst.isWord_render⟩
  | move src dst =>
    simp only [words, List.forall_mem_cons, List.not_mem_nil, false_implies, implies_true, and_true]
    exact ⟨Opcode.isWord_mnemonic _, src.isWord_render, isWord_toWord, dst.isWord_render⟩
  | load addr dst =>
    simp only [words, List.forall_mem_cons, List.not_mem_nil, false_implies, implies_true, and_true]
    exact ⟨Opcode.isWord_mnemonic _, addr.isWord_render, isWord_toWord, dst.isWord_render⟩
  | store src addr =>
    simp only [words, List.forall_mem_cons, List.not_mem_nil, false_implies, implies_true, and_true]
    exact ⟨Opcode.isWord_mnemonic _, src.isWord_render, isWord_toWord, addr.isWord_render⟩

theorem tokens_render (i : Instruction) : Text.tokens i.render = i.words :=
  Text.tokens_intercalate _ i.isWord_words

/-- After the mnemonic come the operands, with `with` and `to` between them. -/
theorem words_eq_cons (i : Instruction) : ∃ rest, i.words = i.opcode.mnemonic :: rest ∧
    rest.filter (fun t => t ≠ withWord ∧ t ≠ toWord) = i.operands.map Operand.render := by
  have hr (r : Register) : r.render ≠ withWord ∧ r.render ≠ toWord := by
    simp [Register.render, withWord, toWord]
  have ha (a : Address) : a.render ≠ withWord ∧ a.render ≠ toWord := by
    simp [Address.render, withWord, toWord]
  cases i with
  | arith op lhs rhs dst => exact ⟨_, rfl, by simp [hr, operands, Operand.render]⟩
  | move src dst => exact ⟨_, rfl, by simp [hr, operands, Operand.render]⟩
  | load addr dst => exact ⟨_, rfl, by simp [hr, ha, operands, Operand.render]⟩
  | store src addr => exact ⟨_, rfl, by simp [hr, ha, operands, Operand.render]⟩

/-! ### Reading what was written -/

theorem readRegister_render (r : Register) : readRegister r.render = .ok r := by
  rw [readRegister, Register.parse?_render]

theorem readAddress_render (a : Address) : readAddress a.render = .ok a := by
  rw [readAddress, Address.parse?_render]

theorem ofTokens_words (i : Instruction) : ofTokens i.words = .ok i := by
  obtain ⟨rest, hw, -⟩ := i.words_eq_cons
  rw [hw, ofTokens, Opcode.ofMnemonic?_mnemonic]
  cases i with
  | arith op lhs rhs dst =>
    cases hw
    simp only [opcode, readOperands, and_self, ↓reduceIte, readRegister_render]
    rfl
  | move src dst =>
    cases hw
    simp only [opcode, readOperands, ↓reduceIte, readRegister_render]
    rfl
  | load addr dst =>
    cases hw
    simp only [opcode, readOperands, ↓reduceIte, readRegister_render, readAddress_render]
    rfl
  | store src addr =>
    cases hw
    simp only [opcode, readOperands, ↓reduceIte, readRegister_render, readAddress_render]
    rfl

/-- **An instruction is read back from its line.** -/
theorem parse_render (i : Instruction) : parse i.render = .ok i := by
  rw [parse, tokens_render, ofTokens_words]
  exact if_pos rfl

theorem render_injective {i j : Instruction} (h : i.render = j.render) : i = j := by
  have hi := parse_render i
  rw [h, parse_render j] at hi
  exact (Except.ok.inj hi).symm

theorem parse_eq_ok_iff {s : Text} {i : Instruction} : parse s = .ok i ↔ i.render = s :=
  ⟨render_of_parse, fun h => h ▸ parse_render i⟩

/-! ### The lines are the language -/

theorem instructionText_render (i : Instruction) : InstructionText i.render := by
  cases i with
  | arith op lhs rhs dst =>
    have h := InstructionText.arith op.mnemonic_mem lhs.registerText_render
      rhs.registerText_render dst.registerText_render
    simpa [render, words, List.intercalate_cons_cons, withWord, toWord] using h
  | move src dst =>
    have h := InstructionText.move src.registerText_render dst.registerText_render
    simpa [render, words, List.intercalate_cons_cons, toWord, Opcode.mnemonic] using h
  | load addr dst =>
    have h := InstructionText.load addr.addressText_render dst.registerText_render
    simpa [render, words, List.intercalate_cons_cons, toWord, Opcode.mnemonic] using h
  | store src addr =>
    have h := InstructionText.store src.registerText_render addr.addressText_render
    simpa [render, words, List.intercalate_cons_cons, toWord, Opcode.mnemonic] using h

theorem exists_render {s : Text} (h : InstructionText s) : ∃ i : Instruction, i.render = s := by
  cases h with
  | arith hop ha hb hc =>
    obtain ⟨op, rfl⟩ := ArithOp.exists_mnemonic hop
    obtain ⟨lhs, rfl⟩ := Register.exists_render ha
    obtain ⟨rhs, rfl⟩ := Register.exists_render hb
    obtain ⟨dst, rfl⟩ := Register.exists_render hc
    exact ⟨.arith op lhs rhs dst, by
      simp [render, words, List.intercalate_cons_cons, withWord, toWord]⟩
  | move ha hb =>
    obtain ⟨src, rfl⟩ := Register.exists_render ha
    obtain ⟨dst, rfl⟩ := Register.exists_render hb
    exact ⟨.move src dst, by
      simp [render, words, List.intercalate_cons_cons, toWord, Opcode.mnemonic]⟩
  | load hm ha =>
    obtain ⟨addr, rfl⟩ := Address.exists_render hm
    obtain ⟨dst, rfl⟩ := Register.exists_render ha
    exact ⟨.load addr dst, by
      simp [render, words, List.intercalate_cons_cons, toWord, Opcode.mnemonic]⟩
  | store ha hm =>
    obtain ⟨src, rfl⟩ := Register.exists_render ha
    obtain ⟨addr, rfl⟩ := Address.exists_render hm
    exact ⟨.store src addr, by
      simp [render, words, List.intercalate_cons_cons, toWord, Opcode.mnemonic]⟩

theorem instructionText_iff (s : Text) : (∃ i, parse s = .ok i) ↔ InstructionText s := by
  constructor
  · rintro ⟨i, h⟩
    exact render_of_parse h ▸ instructionText_render i
  · intro h
    obtain ⟨i, rfl⟩ := exists_render h
    exact ⟨i, parse_render i⟩

/-- **Reading accepts the language and undoes writing.** A text reads as an
instruction exactly when it is a line of the language; it is then what the
instruction is written as, and its tokens are the mnemonic and, `with` and `to`
aside, the operands in order. Every instruction is read back from its line, and no
two have the same. -/
theorem parse_accepts_language :
    (∀ s : Text, (∃ i, parse s = .ok i) ↔ InstructionText s) ∧
      (∀ (s : Text) (i : Instruction), parse s = .ok i → i.render = s ∧
        ∃ rest, Text.tokens s = i.opcode.mnemonic :: rest ∧
          rest.filter (fun t => t ≠ withWord ∧ t ≠ toWord) = i.operands.map Operand.render) ∧
      (∀ i : Instruction, parse i.render = .ok i) ∧
      ∀ i j : Instruction, i.render = j.render → i = j := by
  refine ⟨instructionText_iff, fun s i h => ?_, parse_render, fun i j => render_injective⟩
  have hr := render_of_parse h
  refine ⟨hr, ?_⟩
  rw [← hr, tokens_render]
  exact i.words_eq_cons

/-- The longest numeral of a memory operand. -/
theorem parse_accepts_store :
    parse "store r9 to m<1000>".toList = .ok (.store ⟨9⟩ ⟨1000⟩) ∧
      ∃ rest, Text.tokens "store r9 to m<1000>".toList = "store".toList :: rest ∧
        rest.filter (fun t => t ≠ withWord ∧ t ≠ toWord) = ["r9".toList, "m<1000>".toList] := by
  have h : parse "store r9 to m<1000>".toList = .ok (.store ⟨9⟩ ⟨1000⟩) :=
    parse_eq_ok_iff.mpr (by decide)
  exact ⟨h, (parse_accepts_language.2.1 _ _ h).2⟩

end Instruction
end StressBench
