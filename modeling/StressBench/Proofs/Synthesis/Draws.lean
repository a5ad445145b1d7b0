/-
# The draws of an instruction

An instruction is drawn by its opcode and then by its operands, in the order in which they are
written: a register is a draw below ten from a word of 64 bits, a memory operand one below 1001
from a word of 32. So a source gives an instruction exactly when it gives the number of its
opcode and those of its operands, one after another.

Key definitions: `Uniform.Draw`, `Uniform.Gives`, `Instruction.draws`.
Key theorem: `Synthesis.nextInstruction_eq_iff`.
-/
import StressBench.Synthesis

namespace StressBench

/-! ### Draws with their results -/

namespace Uniform

/-- A draw below `count` from a word of a width, with the value that it gives. -/
structure Draw where
  width : Width
  count : Nat
  pos : 0 < count
  value : Fin count

variable {σ : Type} [WordSource σ]

/-- What the source gives when the draw is made. -/
def Draw.result (d : Draw) (s : σ) : Fin d.count × σ :=
  draw d.width d.count s d.pos

/-- The draws, made one after another from the first source, give their values and leave the
second source. -/
def Gives : List Draw → σ → σ → Prop
  | [], s, s' => s = s'
  | d :: ds, s, s' => (d.result s).1 = d.value ∧ Gives ds (d.result s).2 s'

end Uniform

/-! ### Instructions as draws -/

open StressBench.Uniform (Draw Gives)

/-- The number of an opcode for sampling. -/
def Opcode.index : Opcode → Fin 7
  | .arith .add => 0
  | .arith .sub => 1
  | .arith .multiply => 2
  | .arith .divide => 3
  | .move => 4
  | .load => 5
  | .store => 6

theorem Opcode.ofIndex_eq_iff {o : Opcode} : ∀ {k : Fin 7}, ofIndex k = o ↔ k = o.index := by
  cases o with
  | arith op => cases op <;> decide
  | move | load | store => decide

/-- The draw that gives an opcode. -/
def Opcode.draw (o : Opcode) : Draw :=
  ⟨.double, 7, Nat.succ_pos 6, o.index⟩

/-- The draw that gives an operand. -/
def Operand.draw : Operand → Draw
  | .register r => ⟨.double, 10, Nat.succ_pos 9, r.index⟩
  | .address a => ⟨.single, addressMax + 1, Nat.succ_pos addressMax, a.value⟩

/-- The draws that give an instruction: its opcode, and its operands as they are written. -/
def Instruction.draws (i : Instruction) : List Draw :=
  i.opcode.draw :: i.operands.map Operand.draw

namespace Synthesis

variable {σ : Type} [WordSource σ]

theorem gives_nil {s s' : σ} : Gives [] s s' ↔ s = s' :=
  Iff.rfl

theorem gives_opcode_iff {s s' : σ} {o : Opcode} {ds : List Draw} :
    Gives (o.draw :: ds) s s' ↔ (nextOpcode s).1 = o ∧ Gives ds (nextOpcode s).2 s' :=
  and_congr_left fun _ => Opcode.ofIndex_eq_iff.symm

theorem gives_register_iff {s s' : σ} {r : Register} {ds : List Draw} :
    Gives ((Operand.register r).draw :: ds) s s' ↔
      (nextRegister s).1 = r ∧ Gives ds (nextRegister s).2 s' :=
  and_congr_left fun _ => ⟨congrArg Register.mk, congrArg Register.index⟩

theorem gives_address_iff {s s' : σ} {a : Address} {ds : List Draw} :
    Gives ((Operand.address a).draw :: ds) s s' ↔
      (nextAddress s).1 = a ∧ Gives ds (nextAddress s).2 s' :=
  and_congr_left fun _ => ⟨congrArg Address.mk, congrArg Address.value⟩

/-- **An instruction is drawn by its opcode and its operands in order.** -/
theorem nextInstruction_eq_iff {s s' : σ} {i : Instruction} :
    nextInstruction s = (i, s') ↔ Gives i.draws s s' := by
  unfold nextInstruction
  rw [Instruction.draws, gives_opcode_iff]
  rcases nextOpcode s with ⟨o, s₁⟩
  cases o with
  | arith op =>
    cases i <;> simp [Instruction.opcode, Instruction.operands, gives_register_iff, gives_nil,
      and_assoc]
  | move =>
    cases i <;> simp [Instruction.opcode, Instruction.operands, gives_register_iff, gives_nil,
      and_assoc]
  | load =>
    cases i <;> simp [Instruction.opcode, Instruction.operands, gives_register_iff,
      gives_address_iff, gives_nil, and_assoc]
  | store =>
    cases i <;> simp [Instruction.opcode, Instruction.operands, gives_register_iff,
      gives_address_iff, gives_nil, and_assoc]

end Synthesis
end StressBench
