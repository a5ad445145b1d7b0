/-
# Drawing instructions

An instruction is drawn from a source of words: first its opcode, uniformly
among the seven, then its operands in the order in which they are written. The
opcode and the registers are drawn from words of 64 bits, memory operands from
words of 32. Registers are drawn with repetition.

Key definitions: `Synthesis.nextInstruction`, `Synthesis.instructions`.
-/
import StressBench.Grammar.Instruction
import StressBench.Random.Source

namespace StressBench
namespace Synthesis

variable {σ : Type} [WordSource σ]

/-- Draws an opcode. -/
def nextOpcode (s : σ) : Opcode × σ :=
  let (i, s) := Uniform.draw .double 7 s
  (.ofIndex i, s)

/-- Draws a register. -/
def nextRegister (s : σ) : Register × σ :=
  let (i, s) := Uniform.draw .double 10 s
  (⟨i⟩, s)

/-- Draws a memory operand. -/
def nextAddress (s : σ) : Address × σ :=
  let (v, s) := Uniform.draw .single (addressMax + 1) s
  (⟨v⟩, s)

/-- Draws an instruction. -/
def nextInstruction (s : σ) : Instruction × σ :=
  match nextOpcode s with
  | (.arith op, s) =>
    let (lhs, s) := nextRegister s
    let (rhs, s) := nextRegister s
    let (dst, s) := nextRegister s
    (.arith op lhs rhs dst, s)
  | (.move, s) =>
    let (src, s) := nextRegister s
    let (dst, s) := nextRegister s
    (.move src dst, s)
  | (.load, s) =>
    let (addr, s) := nextAddress s
    let (dst, s) := nextRegister s
    (.load addr dst, s)
  | (.store, s) =>
    let (src, s) := nextRegister s
    let (addr, s) := nextAddress s
    (.store src addr, s)

/-- Draws instructions, `n` of them, in order. -/
def instructions : Nat → σ → List Instruction × σ
  | 0, s => ([], s)
  | n + 1, s =>
    let (i, s) := nextInstruction s
    let (is, s) := instructions n s
    (i :: is, s)

theorem length_instructions (n : Nat) (s : σ) : (instructions n s).1.length = n := by
  induction n generalizing s with
  | zero => rfl
  | succ n ih => simp [instructions, ih]

end Synthesis
end StressBench
