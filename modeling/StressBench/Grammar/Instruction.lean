/-
# Instructions of a stress corpus

The vocabulary of the assembly language that the compiler under test reads: ten
registers, memory operands `m<0>` to `m<1000>`, and seven opcodes in four shapes.
An instruction is an opcode with the operands that its shape asks for, so every
value of the type is a line of the language; `Instruction.render` writes it.

Key definitions: `Register`, `Address`, `Opcode`, `Shape`, `Instruction`,
`Instruction.operands`, `Instruction.render`.
-/
import StressBench.Number.Decimal

namespace StressBench

/-! ### Operands -/

/-- One of the registers `r0` to `r9`. -/
structure Register where
  index : Fin 10
  deriving DecidableEq, Repr

/-- The largest memory operand. -/
def addressMax : Nat := 1000

/-- One of the memory operands `m<0>` to `m<1000>`. -/
structure Address where
  value : Fin (addressMax + 1)
  deriving DecidableEq, Repr

namespace Register

/-- The register of an index, if there is one. -/
def ofNat? (index : Nat) : Option Register :=
  if h : index < 10 then some ⟨⟨index, h⟩⟩ else none

/-- All registers, by index. -/
def all : List Register :=
  (List.finRange 10).map Register.mk

/-- A register is written `r` and its index. -/
def render (r : Register) : Text :=
  'r' :: Decimal.digits r.index

instance : LE Register := ⟨fun a b => a.index ≤ b.index⟩

instance (a b : Register) : Decidable (a ≤ b) := inferInstanceAs (Decidable (a.index ≤ b.index))

end Register

namespace Address

/-- The memory operand of a number, if there is one. -/
def ofNat? (value : Nat) : Option Address :=
  if h : value < addressMax + 1 then some ⟨⟨value, h⟩⟩ else none

/-- A memory operand is written `m<`, its number and `>`. -/
def render (a : Address) : Text :=
  'm' :: '<' :: (Decimal.digits a.value ++ ['>'])

instance : LE Address := ⟨fun a b => a.value ≤ b.value⟩

instance (a b : Address) : Decidable (a ≤ b) := inferInstanceAs (Decidable (a.value ≤ b.value))

end Address

/-- An operand of an instruction. -/
inductive Operand
  | register (r : Register)
  | address (a : Address)
  deriving DecidableEq, Repr

/-- An operand is written as the register or memory operand that it is. -/
def Operand.render : Operand → Text
  | .register r => r.render
  | .address a => a.render

/-! ### Opcodes and shapes -/

/-- The four shapes that an instruction can have. -/
inductive Shape
  | binaryArithmetic
  | move
  | load
  | store
  deriving DecidableEq, Repr

namespace Shape

/-- All shapes. -/
def all : List Shape := [.binaryArithmetic, .move, .load, .store]

/-- The number of registers that the shape takes. -/
def registerCount : Shape → Nat
  | .binaryArithmetic => 3
  | .move => 2
  | .load | .store => 1

/-- Whether the shape takes a memory operand. -/
def takesAddress : Shape → Bool
  | .load | .store => true
  | .binaryArithmetic | .move => false

/-- The shape as a reader of an error message sees it. -/
def template : Shape → String
  | .binaryArithmetic => "<op> <r1> with <r2> to <r3>"
  | .move => "move <r1> to <r2>"
  | .load => "load m<<addr>> to <r1>"
  | .store => "store <r1> to m<<addr>>"

end Shape

/-- The four operations on two registers. -/
inductive ArithOp
  | add
  | sub
  | multiply
  | divide
  deriving DecidableEq, Repr

/-- The seven opcodes. -/
inductive Opcode
  | arith (op : ArithOp)
  | move
  | load
  | store
  deriving DecidableEq, Repr

/-- The word that names an arithmetic operation. -/
def ArithOp.mnemonic : ArithOp → Text
  | .add => ['a', 'd', 'd']
  | .sub => ['s', 'u', 'b']
  | .multiply => ['m', 'u', 'l', 't', 'i', 'p', 'l', 'y']
  | .divide => ['d', 'i', 'v', 'i', 'd', 'e']

namespace Opcode

/-- All opcodes, in the order in which they are numbered for sampling. -/
def all : List Opcode :=
  [.arith .add, .arith .sub, .arith .multiply, .arith .divide, .move, .load, .store]

/-- The opcode of a number below seven. -/
def ofIndex (i : Fin 7) : Opcode :=
  all.get i

/-- The word that an instruction begins with. -/
def mnemonic : Opcode → Text
  | .arith op => op.mnemonic
  | .move => ['m', 'o', 'v', 'e']
  | .load => ['l', 'o', 'a', 'd']
  | .store => ['s', 't', 'o', 'r', 'e']

/-- The shape that the opcode asks for. -/
def shape : Opcode → Shape
  | .arith _ => .binaryArithmetic
  | .move => .move
  | .load => .load
  | .store => .store

/-- The opcode of a word, if it is one. -/
def ofMnemonic? (word : Text) : Option Opcode :=
  all.find? fun o => o.mnemonic == word

end Opcode

/-! ### Instructions -/

/-- An instruction: an opcode with the operands of its shape. -/
inductive Instruction
  | arith (op : ArithOp) (lhs rhs dst : Register)
  | move (src dst : Register)
  | load (addr : Address) (dst : Register)
  | store (src : Register) (addr : Address)
  deriving DecidableEq, Repr

namespace Instruction

/-- The opcode of an instruction. -/
def opcode : Instruction → Opcode
  | .arith op .. => .arith op
  | .move .. => .move
  | .load .. => .load
  | .store .. => .store

/-- The shape of an instruction. -/
def shape (i : Instruction) : Shape :=
  i.opcode.shape

/-- The operands, in the order in which they are written. -/
def operands : Instruction → List Operand
  | .arith _ lhs rhs dst => [.register lhs, .register rhs, .register dst]
  | .move src dst => [.register src, .register dst]
  | .load addr dst => [.address addr, .register dst]
  | .store src addr => [.register src, .address addr]

/-- The word between the first two operands of an arithmetic instruction. -/
def withWord : Text := ['w', 'i', 't', 'h']

/-- The word before the last operand. -/
def toWord : Text := ['t', 'o']

/-- The words of an instruction, in order. -/
def words : Instruction → List Text
  | .arith op lhs rhs dst =>
    [op.mnemonic, lhs.render, withWord, rhs.render, toWord, dst.render]
  | .move src dst => [Opcode.move.mnemonic, src.render, toWord, dst.render]
  | .load addr dst => [Opcode.load.mnemonic, addr.render, toWord, dst.render]
  | .store src addr => [Opcode.store.mnemonic, src.render, toWord, addr.render]

/-- An instruction is written as its words with one space between them. -/
def render (i : Instruction) : Text :=
  [' '].intercalate i.words

/-- The instruction of an opcode with registers and memory operands given in
the order in which they are written, when they are those that its shape takes. -/
def build? (opcode : Opcode) (registers : List Register) (addresses : List Address) :
    Option Instruction :=
  match opcode, registers, addresses with
  | .arith op, [lhs, rhs, dst], [] => some (.arith op lhs rhs dst)
  | .move, [src, dst], [] => some (.move src dst)
  | .load, [dst], [addr] => some (.load addr dst)
  | .store, [src], [addr] => some (.store src addr)
  | _, _, _ => none

end Instruction

theorem Opcode.ofMnemonic?_mnemonic (o : Opcode) : Opcode.ofMnemonic? o.mnemonic = some o := by
  cases o with
  | arith op => cases op <;> decide
  | _ => decide

end StressBench
