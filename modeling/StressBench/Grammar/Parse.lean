/-
# Reading an instruction

A line is read by its tokens: the mnemonic names the shape, the shape fixes
where the words `with` and `to` stand, and then the operands are read from the
left. Only the canonical form is an instruction: what has been read must be
written exactly as the line. Reading tells the first thing that is wrong, in
that order.

Key definitions: `ParseError`, `Register.parse?`, `Address.parse?`, `Instruction.parse`.
Key theorem: `Instruction.render_of_parse`.
-/
import StressBench.Grammar.Instruction

namespace StressBench

/-- Why a line is not an instruction. -/
inductive ParseError
  | empty
  | unknownMnemonic (token : Text)
  | wrongShape (mnemonic : Text) (shape : Shape)
  | badRegister (token : Text)
  | badAddress (token : Text)
  | nonCanonical
  deriving DecidableEq, Repr

/-- The sentence that names the error. -/
def ParseError.message : ParseError → String
  | .empty => "empty line"
  | .unknownMnemonic t => "unknown mnemonic `" ++ String.ofList t ++ "`"
  | .wrongShape m s => "`" ++ String.ofList m ++ "` expects the shape `" ++ s.template ++ "`"
  | .badRegister t => "`" ++ String.ofList t ++ "` is not a register (expected r0..r9)"
  | .badAddress t =>
    "`" ++ String.ofList t ++ "` is not a memory operand (expected m<0>..m<" ++
      toString addressMax ++ ">)"
  | .nonCanonical => "line is not in canonical single-space form"

/-- A register token is `r` and one ASCII digit. -/
def Register.parse? : Text → Option Register
  | ['r', d] => if d.isDigit then Register.ofNat? (Decimal.value [d]) else none
  | _ => none

/-- A memory token is `m<`, one or more ASCII digits of a number in range, and
`>`; zeros in front are read too. -/
def Address.parse? : Text → Option Address
  | 'm' :: '<' :: rest =>
    let ds := rest.dropLast
    if rest.getLast? = some '>' ∧ Decimal.isNumeral ds then Address.ofNat? (Decimal.value ds)
    else none
  | _ => none

namespace Instruction

/-- A register token, or the error that it is none. -/
def readRegister (token : Text) : Except ParseError Register :=
  match Register.parse? token with
  | some r => .ok r
  | none => .error (.badRegister token)

/-- A memory token, or the error that it is none. -/
def readAddress (token : Text) : Except ParseError Address :=
  match Address.parse? token with
  | some a => .ok a
  | none => .error (.badAddress token)

/-- The instruction of an opcode and the tokens after the mnemonic. -/
def readOperands (opcode : Opcode) (rest : List Text) : Except ParseError Instruction :=
  match opcode, rest with
  | .arith op, [lhs, w, rhs, t, dst] =>
    if w = withWord ∧ t = toWord then do
      let lhs ← readRegister lhs
      let rhs ← readRegister rhs
      let dst ← readRegister dst
      return .arith op lhs rhs dst
    else .error (.wrongShape opcode.mnemonic opcode.shape)
  | .move, [src, t, dst] =>
    if t = toWord then do
      let src ← readRegister src
      let dst ← readRegister dst
      return .move src dst
    else .error (.wrongShape opcode.mnemonic opcode.shape)
  | .load, [addr, t, dst] =>
    if t = toWord then do
      let addr ← readAddress addr
      let dst ← readRegister dst
      return .load addr dst
    else .error (.wrongShape opcode.mnemonic opcode.shape)
  | .store, [src, t, addr] =>
    if t = toWord then do
      let src ← readRegister src
      let addr ← readAddress addr
      return .store src addr
    else .error (.wrongShape opcode.mnemonic opcode.shape)
  | _, _ => .error (.wrongShape opcode.mnemonic opcode.shape)

/-- The instruction that the tokens of a line spell, blanks aside. -/
def ofTokens : List Text → Except ParseError Instruction
  | [] => .error .empty
  | mnemonic :: rest =>
    match Opcode.ofMnemonic? mnemonic with
    | none => .error (.unknownMnemonic mnemonic)
    | some opcode => readOperands opcode rest

/-- The instruction that a line is. -/
def parse (line : Text) : Except ParseError Instruction :=
  match ofTokens (Text.tokens line) with
  | .error e => .error e
  | .ok i => if i.render = line then .ok i else .error .nonCanonical

/-- What is read is written back as it was. -/
theorem render_of_parse {line : Text} {i : Instruction} (h : parse line = .ok i) :
    i.render = line := by
  unfold parse at h
  split at h
  · cases h
  · split at h
    · next h' => cases h; exact h'
    · cases h

end Instruction
end StressBench
