/-
# What is told of a line that is no instruction

The tokens of a line decide what is told of it: that there are none, that the first is no
mnemonic, that the others are not as many as its shape has places or do not have `with` and
`to` in theirs, and then the first token that the place where it stands does not take. The
places of each shape are listed here, and what a place takes is said by characters, as in the
language of lines, but with zeros in front of a numeral allowed.

Key definitions: `AddressToken`, `Slot`, `Shape.slots`, `Shape.HasForm`, `Shape.FirstBad`.
Key theorems: `Instruction.readOperands_of_form`, `Instruction.parse_eq_error_iff`,
`Instruction.parse_classifies`.
-/
import StressBench.Proofs.Grammar.Language
import Mathlib.Data.List.Basic

namespace StressBench

/-! ### Operand tokens -/

/-- `m<`, one or more ASCII digits of a number up to 1000, zeros in front or not, and `>`. -/
def AddressToken (t : Text) : Prop :=
  ∃ ds : Text, ds ≠ [] ∧ (∀ c ∈ ds, c.isDigit = true) ∧ Decimal.value ds ≤ 1000 ∧
    t = "m<".toList ++ ds ++ ">".toList

namespace Register

theorem parse?_eq_some_iff {t : Text} {r : Register} : parse? t = some r ↔ r.render = t := by
  refine ⟨fun h => ?_, fun h => h ▸ parse?_render r⟩
  have htext : RegisterText t := by
    unfold parse? at h
    split at h
    · next d =>
      split at h
      · next hd => exact ⟨d, hd, rfl⟩
      · cases h
    · cases h
  obtain ⟨s, rfl⟩ := exists_render htext
  rw [parse?_render] at h
  rw [Option.some.inj h]

theorem registerText_iff {t : Text} : RegisterText t ↔ ∃ r, parse? t = some r := by
  simp only [parse?_eq_some_iff]
  constructor
  · exact exists_render
  · rintro ⟨r, rfl⟩
    exact r.registerText_render

end Register

namespace Address

/-- A memory operand has a token for each number of zeros in front of its numeral. -/
theorem parse?_eq_some_iff {t : Text} {a : Address} :
    parse? t = some a ↔ ∃ ds : Text, Decimal.isNumeral ds = true ∧ Decimal.value ds = a.value ∧
      t = "m<".toList ++ ds ++ ">".toList := by
  constructor
  · intro h
    unfold parse? at h
    split at h
    · next rest =>
      dsimp only at h
      split at h
      · next hform =>
        obtain ⟨hlast, hds⟩ := hform
        refine ⟨rest.dropLast, hds, ?_, ?_⟩
        · unfold ofNat? at h
          split at h
          · cases h
            rfl
          · cases h
        · obtain ⟨ds, rfl⟩ := List.getLast?_eq_some_iff.mp hlast
          simp
      · cases h
    · cases h
  · rintro ⟨ds, hds, hvalue, rfl⟩
    show parse? ('m' :: '<' :: (ds ++ ['>'])) = some a
    have hlast : (ds ++ ['>']).getLast? = some '>' := List.getLast?_concat
    simp only [parse?, List.dropLast_concat]
    rw [if_pos ⟨hlast, hds⟩, hvalue, ofNat?, dif_pos a.value.isLt]

theorem addressToken_iff {t : Text} : AddressToken t ↔ ∃ a, parse? t = some a := by
  simp only [parse?_eq_some_iff, Decimal.isNumeral_iff]
  constructor
  · rintro ⟨ds, hne, hdigits, hle, rfl⟩
    exact ⟨⟨⟨Decimal.value ds, Nat.lt_succ_of_le hle⟩⟩, ds, ⟨hne, hdigits⟩, rfl, rfl⟩
  · rintro ⟨a, ds, ⟨hne, hdigits⟩, hvalue, rfl⟩
    exact ⟨ds, hne, hdigits, hvalue ▸ a.value_le, rfl⟩

end Address

/-! ### Places -/

/-- What stands at a place of a line: a register, a memory operand, or a fixed word. -/
inductive Slot
  | register
  | address
  | word (w : Text)
  deriving DecidableEq

/-- The tokens that a place takes. -/
def Slot.Takes : Slot → Text → Prop
  | .register, t => RegisterText t
  | .address, t => AddressToken t
  | .word w, t => t = w

namespace Shape

/-- The words that lines of the shape begin with. -/
def mnemonics : Shape → List Text
  | .binaryArithmetic => ["add", "sub", "multiply", "divide"].map String.toList
  | .move => ["move".toList]
  | .load => ["load".toList]
  | .store => ["store".toList]

/-- The places after the mnemonic. -/
def slots : Shape → List Slot
  | .binaryArithmetic =>
    [.register, .word "with".toList, .register, .word "to".toList, .register]
  | .move => [.register, .word "to".toList, .register]
  | .load => [.address, .word "to".toList, .register]
  | .store => [.register, .word "to".toList, .address]

/-- As many tokens as places, with the fixed words in theirs. -/
def HasForm (shape : Shape) (rest : List Text) : Prop :=
  rest.length = shape.slots.length ∧
    ∀ w token, (Slot.word w, token) ∈ shape.slots.zip rest → token = w

/-- The first token from the left that its place does not take. -/
def FirstBad (shape : Shape) (rest : List Text) (slot : Slot) (token : Text) : Prop :=
  ∃ before after, shape.slots.zip rest = before ++ (slot, token) :: after ∧
    (∀ p ∈ before, p.1.Takes p.2) ∧ ¬slot.Takes token

end Shape

theorem Opcode.mem_mnemonics {t : Text} {shape : Shape} :
    t ∈ shape.mnemonics ↔ ∃ o : Opcode, o.shape = shape ∧ o.mnemonic = t := by
  constructor
  · intro h
    cases shape with
    | binaryArithmetic =>
      obtain ⟨op, rfl⟩ := ArithOp.exists_mnemonic h
      exact ⟨.arith op, rfl, rfl⟩
    | move => exact ⟨.move, rfl, (List.mem_singleton.mp h).symm⟩
    | load => exact ⟨.load, rfl, (List.mem_singleton.mp h).symm⟩
    | store => exact ⟨.store, rfl, (List.mem_singleton.mp h).symm⟩
  · rintro ⟨o, rfl, rfl⟩
    cases o with
    | arith op => exact op.mnemonic_mem
    | move | load | store => exact List.mem_singleton.mpr rfl

theorem Opcode.ofMnemonic?_eq_some_iff {t : Text} {o : Opcode} :
    ofMnemonic? t = some o ↔ o.mnemonic = t := by
  constructor
  · intro h
    unfold ofMnemonic? at h
    have hword := List.find?_some h
    exact eq_of_beq hword
  · rintro rfl
    exact ofMnemonic?_mnemonic o

theorem Opcode.mnemonic_mem_iff {o : Opcode} {shape : Shape} :
    o.mnemonic ∈ shape.mnemonics ↔ shape = o.shape := by
  rw [mem_mnemonics]
  constructor
  · rintro ⟨o', rfl, hword⟩
    have ho := ofMnemonic?_eq_some_iff.mpr hword
    rw [ofMnemonic?_mnemonic] at ho
    rw [Option.some.inj ho]
  · rintro rfl
    exact ⟨o, rfl, rfl⟩

/-! ### The error of a place -/

/-- What is told of a token that the place does not take. -/
def Slot.fault? : Slot → Text → Option ParseError
  | .register, t => if (Register.parse? t).isSome then none else some (.badRegister t)
  | .address, t => if (Address.parse? t).isSome then none else some (.badAddress t)
  | .word _, _ => none

namespace Slot

theorem fault?_eq_none_iff {slot : Slot} {t : Text} (hword : ∀ w, slot = .word w → t = w) :
    slot.fault? t = none ↔ slot.Takes t := by
  cases slot with
  | register => simp [fault?, Takes, Register.registerText_iff, Option.isSome_iff_exists]
  | address => simp [fault?, Takes, Address.addressToken_iff, Option.isSome_iff_exists]
  | word w => simp [fault?, Takes, hword w rfl]

theorem fault?_eq_badRegister_iff {slot : Slot} {t u : Text} :
    slot.fault? t = some (.badRegister u) ↔ slot = .register ∧ t = u ∧ ¬Slot.register.Takes u := by
  cases slot with
  | register =>
    simp only [fault?, Takes, Register.registerText_iff, ← Option.isSome_iff_exists]
    grind
  | address | word => simp [fault?]

theorem fault?_eq_badAddress_iff {slot : Slot} {t u : Text} :
    slot.fault? t = some (.badAddress u) ↔ slot = .address ∧ t = u ∧ ¬Slot.address.Takes u := by
  cases slot with
  | address =>
    simp only [fault?, Takes, Address.addressToken_iff, ← Option.isSome_iff_exists]
    grind
  | register | word => simp [fault?]

theorem fault?_cases {slot : Slot} {t : Text} {e : ParseError} (h : slot.fault? t = some e) :
    (∃ u, e = .badRegister u) ∨ ∃ u, e = .badAddress u := by
  cases slot with
  | register => exact .inl ⟨t, (Option.some.inj (Option.ite_none_left_eq_some.mp h).2).symm⟩
  | address => exact .inr ⟨t, (Option.some.inj (Option.ite_none_left_eq_some.mp h).2).symm⟩
  | word => cases h

end Slot

namespace Shape

variable {shape : Shape} {rest : List Text}

theorem HasForm.fault?_eq_none_iff (h : shape.HasForm rest) {p : Slot × Text}
    (hp : p ∈ shape.slots.zip rest) : p.1.fault? p.2 = none ↔ p.1.Takes p.2 :=
  Slot.fault?_eq_none_iff fun w hw => h.2 w p.2 (hw ▸ hp)

/-- The first error of the places is that of the first token that is not taken. -/
theorem HasForm.findSome?_fault (h : shape.HasForm rest) {slot : Slot} {u : Text} {e : ParseError}
    (he : ∀ (slot' : Slot) t,
      slot'.fault? t = some e ↔ slot' = slot ∧ t = u ∧ ¬slot.Takes u) :
    (shape.slots.zip rest).findSome? (fun p => p.1.fault? p.2) = some e ↔
      shape.FirstBad rest slot u := by
  rw [List.findSome?_eq_some_iff]
  constructor
  · rintro ⟨before, ⟨slot', t⟩, after, hzip, hfault, hbefore⟩
    obtain ⟨rfl, rfl, hbad⟩ := (he slot' t).mp hfault
    refine ⟨before, after, hzip, fun p hp => ?_, hbad⟩
    exact (h.fault?_eq_none_iff (by simp [hzip, hp])).mp (hbefore p hp)
  · rintro ⟨before, after, hzip, hbefore, hbad⟩
    refine ⟨before, (slot, u), after, hzip, (he slot u).mpr ⟨rfl, rfl, hbad⟩, fun p hp => ?_⟩
    exact (h.fault?_eq_none_iff (by simp [hzip, hp])).mpr (hbefore p hp)

theorem HasForm.findSome?_fault_eq_none_iff (h : shape.HasForm rest) :
    (shape.slots.zip rest).findSome? (fun p => p.1.fault? p.2) = none ↔
      ∀ p ∈ shape.slots.zip rest, p.1.Takes p.2 := by
  rw [List.findSome?_eq_none_iff]
  exact forall₂_congr fun p hp => h.fault?_eq_none_iff hp

end Shape

namespace Instruction

open Slot

theorem exists_five {l : List Text} (h : l.length = 5) : ∃ a b c d e, l = [a, b, c, d, e] := by
  obtain ⟨a, l, rfl⟩ := List.exists_cons_of_length_eq_add_one h
  obtain ⟨b, l, rfl⟩ := List.exists_cons_of_length_eq_add_one (Nat.succ.inj h)
  obtain ⟨c, d, e, rfl⟩ := List.length_eq_three.mp (Nat.succ.inj (Nat.succ.inj h))
  exact ⟨a, b, c, d, e, rfl⟩

/-- **Operands are read from the left.** -/
theorem readOperands_of_form {o : Opcode} {rest : List Text} (h : o.shape.HasForm rest)
    (e : ParseError) : readOperands o rest = .error e ↔
      (o.shape.slots.zip rest).findSome? (fun p => p.1.fault? p.2) = some e := by
  obtain ⟨hlength, hwords⟩ := h
  cases o with
  | arith op =>
    obtain ⟨lhs, w, rhs, t, dst, rfl⟩ := exists_five hlength
    obtain rfl : w = withWord := hwords withWord w (by simp [Opcode.shape, Shape.slots, withWord])
    obtain rfl : t = toWord := hwords toWord t (by simp [Opcode.shape, Shape.slots, toWord])
    simp only [readOperands, and_self, if_true, readRegister]
    cases hl : Register.parse? lhs <;> cases hr : Register.parse? rhs <;>
      cases hd : Register.parse? dst <;>
      simp [Opcode.shape, Shape.slots, fault?, hl, hr, hd, bind, Except.bind, pure, Except.pure]
  | move =>
    obtain ⟨src, t, dst, rfl⟩ := List.length_eq_three.mp hlength
    obtain rfl : t = toWord := hwords toWord t (by simp [Opcode.shape, Shape.slots, toWord])
    simp only [readOperands, if_true, readRegister]
    cases hs : Register.parse? src <;> cases hd : Register.parse? dst <;>
      simp [Opcode.shape, Shape.slots, fault?, hs, hd, bind, Except.bind, pure, Except.pure]
  | load =>
    obtain ⟨addr, t, dst, rfl⟩ := List.length_eq_three.mp hlength
    obtain rfl : t = toWord := hwords toWord t (by simp [Opcode.shape, Shape.slots, toWord])
    simp only [readOperands, if_true, readRegister, readAddress]
    cases ha : Address.parse? addr <;> cases hd : Register.parse? dst <;>
      simp [Opcode.shape, Shape.slots, fault?, ha, hd, bind, Except.bind, pure, Except.pure]
  | store =>
    obtain ⟨src, t, addr, rfl⟩ := List.length_eq_three.mp hlength
    obtain rfl : t = toWord := hwords toWord t (by simp [Opcode.shape, Shape.slots, toWord])
    simp only [readOperands, if_true, readRegister, readAddress]
    cases hs : Register.parse? src <;> cases ha : Address.parse? addr <;>
      simp [Opcode.shape, Shape.slots, fault?, hs, ha, bind, Except.bind, pure, Except.pure]

theorem readOperands_of_not_form {o : Opcode} {rest : List Text} (h : ¬o.shape.HasForm rest) :
    readOperands o rest = .error (.wrongShape o.mnemonic o.shape) := by
  unfold readOperands
  split
  · next op lhs w rhs t dst =>
    refine if_neg fun hwords => h ⟨rfl, fun v token hmem => ?_⟩
    obtain ⟨rfl, rfl⟩ := hwords
    simp only [Opcode.shape, Shape.slots, List.zip_cons_cons, List.zip_nil_right, List.mem_cons,
      Prod.mk.injEq, reduceCtorEq, false_and, Slot.word.injEq, List.not_mem_nil, false_or,
      or_false] at hmem
    obtain ⟨rfl, rfl⟩ | ⟨rfl, rfl⟩ := hmem <;> rfl
  · next src t dst =>
    refine if_neg fun hword => h ⟨rfl, ?_⟩
    subst hword
    simp [Opcode.shape, Shape.slots, toWord]
  · next addr t dst =>
    refine if_neg fun hword => h ⟨rfl, ?_⟩
    subst hword
    simp [Opcode.shape, Shape.slots, toWord]
  · next src t addr =>
    refine if_neg fun hword => h ⟨rfl, ?_⟩
    subst hword
    simp [Opcode.shape, Shape.slots, toWord]
  · rfl

/-- What is told of operands is told of no whole line. -/
theorem readOperands_error_cases {o : Opcode} {rest : List Text} {e : ParseError}
    (h : readOperands o rest = .error e) :
    e ≠ .empty ∧ (∀ u, e ≠ .unknownMnemonic u) ∧ e ≠ .nonCanonical := by
  by_cases hform : o.shape.HasForm rest
  · obtain ⟨-, p, -, -, hfault, -⟩ :=
      List.findSome?_eq_some_iff.mp ((readOperands_of_form hform e).mp h)
    obtain ⟨u, rfl⟩ | ⟨u, rfl⟩ := fault?_cases hfault <;> simp
  · rw [readOperands_of_not_form hform] at h
    cases h
    simp

theorem readOperands_eq_error_iff (o : Opcode) (rest : List Text) :
    (∀ u shape, readOperands o rest = .error (.wrongShape u shape) ↔
      u = o.mnemonic ∧ shape = o.shape ∧ ¬o.shape.HasForm rest) ∧
    (∀ u, readOperands o rest = .error (.badRegister u) ↔
      o.shape.HasForm rest ∧ o.shape.FirstBad rest .register u) ∧
    (∀ u, readOperands o rest = .error (.badAddress u) ↔
      o.shape.HasForm rest ∧ o.shape.FirstBad rest .address u) ∧
    ((∃ i, readOperands o rest = .ok i) ↔
      o.shape.HasForm rest ∧ ∀ p ∈ o.shape.slots.zip rest, p.1.Takes p.2) := by
  by_cases h : o.shape.HasForm rest
  · have hread := readOperands_of_form h
    simp only [h, not_true, and_false, true_and]
    refine ⟨fun u shape => iff_of_false (fun herror => ?_) id, fun u => ?_, fun u => ?_, ?_⟩
    · obtain ⟨-, p, -, -, hfault, -⟩ := List.findSome?_eq_some_iff.mp ((hread _).mp herror)
      obtain ⟨_, h⟩ | ⟨_, h⟩ := fault?_cases hfault <;> cases h
    · exact (hread _).trans (h.findSome?_fault fun _ _ => fault?_eq_badRegister_iff)
    · exact (hread _).trans (h.findSome?_fault fun _ _ => fault?_eq_badAddress_iff)
    · rw [← h.findSome?_fault_eq_none_iff, Option.eq_none_iff_forall_ne_some]
      cases hresult : readOperands o rest with
      | error e => simp [(hread e).mp hresult]
      | ok i =>
        refine iff_of_true ⟨i, rfl⟩ fun e he => ?_
        rw [(hread e).mpr he] at hresult
        cases hresult
  · simp [h, readOperands_of_not_form h, eq_comm]

theorem ofTokens_cons (o : Opcode) (rest : List Text) :
    ofTokens (o.mnemonic :: rest) = readOperands o rest := by
  rw [ofTokens, Opcode.ofMnemonic?_mnemonic]

theorem ofTokens_unknown {t : Text} (h : ∀ shape : Shape, t ∉ shape.mnemonics) (rest : List Text) :
    ofTokens (t :: rest) = .error (.unknownMnemonic t) := by
  rw [ofTokens]
  cases ho : Opcode.ofMnemonic? t with
  | none => rfl
  | some o =>
    have hmnemonic := Opcode.ofMnemonic?_eq_some_iff.mp ho
    exact absurd (Opcode.mem_mnemonics.mpr ⟨o, rfl, hmnemonic⟩) (h o.shape)

theorem ofTokens_cons_eq_error_iff (t : Text) (rest : List Text) :
    (∀ u, ofTokens (t :: rest) = .error (.unknownMnemonic u) ↔
      u = t ∧ ∀ shape : Shape, t ∉ shape.mnemonics) ∧
    (∀ u shape, ofTokens (t :: rest) = .error (.wrongShape u shape) ↔
      u = t ∧ t ∈ shape.mnemonics ∧ ¬shape.HasForm rest) ∧
    (∀ u, ofTokens (t :: rest) = .error (.badRegister u) ↔ ∃ shape : Shape,
      t ∈ shape.mnemonics ∧ shape.HasForm rest ∧ shape.FirstBad rest .register u) ∧
    (∀ u, ofTokens (t :: rest) = .error (.badAddress u) ↔ ∃ shape : Shape,
      t ∈ shape.mnemonics ∧ shape.HasForm rest ∧ shape.FirstBad rest .address u) ∧
    ((∃ i, ofTokens (t :: rest) = .ok i) ↔ ∃ shape : Shape,
      t ∈ shape.mnemonics ∧ shape.HasForm rest ∧ ∀ p ∈ shape.slots.zip rest, p.1.Takes p.2) := by
  by_cases hknown : ∃ shape : Shape, t ∈ shape.mnemonics
  · obtain ⟨shape, hmem⟩ := hknown
    obtain ⟨o, rfl, rfl⟩ := Opcode.mem_mnemonics.mp hmem
    obtain ⟨hshape, hregister, haddress, hok⟩ := readOperands_eq_error_iff o rest
    simp only [ofTokens_cons, Opcode.mnemonic_mem_iff, exists_eq_left]
    refine ⟨fun u => iff_of_false (fun h => ?_) fun h => h.2 _ rfl, fun u shape => ?_, hregister,
      haddress, hok⟩
    · exact (readOperands_error_cases h).2.1 u rfl
    · rw [hshape]
      constructor
      · rintro ⟨hu, rfl, hform⟩
        exact ⟨hu, rfl, hform⟩
      · rintro ⟨hu, rfl, hform⟩
        exact ⟨hu, rfl, hform⟩
  · have hunknown : ∀ shape : Shape, t ∉ shape.mnemonics := not_exists.mp hknown
    simp [ofTokens_unknown hunknown, hunknown, eq_comm]

/-- One or more tokens are not told that there are none, nor that they are not canonical. -/
theorem ofTokens_cons_error_cases {t : Text} {rest : List Text} {e : ParseError}
    (h : ofTokens (t :: rest) = .error e) : e ≠ .empty ∧ e ≠ .nonCanonical := by
  rw [ofTokens] at h
  cases ho : Opcode.ofMnemonic? t with
  | none =>
    rw [ho] at h
    cases h
    simp
  | some o =>
    rw [ho] at h
    exact ⟨(readOperands_error_cases h).1, (readOperands_error_cases h).2.2⟩

theorem ofTokens_ne_nonCanonical : ∀ ts : List Text, ofTokens ts ≠ .error .nonCanonical
  | [], h => by cases h
  | _ :: _, h => (ofTokens_cons_error_cases h).2 rfl

/-! ### The whole line -/

theorem parse_eq_error_iff {s : Text} {e : ParseError} (he : e ≠ .nonCanonical) :
    parse s = .error e ↔ ofTokens (Text.tokens s) = .error e := by
  unfold parse
  cases h : ofTokens (Text.tokens s) with
  | error e' => rfl
  | ok i =>
    by_cases hs : i.render = s
    · simp [hs]
    · simp [hs, he.symm]

theorem parse_eq_nonCanonical_iff {s : Text} : parse s = .error .nonCanonical ↔
    ∃ i, ofTokens (Text.tokens s) = .ok i ∧ i.render ≠ s := by
  have hne := ofTokens_ne_nonCanonical (Text.tokens s)
  unfold parse
  cases h : ofTokens (Text.tokens s) with
  | error e =>
    rw [h] at hne
    simpa using hne
  | ok i => by_cases hs : i.render = s <;> simp [hs]

/-- A line whose tokens spell an instruction is one, or is told that it is not canonical. -/
theorem parse_spelled_iff {s : Text} : parse s = .error .nonCanonical ∨ (∃ i, parse s = .ok i) ↔
    ∃ i, ofTokens (Text.tokens s) = .ok i := by
  rw [parse_eq_nonCanonical_iff]
  unfold parse
  cases h : ofTokens (Text.tokens s) with
  | error e => simp
  | ok i => by_cases hs : i.render = s <;> simp [hs]

/-- **The first five errors sort the lines by their tokens.** A line without tokens is empty.
Otherwise it is told of the first token that it is no mnemonic, with this token as it stands;
or of a mnemonic that the tokens after it do not have the form of its shape, whatever stands in
the places of operands; or of the first token from the left that its place does not take that
it is no register or no memory operand, as the place asks. What is left is a line whose tokens
spell an instruction, and then it is at most told that it is not canonical. -/
theorem parse_classifies (s : Text) :
    (parse s = .error .empty ↔ Text.tokens s = []) ∧
      ∀ t rest, Text.tokens s = t :: rest →
        (∀ u, parse s = .error (.unknownMnemonic u) ↔
          u = t ∧ ∀ shape : Shape, t ∉ shape.mnemonics) ∧
        (∀ u shape, parse s = .error (.wrongShape u shape) ↔
          u = t ∧ t ∈ shape.mnemonics ∧ ¬shape.HasForm rest) ∧
        (∀ u, parse s = .error (.badRegister u) ↔ ∃ shape : Shape,
          t ∈ shape.mnemonics ∧ shape.HasForm rest ∧ shape.FirstBad rest .register u) ∧
        (∀ u, parse s = .error (.badAddress u) ↔ ∃ shape : Shape,
          t ∈ shape.mnemonics ∧ shape.HasForm rest ∧ shape.FirstBad rest .address u) ∧
        (parse s = .error .nonCanonical ∨ (∃ i, parse s = .ok i) ↔ ∃ shape : Shape,
          t ∈ shape.mnemonics ∧ shape.HasForm rest ∧
            ∀ p ∈ shape.slots.zip rest, p.1.Takes p.2) := by
  refine ⟨(parse_eq_error_iff (by simp)).trans ?_, fun t rest htokens => ?_⟩
  · cases Text.tokens s with
    | nil => exact iff_of_true rfl rfl
    | cons t rest => exact iff_of_false (fun h => (ofTokens_cons_error_cases h).1 rfl) nofun
  · obtain ⟨hunknown, hshape, hregister, haddress, hok⟩ := ofTokens_cons_eq_error_iff t rest
    rw [← htokens] at hunknown hshape hregister haddress hok
    exact ⟨fun u => (parse_eq_error_iff (by simp)).trans (hunknown u),
      fun u shape => (parse_eq_error_iff (by simp)).trans (hshape u shape),
      fun u => (parse_eq_error_iff (by simp)).trans (hregister u),
      fun u => (parse_eq_error_iff (by simp)).trans (haddress u), parse_spelled_iff.trans hok⟩

/-- A number past 32 bits, with zeros in front, and no register behind it: the first is told. -/
theorem classifies_load :
    Text.tokens "\tload  m<0004294967297> to r12".toList =
        ["load".toList, "m<0004294967297>".toList, "to".toList, "r12".toList] ∧
      parse "\tload  m<0004294967297> to r12".toList =
        .error (.badAddress "m<0004294967297>".toList) := by
  have htokens : Text.tokens "\tload  m<0004294967297> to r12".toList =
      ["load".toList, "m<0004294967297>".toList, "to".toList, "r12".toList] := by decide
  have hbad : ¬AddressToken "m<0004294967297>".toList := by
    rw [Address.addressToken_iff]
    rintro ⟨a, ha⟩
    rw [show Address.parse? "m<0004294967297>".toList = none by decide] at ha
    cases ha
  refine ⟨htokens, ((parse_classifies _).2 _ _ htokens).2.2.2.1 _ |>.mpr ⟨.load, ?_, ?_, ?_⟩⟩
  · exact List.mem_singleton.mpr rfl
  · exact ⟨rfl, by simp [Shape.slots]⟩
  · exact ⟨[], _, rfl, nofun, hbad⟩

end Instruction
end StressBench
