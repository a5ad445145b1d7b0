/-
# How an argument names an item

An item is named by two dashes and its name, with a value after `=` or without one, or by its
letter after one dash, which may stand behind flags. What is read of such an argument is said
here once: an option with a value behind it ends the item that has begun and takes the value,
one without begins, and a flag is set.

Key definitions: `dashed`, `flagLetters`, `Item.Names`.
Key theorems: `Draft.take_dashed`, `Draft.take_dashed_value`, `Draft.take_flagLetters`,
`Draft.lettersOf_value`.
-/
import StressBench.Proofs.CommandLine.Levels
import StressBench.Proofs.Text.Decoding

namespace StressBench
namespace CommandLine

/-- Two dashes and a name. -/
def dashed (name : String) : Bytes :=
  0x2D :: 0x2D :: Utf8.encode name.toList

/-- The letters of flags, one behind the other. -/
def flagLetters (flags : List Item) : Bytes :=
  Utf8.encode (flags.filterMap Item.short)

/-- An argument names an item by its name, with a value or without, or by its letter, with
counted flags in front or not, and with anything behind it. -/
inductive Item.Names (item : Item) : Bytes → Prop
  | long {name : String} (hname : item.long = some name) : Names item (dashed name)
  | valued {name : String} (hname : item.long = some name) (value : Bytes) :
      Names item (dashed name ++ 0x3D :: value)
  | letter {c : Char} (hletter : item.short = some c) {flags : List Item}
      (hflags : ∀ i ∈ flags, i.isCounted = true) (rest : Bytes) :
      Names item (0x2D :: (flagLetters flags ++ (String.utf8EncodeChar c ++ rest)))

/-! ### Names and letters -/

namespace Item

variable {item : Item} {name : String}

theorem ofLong?_long (h : item.long = some name) : ofLong? name.toList = some item := by
  cases item <;> cases h <;> rfl

theorem ofShort?_short {c : Char} (h : item.short = some c) : ofShort? c = some item := by
  cases item <;> cases h <;> rfl

theorem takesValue_of_isCounted (h : item.isCounted = true) : item.takesValue = false := by
  cases item <;> cases h <;> rfl

theorem exists_short_of_isCounted (h : item.isCounted = true) : ∃ c, item.short = some c := by
  cases item <;> cases h <;> exact ⟨_, rfl⟩

theorem head?_short {c : Char} (h : item.short = some c) (bs : Bytes) :
    (String.utf8EncodeChar c ++ bs).head? ≠ some 0x2D := by
  cases item <;> cases h <;> exact nofun

theorem equals_not_mem_long (h : item.long = some name) :
    (0x3D : UInt8) ∉ Utf8.encode name.toList := by
  cases item <;> cases h <;> decide

end Item

theorem takeWhile_name {name : Bytes} (h : (0x3D : UInt8) ∉ name) (bs : Bytes) :
    (name ++ bs).takeWhile (· != 0x3D) = name ++ bs.takeWhile (· != 0x3D) :=
  List.takeWhile_append_of_pos fun _ hb => bne_iff_ne.mpr (ne_of_mem_of_not_mem hb h)

theorem splitLong_name {name : Bytes} (h : (0x3D : UInt8) ∉ name) :
    splitLong name = (name, none) := by
  have hname := takeWhile_name h []
  rw [List.append_nil, List.takeWhile_nil, List.append_nil] at hname
  unfold splitLong
  simp only [hname, List.drop_length]

theorem splitLong_value {name : Bytes} (h : (0x3D : UInt8) ∉ name) (value : Bytes) :
    splitLong (name ++ 0x3D :: value) = (name, some value) := by
  have hname : (name ++ 0x3D :: value).takeWhile (· != 0x3D) = name :=
    (takeWhile_name h _).trans (List.append_nil name)
  unfold splitLong
  simp only [hname, List.drop_left]

namespace Draft

variable {item : Item} {name : String}

theorem long_eq (h : item.long = some name) (d : Draft) (value : Option Bytes) :
    d.long (Utf8.encode name.toList) value = match item.takesValue, value with
      | true, some v => d.attach item v
      | true, none => d.start item none
      | false, some v => .error (.unexpectedValue item (Utf8.decodeLossy v))
      | false, none => d.flag item := by
  unfold long
  rewrite [Utf8.decode?_eq_some_iff.mpr rfl, Option.bind_some, Item.ofLong?_long h]
  rfl

theorem take_dashes (d : Draft) (rest : Bytes) :
    d.take (0x2D :: 0x2D :: rest) = d.long (splitLong rest).1 (splitLong rest).2 := rfl

theorem take_dashed (h : item.long = some name) (d : Draft) :
    d.take (dashed name) = if item.takesValue then d.start item none else d.flag item := by
  rw [dashed, take_dashes, splitLong_name (Item.equals_not_mem_long h), long_eq h]
  cases item.takesValue <;> rfl

theorem take_dashed_value (h : item.long = some name) (value : Bytes) (d : Draft) :
    d.take (dashed name ++ 0x3D :: value) = if item.takesValue then d.attach item value
      else .error (.unexpectedValue item (Utf8.decodeLossy value)) := by
  rw [dashed, List.cons_append, List.cons_append, take_dashes,
    splitLong_value (Item.equals_not_mem_long h), long_eq h]
  cases item.takesValue <;> rfl

/-- A text whose bytes begin with `=` is `=` and a text, so other bytes begin no such text. -/
theorem splitAtBreak_ne_equals {b : UInt8} (hb : b ≠ 0x3D) (value : Bytes) (cs : Text) :
    (Utf8.splitAtBreak (b :: value)).1 ≠ '=' :: cs := by
  intro htext
  have hbytes := Utf8.encode_splitAtBreak (b :: value)
  rw [htext] at hbytes
  exact hb (List.cons_eq_cons.mp hbytes).1.symm

/-- The letter of an option takes what is behind it, without one `=` in front. -/
theorem lettersOf_value {c : Char} (hletter : item.short = some c)
    (hvalue : item.takesValue = true) (d : Draft) (bs : Bytes) :
    d.lettersOf (String.utf8EncodeChar c ++ bs) = match bs with
      | [] => d.start item none
      | 0x3D :: value => d.attach item value
      | value => d.attach item value := by
  unfold lettersOf
  rw [Utf8.splitAtBreak_encodeChar]
  simp only [letters, Item.ofShort?_short hletter, hvalue, if_true, Utf8.encode_splitAtBreak]
  obtain _ | ⟨b, value⟩ := bs
  · rfl
  by_cases hb : b = 0x3D
  · subst hb
    have hsplit : Utf8.splitAtBreak (0x3D :: value) = _ := Utf8.splitAtBreak_encodeChar '=' value
    rw [hsplit]
    show d.attach item (Utf8.encode _ ++ _) = d.attach item value
    rw [Utf8.encode_splitAtBreak]
  · split
    · next h => cases h
    · next htext _ => exact absurd htext (splitAtBreak_ne_equals hb value _)
    · split
      · next h => cases h
      · next h => exact absurd (List.cons_eq_cons.mp h).1 hb
      · rfl

theorem flagLetters_cons {i : Item} {c : Char} (hc : i.short = some c) (flags : List Item) :
    flagLetters (i :: flags) = String.utf8EncodeChar c ++ flagLetters flags := by
  unfold flagLetters
  rw [List.filterMap_cons_some hc, Utf8.encode_cons]

theorem lettersOf_flags {flags : List Item} (hflags : ∀ i ∈ flags, i.isCounted = true)
    (d : Draft) (bs : Bytes) :
    d.lettersOf (flagLetters flags ++ bs) = flags.foldlM flag d >>= (·.lettersOf bs) := by
  induction flags generalizing d with
  | nil => rfl
  | cons i flags ih =>
    rw [List.forall_mem_cons] at hflags
    obtain ⟨hi, hflags⟩ := hflags
    obtain ⟨c, hc⟩ := Item.exists_short_of_isCounted hi
    rw [flagLetters_cons hc, List.append_assoc, List.foldlM_cons,
      lettersOf_flag (Item.ofShort?_short hc) (Item.takesValue_of_isCounted hi), bind_assoc]
    simp only [ih hflags]

theorem head?_flagLetters {flags : List Item} (hflags : ∀ i ∈ flags, i.isCounted = true)
    {bs : Bytes} (hbs : bs.head? ≠ some 0x2D) :
    (flagLetters flags ++ bs).head? ≠ some 0x2D := by
  cases flags with
  | nil => exact hbs
  | cons i flags =>
    obtain ⟨c, hc⟩ := Item.exists_short_of_isCounted (hflags i List.mem_cons_self)
    rw [flagLetters_cons hc, List.append_assoc]
    exact Item.head?_short hc _

/-- An argument of letters, the first of them of counted flags. -/
theorem take_flagLetters {flags : List Item} (hflags : ∀ i ∈ flags, i.isCounted = true)
    {bs : Bytes} (hbs : bs.head? ≠ some 0x2D) (hne : flagLetters flags ++ bs ≠ []) (d : Draft) :
    d.take (0x2D :: (flagLetters flags ++ bs)) = flags.foldlM flag d >>= (·.lettersOf bs) := by
  have hhead := head?_flagLetters hflags hbs
  obtain ⟨b, bs', hcons⟩ := List.exists_cons_of_ne_nil hne
  rw [hcons] at hhead ⊢
  rw [take_letters fun hb => hhead (congrArg some hb), ← hcons, lettersOf_flags hflags]

end Draft

end CommandLine
end StressBench
