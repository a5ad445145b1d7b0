/-
# What is decoded was encoded

A character is read only from its own bytes: a first byte narrows what may come
next, and the ranges keep out the longer forms of a code, so that the bytes that
bring a character are those that encode it. So a byte string begins with the
bytes of the text before its first break, and a strict reading exists for the
bytes of a text only.

Key definition: `Utf8.piecesFrom`.
Key theorems: `Utf8.pieces_eq_cons`, `Utf8.encode_splitAtBreak`, `Utf8.decode?_eq_some_iff`.
-/
import StressBench.Proofs.Text.Encoding

namespace StressBench
namespace Utf8

/-! ### One byte after the other -/

/-- The pieces that are read from where the machine stands. -/
def piecesFrom (state : State) (bs : Bytes) : List Piece :=
  (finish (scan ([], state) bs).2 ++ (scan ([], state) bs).1).reverse

theorem piecesFrom_nil_inside {owed code : Nat} {low high : UInt8} :
    piecesFrom (.inside owed low high code) [] = [none] := rfl

/-- The first byte brings its pieces, and the others are read from where it leaves the
machine. -/
theorem piecesFrom_cons (state : State) (b : UInt8) (bs : Bytes) :
    piecesFrom state (b :: bs) = (step state b).1 ++ piecesFrom (step state b).2 bs := by
  have hfeed : feed ([], state) b = ((step state b).1.reverse, (step state b).2) := by
    simp [feed]
  unfold piecesFrom
  rw [scan_cons, hfeed, scan_acc]
  simp

variable {b : UInt8} {bs : Bytes} {c : Char} {ps : List Piece}

/-- Inside a character, a character comes next only if the next byte is in the range, and is
the last one or leaves fewer owed. -/
theorem piecesFrom_inside {owed code : Nat} {low high : UInt8}
    (h : piecesFrom (.inside owed low high code) bs = some c :: ps) :
    ∃ b rest, bs = b :: rest ∧ low.toNat ≤ b.toNat ∧ b.toNat ≤ high.toNat ∧
      if owed ≤ 1 then Char.ofNat (code * 64 + (b.toNat - 0x80)) = c ∧ pieces rest = ps
      else piecesFrom (.inside (owed - 1) 0x80 0xBF (code * 64 + (b.toNat - 0x80))) rest =
        some c :: ps := by
  cases bs with
  | nil => simp [piecesFrom_nil_inside] at h
  | cons b rest =>
    rw [piecesFrom_cons] at h
    by_cases hrange : low ≤ b ∧ b ≤ high
    · refine ⟨b, rest, rfl, UInt8.le_iff_toNat_le.mp hrange.1,
        UInt8.le_iff_toNat_le.mp hrange.2, ?_⟩
      simp only [step, if_pos hrange] at h
      split at h
      · next howed =>
        rw [if_pos howed]
        obtain ⟨hc, hps⟩ := List.cons_eq_cons.mp h
        exact ⟨Option.some.inj hc, hps⟩
      · next howed =>
        rw [if_neg howed]
        exact h
    · simp [step, hrange] at h

/-! ### The bytes of a character -/

theorem val_ofNat {v : Nat} (h : v < 0xD800 ∨ 0xDFFF < v ∧ v < 0x110000) :
    (Char.ofNat v).val.toNat = v := by
  have hvalid : v.isValidChar := h
  rw [Char.ofNat, dif_pos hvalid]
  rfl

theorem byte_of_toNat {n : Nat} (h : n = b.toNat) : UInt8.ofNat n = b := by
  rw [h, UInt8.ofNat_toNat]

theorem low_of_ite {p : Prop} [Decidable p] {low : UInt8} {n : Nat} (hlow : 0x80 ≤ low.toNat)
    (h : (if p then low else 0x80 : UInt8).toNat ≤ n) : 0x80 ≤ n ∧ (p → low.toNat ≤ n) := by
  split at h
  · exact ⟨Nat.le_trans hlow h, fun _ => h⟩
  · next hp => exact ⟨h, fun hp' => absurd hp' hp⟩

theorem high_of_ite {p : Prop} [Decidable p] {high : UInt8} {n : Nat} (hhigh : high.toNat ≤ 0xBF)
    (h : n ≤ (if p then high else 0xBF : UInt8).toNat) : n ≤ 0xBF ∧ (p → n ≤ high.toNat) := by
  split at h
  · exact ⟨Nat.le_trans h hhigh, fun _ => h⟩
  · next hp => exact ⟨h, fun hp' => absurd hp' hp⟩

theorem encodeChar_one (h : b.toNat < 0x80) :
    String.utf8EncodeChar (Char.ofNat b.toNat) = [b] := by
  unfold String.utf8EncodeChar
  rw [val_ofNat (.inl (by omega))]
  simp only
  rw [if_pos (by omega), byte_of_toNat rfl]

variable {b₁ b₂ b₃ : UInt8}

/-- Two bytes, the first past those that would be a longer form of an ASCII code. -/
theorem encodeChar_two (hb : 0xC2 ≤ b.toNat ∧ b.toNat < 0xE0)
    (h₁ : 0x80 ≤ b₁.toNat ∧ b₁.toNat ≤ 0xBF) :
    String.utf8EncodeChar (Char.ofNat ((b.toNat - 0xC0) * 64 + (b₁.toNat - 0x80))) = [b, b₁] := by
  unfold String.utf8EncodeChar
  rw [val_ofNat (.inl (by omega))]
  simp only
  rw [if_neg (by omega), if_pos (by omega), byte_of_toNat (b := b) (by omega),
    byte_of_toNat (b := b₁) (by omega)]

/-- Three bytes, the second narrowed so that the code is past `7FF` and no surrogate. -/
theorem encodeChar_three (hb : 0xE0 ≤ b.toNat ∧ b.toNat < 0xF0)
    (hl : 0x80 ≤ b₁.toNat ∧ (b.toNat = 0xE0 → 0xA0 ≤ b₁.toNat))
    (hh : b₁.toNat ≤ 0xBF ∧ (b.toNat = 0xED → b₁.toNat ≤ 0x9F))
    (h₂ : 0x80 ≤ b₂.toNat ∧ b₂.toNat ≤ 0xBF) :
    String.utf8EncodeChar (Char.ofNat (((b.toNat - 0xE0) * 64 + (b₁.toNat - 0x80)) * 64 +
      (b₂.toNat - 0x80))) = [b, b₁, b₂] := by
  unfold String.utf8EncodeChar
  rw [val_ofNat (by omega)]
  simp only
  rw [if_neg (by omega), if_neg (by omega), if_pos (by omega),
    byte_of_toNat (b := b) (by omega), byte_of_toNat (b := b₁) (by omega),
    byte_of_toNat (b := b₂) (by omega)]

/-- Four bytes, the second narrowed so that the code is past `FFFF` and not past `10FFFF`. -/
theorem encodeChar_four (hb : 0xF0 ≤ b.toNat ∧ b.toNat < 0xF5)
    (hl : 0x80 ≤ b₁.toNat ∧ (b.toNat = 0xF0 → 0x90 ≤ b₁.toNat))
    (hh : b₁.toNat ≤ 0xBF ∧ (b.toNat = 0xF4 → b₁.toNat ≤ 0x8F))
    (h₂ : 0x80 ≤ b₂.toNat ∧ b₂.toNat ≤ 0xBF) (h₃ : 0x80 ≤ b₃.toNat ∧ b₃.toNat ≤ 0xBF) :
    String.utf8EncodeChar (Char.ofNat ((((b.toNat - 0xF0) * 64 + (b₁.toNat - 0x80)) * 64 +
      (b₂.toNat - 0x80)) * 64 + (b₃.toNat - 0x80))) = [b, b₁, b₂, b₃] := by
  unfold String.utf8EncodeChar
  rw [val_ofNat (by omega)]
  simp only
  rw [if_neg (by omega), if_neg (by omega), if_neg (by omega),
    byte_of_toNat (b := b) (by omega), byte_of_toNat (b := b₁) (by omega),
    byte_of_toNat (b := b₂) (by omega), byte_of_toNat (b := b₃) (by omega)]

/-- **A character is read from its own bytes.** -/
theorem pieces_eq_cons (h : pieces bs = some c :: ps) :
    ∃ rest, bs = String.utf8EncodeChar c ++ rest ∧ pieces rest = ps := by
  obtain _ | ⟨b, bs⟩ := bs
  · cases h
  have hlead := lead_byte b.toNat_lt
  rw [UInt8.ofNat_toNat] at hlead
  replace h : (lead b).1 ++ piecesFrom (lead b).2 bs = some c :: ps :=
    (piecesFrom_cons .start b bs).symm.trans h
  rw [hlead] at h
  split at h
  · next hb =>
    obtain ⟨hc, hps⟩ := List.cons_eq_cons.mp h
    obtain rfl := Option.some.inj hc
    exact ⟨bs, by rw [encodeChar_one hb]; rfl, hps⟩
  split at h
  · cases h
  split at h
  · obtain ⟨b₁, rest, rfl, hl₁, hh₁, hrest⟩ := piecesFrom_inside h
    obtain ⟨rfl, hps⟩ := hrest
    exact ⟨rest, by rw [encodeChar_two (by omega) ⟨hl₁, hh₁⟩]; rfl, hps⟩
  split at h
  · obtain ⟨b₁, rest, rfl, hl₁, hh₁, h₁⟩ := piecesFrom_inside h
    obtain ⟨b₂, rest, rfl, hl₂, hh₂, hrest⟩ := piecesFrom_inside h₁
    obtain ⟨rfl, hps⟩ := hrest
    have hbytes := encodeChar_three (by omega) (low_of_ite (by decide) hl₁)
      (high_of_ite (by decide) hh₁) ⟨hl₂, hh₂⟩
    exact ⟨rest, by rw [hbytes]; rfl, hps⟩
  split at h
  · obtain ⟨b₁, rest, rfl, hl₁, hh₁, h₁⟩ := piecesFrom_inside h
    obtain ⟨b₂, rest, rfl, hl₂, hh₂, h₂⟩ := piecesFrom_inside h₁
    obtain ⟨b₃, rest, rfl, hl₃, hh₃, hrest⟩ := piecesFrom_inside h₂
    obtain ⟨rfl, hps⟩ := hrest
    have hbytes := encodeChar_four (by omega) (low_of_ite (by decide) hl₁)
      (high_of_ite (by decide) hh₁) ⟨hl₂, hh₂⟩ ⟨hl₃, hh₃⟩
    exact ⟨rest, by rw [hbytes]; rfl, hps⟩
  · cases h

/-! ### The bytes of a text -/

theorem eq_encode_append {s : Text} (h : pieces bs = s.map some ++ ps) :
    ∃ rest, bs = encode s ++ rest ∧ pieces rest = ps := by
  induction s generalizing bs with
  | nil => exact ⟨bs, rfl, h⟩
  | cons c s ih =>
    obtain ⟨rest, rfl, hrest⟩ := pieces_eq_cons h
    obtain ⟨rest', rfl, hrest'⟩ := ih hrest
    exact ⟨rest', by rw [encode_cons, List.append_assoc], hrest'⟩

theorem characters_append : ∀ ps : List Piece,
    ((ps.takeWhile Option.isSome).filterMap id).map some ++ ps.dropWhile Option.isSome = ps
  | [] => rfl
  | none :: _ => rfl
  | some c :: ps => congrArg (some c :: ·) (characters_append ps)

theorem encode_splitAtBreak (bs : Bytes) :
    encode (splitAtBreak bs).1 ++ (splitAtBreak bs).2 = bs := by
  obtain ⟨rest, hbs, -⟩ := eq_encode_append (characters_append (pieces bs)).symm
  exact List.prefix_iff_eq_append.mp ⟨rest, hbs.symm⟩

theorem piecesFrom_inside_ne_nil {owed code : Nat} {low high : UInt8} :
    piecesFrom (.inside owed low high code) bs ≠ [] := by
  induction bs generalizing owed low high code with
  | nil => simp [piecesFrom_nil_inside]
  | cons b bs ih =>
    rw [piecesFrom_cons]
    simp only [step]
    split
    · split
      · exact List.cons_ne_nil _ _
      · exact ih
    · exact List.cons_ne_nil _ _

theorem pieces_cons_ne_nil (b : UInt8) (bs : Bytes) : pieces (b :: bs) ≠ [] := by
  show piecesFrom .start (b :: bs) ≠ []
  rw [piecesFrom_cons]
  simp only [step, lead]
  split
  · exact List.cons_ne_nil _ _
  split
  · exact List.cons_ne_nil _ _
  split
  · exact piecesFrom_inside_ne_nil
  split
  · exact piecesFrom_inside_ne_nil
  split
  · exact piecesFrom_inside_ne_nil
  · exact List.cons_ne_nil _ _

theorem mapM_id_eq_some_iff {s : Text} : ps.mapM id = some s ↔ ps = s.map some := by
  induction ps generalizing s with
  | nil => cases s <;> simp
  | cons p ps ih =>
    have hcons : (p :: ps).mapM id = some s ↔ ∃ c, p = some c ∧ ∃ cs, ps.mapM id = some cs ∧
        c :: cs = s := by
      simp [List.mapM_cons, Option.bind_eq_some_iff]
    rw [hcons]
    simp only [ih]
    constructor
    · rintro ⟨c, rfl, cs, rfl, rfl⟩
      rfl
    · cases s with
      | nil => nofun
      | cons c cs =>
        intro h
        obtain ⟨rfl, rfl⟩ := List.cons_eq_cons.mp h
        exact ⟨c, rfl, cs, rfl, rfl⟩

/-- **A strict reading exists for the bytes of a text only.** -/
theorem decode?_eq_some_iff {s : Text} : decode? bs = some s ↔ bs = encode s := by
  unfold decode?
  rw [mapM_id_eq_some_iff]
  constructor
  · intro h
    obtain ⟨rest, rfl, hrest⟩ := eq_encode_append (h.trans (List.append_nil _).symm)
    cases rest with
    | nil => exact List.append_nil _
    | cons b bs => exact absurd hrest (pieces_cons_ne_nil b bs)
  · rintro rfl
    exact pieces_encode s

theorem eq_cons_of_encode {s : Text} (h : encode s = String.utf8EncodeChar c ++ bs) :
    ∃ t, s = c :: t := by
  have hpieces := pieces_encode s
  rw [h, pieces_encodeChar] at hpieces
  cases s with
  | nil => cases hpieces
  | cons c' t => exact ⟨t, by rw [Option.some.inj (List.cons_eq_cons.mp hpieces).1]⟩

end Utf8
end StressBench
