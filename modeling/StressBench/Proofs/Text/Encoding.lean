/-
# What is encoded is decoded

The decoder reads the bytes of one character in one sweep: the first byte says
how many are owed and what has to come next, each later one pays for itself, and
after the last the machine stands between characters again. So a text is what
the lenient reading makes of its own bytes.

Key theorems: `Utf8.scan_encodeChar`, `Utf8.splitAtBreak_encodeChar`, `Utf8.decodeLossy_encode`,
`Utf8.encode_injective`.
-/
import StressBench.Text.Utf8

namespace StressBench
namespace Utf8

/-! ### Bytes as numbers -/

theorem toNat_byte {n : Nat} (h : n < 256) : (UInt8.ofNat n).toNat = n := by
  rw [UInt8.toNat_ofNat']
  exact Nat.mod_eq_of_lt h

theorem lead_byte {n : Nat} (h : n < 256) : lead (UInt8.ofNat n) =
    if n < 0x80 then ([some (Char.ofNat n)], .start)
    else if n < 0xC2 then ([none], .start)
    else if n < 0xE0 then ([], .inside 1 0x80 0xBF (n - 0xC0))
    else if n < 0xF0 then
      ([], .inside 2 (if n = 0xE0 then 0xA0 else 0x80) (if n = 0xED then 0x9F else 0xBF) (n - 0xE0))
    else if n < 0xF5 then
      ([], .inside 3 (if n = 0xF0 then 0x90 else 0x80) (if n = 0xF4 then 0x8F else 0xBF) (n - 0xF0))
    else ([none], .start) := by
  simp only [lead, UInt8.lt_iff_toNat_lt, ← UInt8.toNat_inj, toNat_byte h]
  rfl

theorem step_inside {owed code n : Nat} {low high : UInt8} (hl : low.toNat ≤ n)
    (hh : n ≤ high.toNat) :
    step (.inside owed low high code) (UInt8.ofNat n) =
      if owed ≤ 1 then ([some (Char.ofNat (code * 64 + (n - 0x80)))], .start)
      else ([], .inside (owed - 1) 0x80 0xBF (code * 64 + (n - 0x80))) := by
  have hn : n < 256 := by
    have := high.toNat_lt
    omega
  have hr : low ≤ UInt8.ofNat n ∧ UInt8.ofNat n ≤ high := by
    simp only [UInt8.le_iff_toNat_le, toNat_byte hn]
    exact ⟨hl, hh⟩
  simp only [step, if_pos hr, toNat_byte hn]

/-! ### The bytes of a character -/

theorem scan_cons (st : List Piece × State) (b : UInt8) (bs : Bytes) :
    scan st (b :: bs) = scan (feed st b) bs := rfl

theorem scan_owed {owed code n : Nat} {low high : UInt8} (hl : low.toNat ≤ n)
    (hh : n ≤ high.toNat) (bs : Bytes) :
    scan ([], .inside (owed + 2) low high code) (UInt8.ofNat n :: bs) =
      scan ([], .inside (owed + 1) 0x80 0xBF (code * 64 + (n - 0x80))) bs := by
  rw [scan_cons]
  simp only [feed, step_inside hl hh, if_neg (by omega : ¬ owed + 2 ≤ 1)]
  rfl

theorem scan_last {code n : Nat} {low high : UInt8} (hl : low.toNat ≤ n) (hh : n ≤ high.toNat) :
    scan ([], .inside 1 low high code) [UInt8.ofNat n] =
      ([some (Char.ofNat (code * 64 + (n - 0x80)))], .start) := by
  rw [scan_cons]
  simp only [feed, step_inside hl hh, if_pos (Nat.le_refl 1)]
  rfl

theorem scan_lead {state : State} {n : Nat} (h : lead (UInt8.ofNat n) = ([], state)) (bs : Bytes) :
    scan ([], .start) (UInt8.ofNat n :: bs) = scan ([], state) bs := by
  rw [scan_cons]
  simp only [feed, step, h]
  rfl

theorem low_byte (v : Nat) : (0x80 : UInt8).toNat ≤ v % 0x40 + 0x80 :=
  Nat.le_add_left 0x80 _

theorem byte_high (v : Nat) : v % 0x40 + 0x80 ≤ (0xBF : UInt8).toNat := by
  show v % 0x40 + 0x80 ≤ 0xBF
  omega

/-- **A character is read back.** The bytes of a character bring this character
and leave the machine between characters. -/
theorem scan_encodeChar (c : Char) :
    scan ([], .start) (String.utf8EncodeChar c) = ([some c], .start) := by
  have hv : c.val.toNat < 0xD800 ∨ (0xDFFF < c.val.toNat ∧ c.val.toNat < 0x110000) := c.valid
  have hc : Char.ofNat c.val.toNat = c := Char.ofNat_toNat c
  unfold String.utf8EncodeChar
  generalize c.val.toNat = v at hv hc
  simp only
  split
  · next h1 =>
    rw [scan_cons]
    simp only [feed, step, lead_byte (by omega : v < 256), if_pos (by omega : v < 0x80), hc]
    rfl
  split
  · next h1 h2 =>
    have hlead : lead (UInt8.ofNat (v / 64 % 0x20 + 0xC0)) =
        ([], .inside 1 0x80 0xBF (v / 64 % 0x20 + 0xC0 - 0xC0)) := by
      rw [lead_byte (by omega), if_neg (by omega), if_neg (by omega), if_pos (by omega)]
    rw [scan_lead hlead, scan_last (low_byte v) (byte_high v),
      show (v / 64 % 0x20 + 0xC0 - 0xC0) * 64 + (v % 0x40 + 0x80 - 0x80) = v by omega, hc]
  split
  · next h1 h2 h3 =>
    have hlead := lead_byte (by omega : v / 4096 % 0x10 + 0xE0 < 256)
    rw [if_neg (by omega), if_neg (by omega), if_neg (by omega), if_pos (by omega)] at hlead
    -- no overlong form, as `v` is past `7FF`, and no surrogate
    have hl : (if v / 4096 % 0x10 + 0xE0 = 0xE0 then 0xA0 else 0x80 : UInt8).toNat ≤
        v / 64 % 0x40 + 0x80 := by
      split
      · show 0xA0 ≤ _; omega
      · exact low_byte _
    have hh : v / 64 % 0x40 + 0x80 ≤
        (if v / 4096 % 0x10 + 0xE0 = 0xED then 0x9F else 0xBF : UInt8).toNat := by
      split
      · show _ ≤ 0x9F; omega
      · exact byte_high _
    rw [scan_lead hlead, scan_owed hl hh, scan_last (low_byte v) (byte_high v),
      show ((v / 4096 % 0x10 + 0xE0 - 0xE0) * 64 + (v / 64 % 0x40 + 0x80 - 0x80)) * 64 +
        (v % 0x40 + 0x80 - 0x80) = v by omega, hc]
  · next h1 h2 h3 =>
    have hlead := lead_byte (by omega : v / 262144 % 0x08 + 0xF0 < 256)
    rw [if_neg (by omega), if_neg (by omega), if_neg (by omega), if_neg (by omega),
      if_pos (by omega)] at hlead
    -- no overlong form, as `v` is past `FFFF`, and no code past `10FFFF`
    have hl : (if v / 262144 % 0x08 + 0xF0 = 0xF0 then 0x90 else 0x80 : UInt8).toNat ≤
        v / 4096 % 0x40 + 0x80 := by
      split
      · show 0x90 ≤ _; omega
      · exact low_byte _
    have hh : v / 4096 % 0x40 + 0x80 ≤
        (if v / 262144 % 0x08 + 0xF0 = 0xF4 then 0x8F else 0xBF : UInt8).toNat := by
      split
      · show _ ≤ 0x8F; omega
      · exact byte_high _
    rw [scan_lead hlead, scan_owed hl hh, scan_owed (low_byte _) (byte_high _),
      scan_last (low_byte v) (byte_high v),
      show (((v / 262144 % 0x08 + 0xF0 - 0xF0) * 64 + (v / 4096 % 0x40 + 0x80 - 0x80)) * 64 +
        (v / 64 % 0x40 + 0x80 - 0x80)) * 64 + (v % 0x40 + 0x80 - 0x80) = v by omega, hc]

/-! ### The bytes of a text -/

theorem encode_append (s t : Text) : encode (s ++ t) = encode s ++ encode t := by
  simp [encode]

theorem encode_cons (c : Char) (s : Text) :
    encode (c :: s) = String.utf8EncodeChar c ++ encode s := by
  simp [encode]

/-- A character in front is read first, whatever comes after it. -/
theorem pieces_encodeChar (c : Char) (bs : Bytes) :
    pieces (String.utf8EncodeChar c ++ bs) = some c :: pieces bs := by
  have hc := scan_encodeChar c
  rw [pieces_append_of_rest (by rw [hc])]
  simp [pieces, hc, finish]

theorem splitAtBreak_encodeChar (c : Char) (bs : Bytes) :
    splitAtBreak (String.utf8EncodeChar c ++ bs) =
      (c :: (splitAtBreak bs).1, (splitAtBreak bs).2) := by
  have htext : ((pieces (String.utf8EncodeChar c ++ bs)).takeWhile Option.isSome).filterMap id =
      c :: ((pieces bs).takeWhile Option.isSome).filterMap id := by
    rw [pieces_encodeChar]
    rfl
  unfold splitAtBreak
  rw [htext]
  dsimp only
  rw [encode_cons, List.length_append, List.drop_length_add_append]

theorem pieces_encode : ∀ s : Text, pieces (encode s) = s.map some
  | [] => rfl
  | c :: s => by
    rw [encode_cons, pieces_encodeChar, pieces_encode s]
    rfl

/-- **A text is read back.** -/
theorem decodeLossy_encode (s : Text) : decodeLossy (encode s) = s := by
  rw [decodeLossy, pieces_encode, List.map_map]
  exact List.map_id s

theorem encode_injective {s t : Text} (h : encode s = encode t) : s = t := by
  rw [← decodeLossy_encode s, h, decodeLossy_encode]

end Utf8
end StressBench
