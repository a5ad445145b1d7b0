/-
# Where an encoding breaks

The lenient reading goes from the left. Where the bytes of a character stand it reads this
character. Where none stand it takes the longest run of bytes that some character begins
with, or one byte if no character begins with it, and puts U+FFFD for the run. This tells
the reading without the machine, and the machine reads just so. A byte string is what its own
reading encodes exactly if it is valid.

Key definitions: `Utf8.IsValid`, `Utf8.Begins`, `Utf8.IsBreak`, `Utf8.Lossy`, `Utf8.relay`.
Key theorems: `Utf8.isValid_iff`, `Utf8.isBreak_of_pieces`, `Utf8.pieces_of_isBreak`,
`Utf8.lossy_iff`, `Utf8.relay_append`.
-/
import StressBench.Proofs.Text.Decoding

namespace StressBench
namespace Utf8

/-! ### Valid byte strings -/

/-- Whether a byte string is UTF-8. -/
def IsValid (bs : Bytes) : Prop :=
  bs.toByteArray.IsValidUTF8

theorem isValid_iff {bs : Bytes} : IsValid bs ↔ ∃ s, bs = encode s := by
  constructor
  · rintro ⟨s, hs⟩
    exact ⟨s, List.toByteArray_inj.mp hs⟩
  · rintro ⟨s, rfl⟩
    exact .intro s rfl

/-! ### Breaks and lenient readings -/

/-- Bytes that a character begins with. -/
def Begins (run : Bytes) : Prop :=
  ∃ c, run <+: String.utf8EncodeChar c

/-- A run of bytes at which the encoding breaks, before others: no character stands there, and
it is the longest run that a character begins with, or one byte that none begins with. -/
structure IsBreak (run rest : Bytes) : Prop where
  ne_nil : run ≠ []
  noCharacter : ∀ c, ¬ String.utf8EncodeChar c <+: run ++ rest
  begins : Begins run ∨ run.length = 1
  longest : ∀ other, other <+: run ++ rest → Begins other → other.length ≤ run.length

/-- A text that a byte string is leniently read as: the characters that stand in it, and U+FFFD
for each break, in order. -/
inductive Lossy : Bytes → Text → Prop
  | done : Lossy [] []
  | character {c : Char} {bs : Bytes} {s : Text} (h : Lossy bs s) :
      Lossy (String.utf8EncodeChar c ++ bs) (c :: s)
  | broken {run bs : Bytes} {s : Text} (hrun : IsBreak run bs) (h : Lossy bs s) :
      Lossy (run ++ bs) ('\uFFFD' :: s)

variable {bs run rest : Bytes} {ps : List Piece}

theorem Begins.of_prefix {other : Bytes} (h : Begins run) (hother : other <+: run) :
    Begins other := by
  obtain ⟨c, hc⟩ := h
  exact ⟨c, hother.trans hc⟩

/-! ### Runs that the machine goes through -/

theorem suffix_scan (st : List Piece × State) (bs : Bytes) : st.1 <:+ (scan st bs).1 := by
  obtain ⟨acc, state⟩ := st
  rw [scan_acc]
  exact List.suffix_append _ acc

theorem scan_append (st : List Piece × State) (bs bs' : Bytes) :
    scan st (bs ++ bs') = scan (scan st bs) bs' := List.foldl_append

theorem scan_snoc {state : State} (h : scan ([], .start) run = ([], state)) (b : UInt8) :
    scan ([], .start) (run ++ [b]) = ((step state b).1.reverse, (step state b).2) := by
  rw [scan_append, h, scan_cons]
  simp [feed, scan]

/-- No character goes on with a byte that breaks it off. -/
theorem not_begins_of_step {state : State} (h : scan ([], .start) run = ([], state))
    (hb : none ∈ (step state b).1) : ¬ Begins (run ++ [b]) := by
  rintro ⟨c, after, hc⟩
  have hread := suffix_scan (scan ([], .start) (run ++ [b])) after
  rw [← scan_append, hc, scan_encodeChar, scan_snoc h] at hread
  have hmem : none ∈ [some c] := hread.subset (List.mem_reverse.mpr hb)
  simp at hmem

/-- Where bytes are owed, there are some that pay for all. -/
theorem exists_scan_inside {owed code : Nat} {low high : UInt8} (h : low ≤ high) :
    ∃ after c, scan ([], .inside (owed + 1) low high code) after = ([some c], .start) := by
  have hhigh : low.toNat ≤ high.toNat := UInt8.le_iff_toNat_le.mp h
  induction owed generalizing low high code with
  | zero => exact ⟨[UInt8.ofNat low.toNat], _, scan_last (Nat.le_refl _) hhigh⟩
  | succ owed ih =>
    obtain ⟨after, c, hafter⟩ := @ih (code * 64 + (low.toNat - 0x80)) 0x80 0xBF (by decide)
      (by decide)
    exact ⟨UInt8.ofNat low.toNat :: after, c,
      (scan_owed (Nat.le_refl _) hhigh after).trans hafter⟩

theorem eq_nil_of_pieces (h : pieces bs = []) : bs = [] := by
  cases bs with
  | nil => rfl
  | cons b bs => exact absurd h (pieces_cons_ne_nil b bs)

theorem begins_of_inside {owed code : Nat} {low high : UInt8}
    (h : scan ([], .start) run = ([], .inside (owed + 1) low high code)) (hrange : low ≤ high) :
    Begins run := by
  obtain ⟨after, c, hafter⟩ := @exists_scan_inside owed code low high hrange
  have hpieces : pieces (run ++ after) = [some c] := by
    unfold pieces
    rw [scan_append, h, hafter]
    rfl
  obtain ⟨rest, hrun, hrest⟩ := pieces_eq_cons hpieces
  obtain rfl := eq_nil_of_pieces hrest
  exact ⟨c, after, by rw [hrun, List.append_nil]⟩

/-- What a first byte can do: it is a character, it is a break, or it owes others. -/
theorem lead_cases (b : UInt8) : (∃ c, lead b = ([some c], .start)) ∨ lead b = ([none], .start) ∨
    ∃ owed low high code, lead b = ([], .inside (owed + 1) low high code) ∧ low ≤ high := by
  unfold lead
  split
  · exact .inl ⟨_, rfl⟩
  split
  · exact .inr (.inl rfl)
  split
  · exact .inr (.inr ⟨0, _, _, _, rfl, by decide⟩)
  split
  · refine .inr (.inr ⟨1, _, _, _, rfl, ?_⟩)
    by_cases hb : b = 0xE0
    · subst hb
      decide
    · rw [if_neg hb]
      split <;> decide
  split
  · refine .inr (.inr ⟨2, _, _, _, rfl, ?_⟩)
    by_cases hb : b = 0xF0
    · subst hb
      decide
    · rw [if_neg hb]
      split <;> decide
  · exact .inr (.inl rfl)

/-- A break that comes inside a character: the machine goes through more of the bytes, and the
next one, if there is one, is that of no character. -/
theorem exists_break_of_inside {owed code : Nat} {low high : UInt8}
    (hscan : scan ([], .start) run = ([], .inside (owed + 1) low high code)) (hrange : low ≤ high)
    (h : piecesFrom (.inside (owed + 1) low high code) bs = none :: ps) :
    ∃ more rest, bs = more ++ rest ∧ pieces rest = ps ∧ Begins (run ++ more) ∧
      ∀ b after, rest = b :: after → ¬ Begins (run ++ more ++ [b]) := by
  induction bs generalizing run owed code low high with
  | nil =>
    rw [piecesFrom_nil_inside] at h
    refine ⟨[], [], rfl, (List.cons_eq_cons.mp h).2, ?_, nofun⟩
    rw [List.append_nil]
    exact begins_of_inside hscan hrange
  | cons b bs ih =>
    rw [piecesFrom_cons] at h
    by_cases hb : low ≤ b ∧ b ≤ high
    · cases owed with
      | zero => simp [step, hb] at h
      | succ owed =>
        have hstep : step (.inside (owed + 1 + 1) low high code) b =
            ([], .inside (owed + 1) 0x80 0xBF (code * 64 + (b.toNat - 0x80))) := by
          simp [step, hb]
        have hsnoc := scan_snoc hscan b
        rw [hstep] at h hsnoc
        obtain ⟨more, rest, rfl, hps, hbegins, hnext⟩ := ih hsnoc (by decide) h
        rw [List.append_assoc, List.singleton_append] at hbegins hnext
        exact ⟨b :: more, rest, rfl, hps, hbegins, hnext⟩
    · -- the byte is read as a first one
      have hstep : step (.inside (owed + 1) low high code) b =
          (none :: (lead b).1, (lead b).2) := by
        simp [step, hb]
      rw [hstep] at h
      have hps : pieces (b :: bs) = ps :=
        (piecesFrom_cons .start b bs).trans (List.cons_eq_cons.mp h).2
      refine ⟨[], b :: bs, rfl, hps, ?_, ?_⟩
      · rw [List.append_nil]
        exact begins_of_inside hscan hrange
      · rintro x after hx
        obtain ⟨rfl, rfl⟩ := List.cons_eq_cons.mp hx
        rw [List.append_nil]
        exact not_begins_of_step hscan (by rw [hstep]; exact List.mem_cons_self)

/-! ### The machine reads leniently -/

/-- A run is a break if the machine breaks off at it and no character goes on from it. -/
theorem isBreak_of_run (hne : run ≠ []) (hbegins : Begins run ∨ run.length = 1)
    (hnext : ∀ b after, rest = b :: after → ¬ Begins (run ++ [b]))
    (h : pieces (run ++ rest) = none :: ps) : IsBreak run rest := by
  refine ⟨hne, ?_, hbegins, ?_⟩
  · rintro c ⟨after, hc⟩
    rw [← hc, pieces_encodeChar] at h
    cases h
  · intro other hother hbegin
    refine Nat.not_lt.mp fun hlong => ?_
    obtain _ | ⟨b, after⟩ := rest
    · rw [List.append_nil] at hother
      exact absurd hother.length_le (Nat.not_le.mpr hlong)
    · have hlonger : run ++ [b] <+: other := by
        refine List.prefix_of_prefix_length_le ⟨after, by simp⟩ hother ?_
        rw [List.length_append]
        exact hlong
      exact hnext b after rfl (hbegin.of_prefix hlonger)

/-- **Where the machine breaks off, the encoding breaks.** -/
theorem isBreak_of_pieces (h : pieces bs = none :: ps) :
    ∃ run rest, bs = run ++ rest ∧ IsBreak run rest ∧ pieces rest = ps := by
  obtain _ | ⟨b, bs⟩ := bs
  · cases h
  have hread : (lead b).1 ++ piecesFrom (lead b).2 bs = none :: ps :=
    (piecesFrom_cons .start b bs).symm.trans h
  have hone : scan ([], .start) [b] = ((lead b).1.reverse, (lead b).2) :=
    @scan_snoc [] .start rfl b
  obtain ⟨c, hlead⟩ | hlead | ⟨owed, low, high, code, hlead, hrange⟩ := lead_cases b
  · rw [hlead] at hread
    cases hread
  · rw [hlead] at hread
    have hnone : ¬ Begins [b] :=
      @not_begins_of_step [] b .start rfl (by simp [step, hlead])
    refine ⟨[b], bs, rfl, isBreak_of_run (List.cons_ne_nil _ _) (.inr rfl) ?_ h,
      (List.cons_eq_cons.mp hread).2⟩
    exact fun x after _ hx => hnone (hx.of_prefix (List.prefix_append _ _))
  · rw [hlead] at hread hone
    obtain ⟨more, rest, rfl, hps, hbegins, hnext⟩ := exists_break_of_inside hone hrange hread
    exact ⟨b :: more, rest, rfl,
      isBreak_of_run (List.cons_ne_nil _ _) (.inl hbegins) hnext h, hps⟩

theorem IsBreak.length_le {run' rest' : Bytes} (h : IsBreak run rest) (h' : IsBreak run' rest')
    (heq : run ++ rest = run' ++ rest') : run.length ≤ run'.length := by
  rcases h.begins with hbegins | hone
  · exact h'.longest run ⟨rest, heq⟩ hbegins
  · rw [hone]
    exact List.length_pos_iff.mpr h'.ne_nil

/-- **Where the encoding breaks, the machine breaks off.** -/
theorem pieces_of_isBreak (h : IsBreak run rest) : pieces (run ++ rest) = none :: pieces rest := by
  rcases hread : pieces (run ++ rest) with _ | ⟨_ | c, ps⟩
  · exact absurd (List.append_eq_nil_iff.mp (eq_nil_of_pieces hread)).1 h.ne_nil
  · obtain ⟨run', rest', heq, h', hps⟩ := isBreak_of_pieces hread
    have hlength := Nat.le_antisymm (h.length_le h' heq) (h'.length_le h heq.symm)
    obtain ⟨-, rfl⟩ := List.append_inj heq hlength
    rw [hps]
  · obtain ⟨after, heq, -⟩ := pieces_eq_cons hread
    exact absurd ⟨after, heq.symm⟩ (h.noCharacter c)

theorem decodeLossy_encodeChar (c : Char) (bs : Bytes) :
    decodeLossy (String.utf8EncodeChar c ++ bs) = c :: decodeLossy bs := by
  unfold decodeLossy
  rw [pieces_encodeChar]
  rfl

theorem decodeLossy_append : ∀ (s : Text) (bs : Bytes),
    decodeLossy (encode s ++ bs) = s ++ decodeLossy bs
  | [], _ => rfl
  | c :: s, bs => by
    rw [encode_cons, List.append_assoc, decodeLossy_encodeChar, decodeLossy_append s bs]
    rfl

theorem decodeLossy_break (h : IsBreak run rest) :
    decodeLossy (run ++ rest) = '\uFFFD' :: decodeLossy rest := by
  unfold decodeLossy
  rw [pieces_of_isBreak h]
  rfl

theorem lossy_decodeLossy (bs : Bytes) : Lossy bs (decodeLossy bs) := by
  induction h : bs.length using Nat.strongRecOn generalizing bs with
  | ind n ih =>
    subst h
    rcases hread : pieces bs with _ | ⟨_ | c, ps⟩
    · obtain rfl := eq_nil_of_pieces hread
      exact .done
    · obtain ⟨run, rest, rfl, hrun, -⟩ := isBreak_of_pieces hread
      rw [decodeLossy_break hrun]
      have hshorter : rest.length < (run ++ rest).length := by
        have := List.length_pos_iff.mpr hrun.ne_nil
        rw [List.length_append]
        omega
      exact .broken hrun (ih _ hshorter rest rfl)
    · obtain ⟨rest, rfl, -⟩ := pieces_eq_cons hread
      rw [decodeLossy_encodeChar]
      have hshorter : rest.length < (String.utf8EncodeChar c ++ rest).length := by
        have := List.length_pos_iff.mpr (String.utf8EncodeChar_ne_nil (c := c))
        rw [List.length_append]
        omega
      exact .character (ih _ hshorter rest rfl)

/-- **The lenient reading** is what the machine reads, and there is no other. -/
theorem lossy_iff {s : Text} : Lossy bs s ↔ decodeLossy bs = s := by
  constructor
  · intro h
    induction h with
    | done => rfl
    | character _ ih => rw [decodeLossy_encodeChar, ih]
    | broken hrun _ ih => rw [decodeLossy_break hrun, ih]
  · rintro rfl
    exact lossy_decodeLossy bs

/-- A character that is cut short is one break, and so is a byte that begins none. -/
example : decodeLossy [0x61, 0xE2, 0x82, 0x28, 0xFF] = ['a', '\uFFFD', '(', '\uFFFD'] := by decide

/-! ### What is passed on -/

/-- The bytes of the text that a byte string is leniently read as. -/
def relay (bs : Bytes) : Bytes :=
  encode (decodeLossy bs)

theorem isValid_relay (bs : Bytes) : IsValid (relay bs) :=
  isValid_iff.mpr ⟨_, rfl⟩

/-- **The valid byte strings, and no others, are passed on as they are.** -/
theorem relay_eq_self_iff : relay bs = bs ↔ IsValid bs := by
  constructor
  · intro h
    exact h ▸ isValid_relay bs
  · intro h
    obtain ⟨s, rfl⟩ := isValid_iff.mp h
    rw [relay, decodeLossy_encode]

theorem relay_eq_encode_iff {s : Text} : relay bs = encode s ↔ Lossy bs s := by
  rw [lossy_iff]
  exact ⟨encode_injective, congrArg encode⟩

/-- **A valid beginning is passed on as it is,** whatever comes after it. -/
theorem relay_append (h : IsValid bs) (rest : Bytes) : relay (bs ++ rest) = bs ++ relay rest := by
  obtain ⟨s, rfl⟩ := isValid_iff.mp h
  rw [relay, decodeLossy_append, encode_append, relay]

end Utf8
end StressBench
