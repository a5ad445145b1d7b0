/-
# Writing lines is one write

Two writes, of which the second is made only if the first fits, do to a sink what
one write of all the bytes does. So a line, a feed and a whole file text are each
one write, whatever the capacity and wherever it runs out: `writeLines` is the
write of the file text, followed by a flush if the text fits.

Key definition: `Sink.Fits`.
Key theorems: `Sink.write_append`, `writeFeed_eq_write`, `writeLines_eq_write`,
`writeLines_of_fits`.
-/
import StressBench.Proofs.Text.Encoding
import StressBench.Sink

namespace StressBench

/-! ### One write after another -/

namespace Sink

/-- There is room for `n` more bytes. -/
def Fits (s : Sink) (n : Nat) : Prop :=
  ∀ c, s.capacity = some c → n ≤ c - s.latest.length

theorem write_nil (s : Sink) : s.write [] = (none, s) := by
  simp [write]

theorem write_of_fits {s : Sink} {bs : Bytes} (h : s.Fits bs.length) :
    s.write bs = (none, { s with latest := bs.reverse ++ s.latest }) := by
  have hr : s.room bs.length = bs.length := by
    unfold room
    cases hc : s.capacity with
    | none => rfl
    | some c => exact Nat.min_eq_left (h c hc)
  unfold write
  simp only [hr, Nat.lt_irrefl, if_false, List.take_length]

theorem write_of_not_fits {s : Sink} {bs : Bytes} {c : Nat} (hc : s.capacity = some c)
    (h : c - s.latest.length < bs.length) :
    s.write bs = (some s.fullError,
      { s with latest := (bs.take (c - s.latest.length)).reverse ++ s.latest }) := by
  have hr : s.room bs.length = c - s.latest.length := by
    unfold room
    rw [hc]
    exact Nat.min_eq_right (Nat.le_of_lt h)
  unfold write
  simp only [hr, if_pos h]

/-- **Two writes are one.** The second is made if the first fits. -/
theorem write_append (s : Sink) (a b : Bytes) : s.write (a ++ b) =
    match s.write a with
    | (some e, s) => (some e, s)
    | (none, s) => s.write b := by
  by_cases ha : s.Fits a.length
  · rw [write_of_fits ha]
    simp only
    by_cases hab : s.Fits (a ++ b).length
    · have hb : Sink.Fits { s with latest := a.reverse ++ s.latest } b.length := by
        intro c hc
        have := hab c hc
        simp only [List.length_append, List.length_reverse] at this ⊢
        omega
      rw [write_of_fits hab, write_of_fits hb]
      simp
    · simp only [Fits, Classical.not_forall, Nat.not_le] at hab
      obtain ⟨c, hc, hlt⟩ := hab
      have hfit := ha c hc
      have hb : c - (a.reverse ++ s.latest).length < b.length := by
        simp only [List.length_append, List.length_reverse] at hlt ⊢
        omega
      rw [write_of_not_fits hc hlt,
        write_of_not_fits (s := { s with latest := a.reverse ++ s.latest }) hc hb]
      simp only [fullError, List.length_append, List.length_reverse, Prod.mk.injEq, true_and]
      -- what is left for `b` is the room less the length of `a`
      rw [show c - (a.length + s.latest.length) = c - s.latest.length - a.length by omega,
        List.take_append, List.take_of_length_le hfit, List.reverse_append, List.append_assoc]
  · simp only [Fits, Classical.not_forall, Nat.not_le] at ha
    obtain ⟨c, hc, hlt⟩ := ha
    have hlt' : c - s.latest.length < (a ++ b).length := by
      rw [List.length_append]
      omega
    rw [write_of_not_fits hc hlt, write_of_not_fits hc hlt',
      List.take_append_of_le_length (Nat.le_of_lt hlt)]

end Sink

/-! ### Lines, feeds and files -/

theorem encode_fileText_ne_nil (header : Text) (lines : List Text) (terminator : Text) :
    Utf8.encode (fileText header lines terminator) ≠ [] := by
  have hbreak : String.utf8EncodeChar '\n' ≠ [] := by decide
  rw [fileText, Utf8.encode_append, Utf8.encode_cons]
  simp [hbreak]

theorem writeLine_eq_write (s : Sink) (line : Text) :
    writeLine s line = s.write (Utf8.encode (line ++ ['\n'])) := by
  rw [Utf8.encode_append, Sink.write_append]
  rfl

/-- The lines of a feed are written as one text, up to the sink. -/
theorem writeFeed_eq_write {α : Type} (next : α → Text × α) : ∀ (n : Nat) (s : Sink) (a : α),
    ((writeFeed s next n a).error, (writeFeed s next n a).sink) =
      s.write (Utf8.encode ((LineFeed.lines.make next n a).flatMap (· ++ ['\n'])))
  | 0, s, a => (s.write_nil).symm
  | n + 1, s, a => by
    rw [LineFeed.lines.make, List.flatMap_cons, Utf8.encode_append, Sink.write_append,
      ← writeLine_eq_write]
    simp only [writeFeed]
    rcases writeLine s (next a).1 with ⟨_ | e, s'⟩
    · exact writeFeed_eq_write next n s' (next a).2
    · rfl

/-- **A file is written as one text.** If the text fits, the sink is flushed. -/
theorem writeLines_eq_write {α : Type} (s : Sink) (header : Text) (feed : LineFeed α)
    (terminator : Text) :
    ((writeLines s header feed terminator).error, (writeLines s header feed terminator).sink) =
      match s.write (Utf8.encode (fileText header feed.lines terminator)) with
      | (some e, s) => (some e, s)
      | (none, s) => s.flush := by
  rw [fileText, List.append_cons, Utf8.encode_append (header ++ ['\n']), Sink.write_append,
    ← writeLine_eq_write]
  unfold writeLines
  rcases writeLine s header with ⟨_ | e, s₁⟩
  · simp only
    have hfeed := writeFeed_eq_write feed.next feed.count s₁ feed.state
    rw [Utf8.encode_append, Sink.write_append, LineFeed.lines, ← hfeed]
    rcases writeFeed s₁ feed.next feed.count feed.state with ⟨_ | e, s₂, rest⟩
    · simp only
      rcases s₂.write (Utf8.encode terminator) with ⟨_ | e, s₃⟩ <;> rfl
    · rfl
  · rfl

theorem writeLines_of_fits {α : Type} {s : Sink} (header : Text) (feed : LineFeed α)
    (terminator : Text)
    (h : s.Fits (Utf8.encode (fileText header feed.lines terminator)).length) :
    (writeLines s header feed terminator).error = s.flushError ∧
      (writeLines s header feed terminator).sink.taken =
        s.taken ++ Utf8.encode (fileText header feed.lines terminator) := by
  have hw := writeLines_eq_write s header feed terminator
  rw [Sink.write_of_fits h] at hw
  obtain ⟨herr, hsink⟩ := Prod.mk.inj hw
  refine ⟨herr, ?_⟩
  rw [hsink]
  simp [Sink.taken]

theorem taken_writeLines {α : Type} (s : Sink) (header : Text) (feed : LineFeed α)
    (terminator : Text) :
    (writeLines s header feed terminator).sink.taken = s.taken ++
      (Utf8.encode (fileText header feed.lines terminator)).take
        (s.room (Utf8.encode (fileText header feed.lines terminator)).length) := by
  have hw := writeLines_eq_write s header feed terminator
  rw [← Sink.taken_write]
  generalize s.write (Utf8.encode (fileText header feed.lines terminator)) = r at hw ⊢
  rcases r with ⟨_ | e, s'⟩
  · rw [(Prod.mk.inj hw).2]
    rfl
  · rw [(Prod.mk.inj hw).2]

/-- When the flush cannot fail, writing a file fails exactly when it does not fit. -/
theorem writeLines_error_eq_none_iff {α : Type} {s : Sink} (header : Text) (feed : LineFeed α)
    (terminator : Text) (hflush : s.flushError = none) :
    (writeLines s header feed terminator).error = none ↔
      s.Fits (Utf8.encode (fileText header feed.lines terminator)).length := by
  constructor
  · intro herr c hc
    rcases Nat.lt_or_ge (c - s.latest.length)
        (Utf8.encode (fileText header feed.lines terminator)).length with hlt | hge
    · have hw := writeLines_eq_write s header feed terminator
      rw [Sink.write_of_not_fits hc hlt, herr] at hw
      cases (Prod.mk.inj hw).1
    · exact hge
  · intro hfit
    rw [(writeLines_of_fits header feed terminator hfit).1, hflush]

theorem Sink.fits_of_unlimited {s : Sink} (h : s.capacity = none) (n : Nat) : s.Fits n := by
  intro c hc
  rw [h] at hc
  cases hc

end StressBench
