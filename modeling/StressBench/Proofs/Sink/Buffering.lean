/-
# A buffer in front of a sink

A buffered writer keeps small pieces back and hands them on when more comes than it can
keep, so a sink that fills up may refuse bytes long after they were written, at the flush,
or when the writer goes. None of this shows in the end: however the bytes are cut into
pieces, and whatever the size of the buffer, the sink is left as one write of all of them
and one flush would have left it, and the first error is the same.

Key definitions: `Sink.writeOut`, `Buffer`, `Buffer.write`, `Buffer.flush`, `Buffer.close`,
`Buffer.writePieces`, `Buffer.Carries`, `Buffer.Follows`.
Key theorems: `Buffer.follows_handOn`, `Buffer.follows_write`, `Buffer.writePieces_eq_writeOut`,
`Buffer.writePieces_eq_writeLines`.
-/
import StressBench.Proofs.Sink.Delivery

namespace StressBench

/-! ### One write and one flush -/

namespace Sink

variable {s t : Sink} {bs : Bytes} {e : IoError}

/-- Writes bytes and flushes the sink if all of them fitted. -/
def writeOut (s : Sink) (bs : Bytes) : Option IoError × Sink :=
  match s.write bs with
  | (some e, s) => (some e, s)
  | (none, s) => s.flush

theorem write_after_refusal (h : s.write bs = (some e, t)) (more : Bytes) :
    (t.write more).2 = t := by
  have hfits : ¬s.Fits bs.length := by
    intro hfits
    rw [write_of_fits hfits] at h
    cases h
  obtain ⟨c, hc, hlt⟩ := not_fits_iff.mp hfits
  rw [write_of_not_fits hc hlt] at h
  obtain ⟨-, rfl⟩ := Prod.mk.inj h
  have hroom : room { s with latest := (bs.take (c - s.latest.length)).reverse ++ s.latest }
      more.length = 0 := by
    simp only [room, hc, List.length_append, List.length_reverse, List.length_take]
    omega
  simp only [write, hroom, List.take_zero, List.reverse_nil, List.nil_append]

theorem taken_writeOut (h : s.writeOut bs = (none, t)) : t.taken = s.taken ++ bs := by
  unfold writeOut at h
  by_cases hfits : s.Fits bs.length
  · rw [write_of_fits hfits] at h
    obtain ⟨-, rfl⟩ := Prod.mk.inj h
    simp only [taken, List.reverse_append, List.reverse_reverse]
  · rw [write_of_not_fits_room hfits] at h
    cases h

end Sink

/-! ### Buffers -/

/-- A writer that keeps bytes back, up to `size` of them, before it hands them to a sink. -/
structure Buffer where
  sink : Sink
  size : Nat
  pending : Bytes := []

namespace Buffer

/-- Hands the pending bytes to the sink. Those that it does not take stay pending. -/
def handOn (b : Buffer) : Option IoError × Buffer :=
  let (error, sink) := b.sink.write b.pending
  (error, { b with sink, pending := b.pending.drop (b.sink.room b.pending.length) })

/-- Puts a piece where there is room: with the pending bytes, or past them into the sink if
it would fill the buffer. -/
def place (b : Buffer) (piece : Bytes) : Option IoError × Buffer :=
  if b.size ≤ piece.length then
    let (error, sink) := b.sink.write piece
    (error, { b with sink })
  else (none, { b with pending := b.pending ++ piece })

/-- Writes a piece. If there is no room for it, what is pending is handed on first. -/
def write (b : Buffer) (piece : Bytes) : Option IoError × Buffer :=
  let spare := b.size - b.pending.length
  if piece.length < spare then (none, { b with pending := b.pending ++ piece })
  else
    match if spare < piece.length then b.handOn else (none, b) with
    | (some e, b) => (some e, b)
    | (none, b) => b.place piece

/-- Hands on what is pending and flushes the sink. -/
def flush (b : Buffer) : Option IoError × Buffer :=
  match b.handOn with
  | (some e, b) => (some e, b)
  | (none, b) =>
    let (error, sink) := b.sink.flush
    (error, { b with sink })

/-- The sink when the writer is gone, which hands on what is pending once more and does
not tell whether it was taken. -/
def close (b : Buffer) : Sink :=
  b.handOn.2.sink

/-- Writes pieces until one fails, and flushes after the last one. -/
def writePieces : List Bytes → Buffer → Option IoError × Buffer
  | [], b => b.flush
  | piece :: pieces, b =>
    match b.write piece with
    | (some e, b) => (some e, b)
    | (none, b) => writePieces pieces b

/-! ### What a step of a buffer keeps -/

/-- The buffer has been given `bs` and nothing has failed: its sink, once it has the
pending bytes, will be where `s` would be. -/
structure Carries (s : Sink) (bs : Bytes) (b : Buffer) : Prop where
  bounded : b.pending.length ≤ b.size
  write_eq : ∀ more, s.write (bs ++ more) = b.sink.write (b.pending ++ more)

/-- What has come of giving `bs` to a buffer in front of `s`. After an error the sink that
is left when the writer goes is the one of the write that failed. -/
def Follows (s : Sink) (bs : Bytes) : Option IoError × Buffer → Prop
  | (none, b) => Carries s bs b
  | (some e, b) => ∀ more, s.write (bs ++ more) = (some e, b.close)

variable {s : Sink} {bs : Bytes} {b b' : Buffer} {e : IoError}

theorem carries_start (s : Sink) (size : Nat) : Carries s [] ⟨s, size, []⟩ :=
  ⟨Nat.zero_le size, fun _ => rfl⟩

theorem handOn_eq_none (h : b.handOn = (none, b')) :
    b.sink.write b.pending = (none, b'.sink) ∧ b'.pending = [] := by
  unfold handOn at h
  obtain ⟨hnone, rfl⟩ := Prod.mk.inj h
  exact ⟨Prod.ext hnone rfl, List.drop_eq_nil_of_le ((b.sink.write_eq_none_iff _).mp hnone)⟩

theorem handOn_eq_some (h : b.handOn = (some e, b')) :
    b.sink.write b.pending = (some e, b'.close) := by
  unfold handOn at h
  obtain ⟨hsome, rfl⟩ := Prod.mk.inj h
  -- going, the writer offers what was left over to a sink that is full
  exact Prod.ext hsome (Sink.write_after_refusal (Prod.ext hsome rfl) _).symm

theorem write_append_of_refused {t : Sink} {as : Bytes} (h : s.write as = (some e, t))
    (more : Bytes) : s.write (as ++ more) = (some e, t) := by
  rw [Sink.write_append, h]

/-- **Handing on** what is pending. -/
theorem follows_handOn (h : Carries s bs b) : Follows s bs b.handOn := by
  rcases hh : b.handOn with ⟨_ | e, b'⟩
  · obtain ⟨hw, hnil⟩ := handOn_eq_none hh
    refine ⟨by rw [hnil]; exact Nat.zero_le _, fun more => ?_⟩
    rw [h.write_eq, Sink.write_append, hw, hnil, List.nil_append]
  · intro more
    rw [h.write_eq]
    exact write_append_of_refused (handOn_eq_some hh) more

theorem Carries.keep (h : Carries s bs b) {piece : Bytes}
    (hroom : b.pending.length + piece.length ≤ b.size) :
    Carries s (bs ++ piece) { b with pending := b.pending ++ piece } where
  bounded := by rwa [List.length_append]
  write_eq more := by rw [List.append_assoc, h.write_eq, List.append_assoc]

/-- **A piece finds its place** when there is room for it, which is nowhere but past an
empty buffer if it would fill one. -/
theorem follows_place (h : Carries s bs b) {piece : Bytes}
    (hpast : b.size ≤ piece.length → b.pending = [])
    (hroom : piece.length < b.size → b.pending.length + piece.length ≤ b.size) :
    Follows s (bs ++ piece) (b.place piece) := by
  unfold place
  by_cases hlarge : b.size ≤ piece.length
  · have hnil := hpast hlarge
    have hwhole : ∀ more, s.write (bs ++ piece ++ more) = b.sink.write (piece ++ more) := by
      intro more
      rw [List.append_assoc, h.write_eq, hnil, List.nil_append]
    rw [if_pos hlarge]
    rcases hw : b.sink.write piece with ⟨_ | e, t⟩
    · refine ⟨h.bounded, fun more => ?_⟩
      rw [hwhole, Sink.write_append, hw, hnil, List.nil_append]
    · intro more
      have hclose : close { b with sink := t } = t := by
        rw [close, handOn, hnil, t.write_nil]
      rw [hwhole, hclose]
      exact write_append_of_refused hw more
  · rw [if_neg hlarge]
    exact h.keep (hroom (Nat.lt_of_not_le hlarge))

/-- **Writing one piece.** -/
theorem follows_write (h : Carries s bs b) (piece : Bytes) :
    Follows s (bs ++ piece) (b.write piece) := by
  have hbounded := h.bounded
  unfold write
  by_cases hkept : piece.length < b.size - b.pending.length
  · simp only [if_pos hkept]
    exact h.keep (by omega)
  simp only [if_neg hkept]
  by_cases hover : b.size - b.pending.length < piece.length
  · rw [if_pos hover]
    have hfollows := follows_handOn h
    rcases hh : b.handOn with ⟨_ | e, b'⟩ <;> rw [hh] at hfollows
    · obtain ⟨-, hnil⟩ := handOn_eq_none hh
      exact follows_place hfollows (fun _ => hnil) fun hlt => by simp [hnil, Nat.le_of_lt hlt]
    · intro more
      rw [List.append_assoc]
      exact hfollows (piece ++ more)
  · -- the piece fills the buffer to the last byte
    rw [if_neg hover]
    exact follows_place h (fun hlarge => List.length_eq_zero_iff.mp (by omega)) fun _ => by omega

theorem flush_eq_writeOut (h : Carries s bs b) :
    (b.flush.1, b.flush.2.close) = s.writeOut bs := by
  have hw := h.write_eq []
  rw [List.append_nil, List.append_nil] at hw
  unfold flush Sink.writeOut
  rw [hw]
  rcases hh : b.handOn with ⟨_ | e, b'⟩
  · obtain ⟨hwritten, hnil⟩ := handOn_eq_none hh
    rw [hwritten]
    refine Prod.ext rfl ?_
    simp only [close, handOn, hnil, Sink.write_nil]
  · rw [handOn_eq_some hh]

/-! ### What becomes of all pieces -/

/-- Pieces that are written to a buffer which has been given some bytes already. -/
theorem writePieces_of_carries (pieces : List Bytes) : ∀ {bs : Bytes} {b : Buffer},
    Carries s bs b → ((writePieces pieces b).1, (writePieces pieces b).2.close) =
      s.writeOut (bs ++ pieces.flatten) := by
  induction pieces with
  | nil =>
    intro bs b h
    rw [List.flatten_nil, List.append_nil]
    exact flush_eq_writeOut h
  | cons piece pieces ih =>
    intro bs b h
    have hfollows := follows_write h piece
    rw [writePieces, List.flatten_cons, ← List.append_assoc]
    rcases hb : b.write piece with ⟨_ | e, b'⟩ <;> rw [hb] at hfollows
    · exact ih hfollows
    · rw [Sink.writeOut, hfollows]

/-- **A buffer does not show.** -/
theorem writePieces_eq_writeOut (s : Sink) (size : Nat) (pieces : List Bytes) :
    ((writePieces pieces ⟨s, size, []⟩).1, (writePieces pieces ⟨s, size, []⟩).2.close) =
      s.writeOut pieces.flatten :=
  writePieces_of_carries pieces (carries_start s size)

/-- The lines of a file, in whatever pieces they go through a buffer. -/
theorem writePieces_eq_writeLines {α : Type} (s : Sink) (size : Nat) {pieces : List Bytes}
    {header terminator : Text} {feed : LineFeed α}
    (h : pieces.flatten = fileBytes header feed.lines terminator) :
    ((writePieces pieces ⟨s, size, []⟩).1, (writePieces pieces ⟨s, size, []⟩).2.close) =
      ((writeLines s header feed terminator).error,
        (writeLines s header feed terminator).sink) := by
  rw [writePieces_eq_writeOut, h, writeLines_eq_write]
  rfl

end Buffer
end StressBench
