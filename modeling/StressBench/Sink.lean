/-
# Writing lines into a sink

A sink takes bytes up to its capacity. A write that fits only in part is taken
in part; a write of at least one byte to a full sink fails, or the sink answers
that it took nothing. A writer that claims to be interrupted whenever it is full
is no sink, as it is asked again without end. Lines come from a feed, which makes
them one at a time, so that what has not been written has not been made.
`writeLines` writes a header, each line of the feed and a terminator; every line
but the terminator is followed by a line break, and the sink is flushed once at
the end.

Key definitions: `WhenFull`, `WhenFull.IsFinal`, `Sink`, `Sink.write`, `LineFeed`, `writeLines`,
`fileText`.
Key theorems: `Sink.taken_write`, `Sink.write_eq_none_iff`, `Sink.fullError_kind`.
-/
import StressBench.IoError
import StressBench.Text.Utf8

namespace StressBench

/-! ### Sinks -/

/-- What a full writer does with a write of at least one byte. -/
inductive WhenFull
  /-- The write fails with the error. -/
  | fail (error : IoError)
  /-- The write reports that no byte was taken. -/
  | takeNothing
  deriving DecidableEq, Repr

/-- The answer ends a write: it does not ask for the same write once more. -/
def WhenFull.IsFinal : WhenFull → Prop
  | .fail e => e.kind ≠ .interrupted
  | .takeNothing => True

instance (w : WhenFull) : Decidable w.IsFinal :=
  match w with
  | .fail e => inferInstanceAs (Decidable (e.kind ≠ .interrupted))
  | .takeNothing => inferInstanceAs (Decidable True)

/-- What a disk without room answers is the last word on a write. -/
theorem WhenFull.isFinal_noSpace : (fail (.system Errno.noSpace)).IsFinal := by
  decide

/-- A sink for bytes. No capacity means that it is never full. The bytes taken
are kept latest first. -/
structure Sink where
  capacity : Option Nat
  whenFull : WhenFull
  final : whenFull.IsFinal := by decide
  flushError : Option IoError
  latest : Bytes := []
  flushes : Nat := 0
  deriving DecidableEq, Repr

namespace Sink

/-- A sink that takes everything. -/
def unlimited : Sink :=
  { capacity := none, whenFull := .takeNothing, flushError := none }

/-- The bytes that the sink has taken, in order. -/
def taken (s : Sink) : Bytes :=
  s.latest.reverse

/-- The number of bytes that still fit, of `n` that are offered. -/
def room (s : Sink) (n : Nat) : Nat :=
  match s.capacity with
  | none => n
  | some c => min n (c - s.latest.length)

/-- The error of a write that does not fit. -/
def fullError (s : Sink) : IoError :=
  match s.whenFull with
  | .fail e => e
  | .takeNothing => .custom .writeZero "failed to write whole buffer"

/-- Writes bytes, all that fit; the error says that some did not. -/
def write (s : Sink) (bs : Bytes) : Option IoError × Sink :=
  let fits := s.room bs.length
  (if fits < bs.length then some s.fullError else none,
    { s with latest := (bs.take fits).reverse ++ s.latest })

/-- Flushes the sink. -/
def flush (s : Sink) : Option IoError × Sink :=
  (s.flushError, { s with flushes := s.flushes + 1 })

/-- A write adds the bytes that fit to those taken. -/
theorem taken_write (s : Sink) (bs : Bytes) :
    (s.write bs).2.taken = s.taken ++ bs.take (s.room bs.length) := by
  simp [write, taken]

/-- A write fails exactly when it does not fit. -/
theorem write_eq_none_iff (s : Sink) (bs : Bytes) :
    (s.write bs).1 = none ↔ bs.length ≤ s.room bs.length := by
  simp [write]

/-- The error of a full sink is the last word on a write. -/
theorem fullError_kind (s : Sink) : s.fullError.kind ≠ .interrupted := by
  have hfinal := s.final
  unfold fullError
  cases hw : s.whenFull with
  | fail e => rwa [hw] at hfinal
  | takeNothing => nofun

end Sink

/-! ### Feeds -/

/-- A feed of `count` lines, made one at a time from a state. -/
structure LineFeed (α : Type) where
  count : Nat
  state : α
  next : α → Text × α

/-- The feed of a list of lines. -/
def LineFeed.ofList (lines : List Text) : LineFeed (List Text) where
  count := lines.length
  state := lines
  next := fun ls => (ls.headD [], ls.tail)

/-- The lines of a feed, all made. -/
def LineFeed.lines {α : Type} (feed : LineFeed α) : List Text :=
  make feed.next feed.count feed.state
where
  /-- The lines made from a state, `n` of them. -/
  make {α : Type} (next : α → Text × α) : Nat → α → List Text
    | 0, _ => []
    | n + 1, a => (next a).1 :: make next n (next a).2

/-! ### Writing -/

/-- What has become of the sink and the feed. -/
structure Written (α : Type) where
  error : Option IoError
  sink : Sink
  rest : LineFeed α

/-- Writes a line and the line break after it. -/
def writeLine (s : Sink) (line : Text) : Option IoError × Sink :=
  match s.write (Utf8.encode line) with
  | (some e, s) => (some e, s)
  | (none, s) => s.write [0x0A]

/-- Writes the lines of a feed; a line that fails is the last one made. -/
def writeFeed {α : Type} (s : Sink) (next : α → Text × α) : Nat → α → Written α
  | 0, a => ⟨none, s, ⟨0, a, next⟩⟩
  | n + 1, a =>
    let (line, a) := next a
    match writeLine s line with
    | (some e, s) => ⟨some e, s, ⟨n, a, next⟩⟩
    | (none, s) => writeFeed s next n a

/-- Writes a header, the lines of a feed and a terminator, and flushes. -/
def writeLines {α : Type} (s : Sink) (header : Text) (feed : LineFeed α) (terminator : Text) :
    Written α :=
  match writeLine s header with
  | (some e, s) => ⟨some e, s, feed⟩
  | (none, s) =>
    match writeFeed s feed.next feed.count feed.state with
    | ⟨some e, s, rest⟩ => ⟨some e, s, rest⟩
    | ⟨none, s, rest⟩ =>
      match s.write (Utf8.encode terminator) with
      | (some e, s) => ⟨some e, s, rest⟩
      | (none, s) =>
        let (e, s) := s.flush
        ⟨e, s, rest⟩

/-- The text that a header, lines and a terminator make up when nothing fails. -/
def fileText (header : Text) (lines : List Text) (terminator : Text) : Text :=
  header ++ '\n' :: (lines.flatMap (· ++ ['\n']) ++ terminator)

theorem LineFeed.lines_ofList (lines : List Text) : (LineFeed.ofList lines).lines = lines := by
  unfold LineFeed.lines LineFeed.ofList
  induction lines with
  | nil => rfl
  | cons l ls ih => simpa [LineFeed.lines.make] using ih

end StressBench
