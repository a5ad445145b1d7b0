/-
# Corpora

A corpus is a fixed comment line, a body of instructions and the word `stop`,
which no line break follows. Its size is counted in lines, the first and the
last included, so that it is at least two. A corpus is made in memory only if
there is room for its body, which is asked for before anything is drawn.

Key definitions: `bodyLength?`, `Memory`, `Corpus`, `Corpus.generate`, `Corpus.render`,
`Corpus.write`, `Corpus.feed`.
-/
import StressBench.Failure
import StressBench.Sink
import StressBench.Synthesis

namespace StressBench

/-- The first line of every corpus. -/
def headerLine : Text :=
  "comment \"This is the automatically generated stress test script to test the ".toList ++
    "front-end compilation performance of the compiler\"".toList

/-- The last line of every corpus. -/
def terminatorLine : Text := ['s', 't', 'o', 'p']

/-- The number of body lines of a corpus of so many lines; none for fewer than two. -/
def bodyLength? (total : Nat) : Option Nat :=
  if total < minLines then none else some (total - minLines)

/-- The memory of a process: for how many instructions it grants room at once. No room is
always granted. As an instruction takes two bytes at least and no more than `2 ^ 63` can be
addressed, room for `2 ^ 62` instructions never is. -/
structure Memory where
  grants : Nat → Bool
  grants_zero : grants 0 = true
  refuses : ∀ n, 1 <<< 62 ≤ n → grants n = false

/-- The memory that grants room for so many instructions and for fewer. -/
def Memory.upTo (most : Nat) (h : most < 1 <<< 62 := by decide) : Memory where
  grants n := n ≤ most
  grants_zero := by simp
  refuses n hn := by simpa using Nat.lt_of_lt_of_le h hn

/-- A corpus in memory: its body. -/
structure Corpus where
  body : List Instruction
  deriving DecidableEq, Repr

namespace Corpus

/-- Generates a corpus of `total` lines from a source. Nothing is drawn for a
size that cannot be made. -/
def generate {σ : Type} [WordSource σ] (memory : Memory) (total : Nat) (s : σ) :
    Except Failure Corpus × σ :=
  match bodyLength? total with
  | none => (.error (.tooFewLines total), s)
  | some n =>
    if memory.grants n then
      let (body, s) := Synthesis.instructions n s
      (.ok ⟨body⟩, s)
    else (.error (.tooManyLines total), s)

/-- The number of lines, the first and the last included. -/
def lineCount (c : Corpus) : Nat :=
  c.body.length + 2

/-- The lines of the body as they are written. -/
def lines (c : Corpus) : List Text :=
  c.body.map Instruction.render

/-- The feed of the lines of the body. -/
def feed (c : Corpus) : LineFeed (List Text) :=
  .ofList c.lines

/-- Writes the corpus into a sink. -/
def write (c : Corpus) (s : Sink) : Written (List Text) :=
  writeLines s headerLine c.feed terminatorLine

/-- The bytes of the corpus: what a sink that is never full takes. -/
def bytes (c : Corpus) : Bytes :=
  (c.write .unlimited).sink.taken

/-- The text of the corpus. -/
def render (c : Corpus) : Text :=
  Utf8.decodeLossy c.bytes

end Corpus

/-- The feed of `count` instructions drawn from a source, each drawn when it is
asked for. -/
def Synthesis.feed {σ : Type} [WordSource σ] (count : Nat) (s : σ) : LineFeed σ where
  count := count
  state := s
  next := fun s =>
    let (i, s) := nextInstruction s
    (i.render, s)

end StressBench
