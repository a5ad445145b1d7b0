/-
# Requests to synthesizers

A synthesizer is a source from which instructions are drawn. It is asked for the next one,
for several at once, for a stream of which some are pulled, or for a corpus, for which the
memory may have room or not at the time. It can be
cloned at any time; in a session with several synthesizers each has a number, in the order
in which they were made, and is asked by it.

Key definitions: `Synthesis.LineStream`, `Synthesis.Request`, `Synthesis.Request.answer`,
`Synthesis.answers`, `Synthesis.Session.step`, `Synthesis.Session.run`.
-/
import StressBench.Corpus

namespace StressBench
namespace Synthesis

variable {σ : Type} [WordSource σ]

/-! ### Streams -/

/-- Instructions that are drawn from a source when they are pulled, `left` of them. -/
structure LineStream (σ : Type) where
  left : Nat
  source : σ

namespace LineStream

/-- The next instruction of a stream. A stream with none left draws nothing. -/
def pull (t : LineStream σ) : Option (Instruction × LineStream σ) :=
  match t.left with
  | 0 => none
  | n + 1 =>
    let (i, s) := nextInstruction t.source
    some (i, ⟨n, s⟩)

/-- What so many pulls bring; the first that brings nothing is the last. -/
def pulls : Nat → LineStream σ → List Instruction × LineStream σ
  | 0, t => ([], t)
  | k + 1, t =>
    match t.pull with
    | none => ([], t)
    | some (i, t) =>
      let (is, t) := pulls k t
      (i :: is, t)

end LineStream

/-! ### Requests -/

/-- What a synthesizer is asked for: the next instruction, several at once, a stream of so
many from which `taken` are pulled, or a corpus of so many lines with the memory there is. -/
inductive Request
  | next
  | several (count : Nat)
  | stream (count taken : Nat)
  | corpus (memory : Memory) (total : Nat)

/-- What a synthesizer answers. -/
inductive Answer
  | instructions (drawn : List Instruction)
  | corpus (result : Except Failure Corpus)

/-- The instructions of an answer. -/
def Answer.lines : Answer → List Instruction
  | .instructions drawn => drawn
  | .corpus (.ok c) => c.body
  | .corpus (.error _) => []

/-- Answers a request. -/
def Request.answer (s : σ) : Request → Answer × σ
  | .next =>
    let (i, s) := nextInstruction s
    (.instructions [i], s)
  | .several count =>
    let (is, s) := Synthesis.instructions count s
    (.instructions is, s)
  | .stream count taken =>
    let (is, t) := LineStream.pulls taken ⟨count, s⟩
    (.instructions is, t.source)
  | .corpus memory total =>
    let (result, s) := Corpus.generate memory total s
    (.corpus result, s)

/-- Answers requests, one after another. -/
def answers : List Request → σ → List Answer × σ
  | [], s => ([], s)
  | r :: rs, s =>
    let (a, s) := r.answer s
    let (as, s) := answers rs s
    (a :: as, s)

/-! ### Several synthesizers -/

/-- The synthesizers of a session, by their numbers. -/
abbrev Session (σ : Type) := List σ

namespace Session

/-- What happens to a synthesizer: it is asked, or a clone of it is made. -/
inductive Event
  | ask (who : Nat) (request : Request)
  | clone (who : Nat)

/-- One event: the answer, with the number of the synthesizer that gave it, and the session
then. A number that no synthesizer has is passed over. -/
def step (ss : Session σ) : Event → Option (Nat × Answer) × Session σ
  | .ask who request =>
    match ss[who]? with
    | none => (none, ss)
    | some s =>
      let (a, s) := request.answer s
      (some (who, a), ss.set who s)
  | .clone who =>
    match ss[who]? with
    | none => (none, ss)
    | some s => (none, ss ++ [s])

/-- The answers to events, in order, and the session then. -/
def run (ss : Session σ) : List Event → List (Nat × Answer) × Session σ
  | [] => ([], ss)
  | e :: events =>
    let (a, ss) := ss.step e
    let (as, ss) := run ss events
    (a.toList ++ as, ss)

end Session
end Synthesis
end StressBench
