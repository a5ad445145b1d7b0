/-
# Sources of random words and uniform draws

A source serves 32-bit words one after another. A draw below `n` scales a word
of 32 or 64 bits to the range and rejects it when its low part lies above the
zone, so that every result is hit by equally many words; it takes words until
one is accepted. A source says how many rejections in a row it can have before
it has none but rejected words left (`patience`): past that number the draw
never ends, and `draw?` has no value. For the keystream the number is its
period; for a finite list of words with zeros behind it, the length of the list,
since zero is never rejected.

Key definitions: `WordSource`, `Keystream`'s and `Tape`'s instances, `Uniform.accept?`,
`Uniform.draw?`, `Uniform.draw`.
-/
import StressBench.Random.Keystream

namespace StressBench

/-- A supply of 32-bit words that never runs dry. -/
class WordSource (σ : Type) where
  /-- The next word, and the source after it. -/
  next : σ → UInt32 × σ
  /-- How many words may be rejected in a row by a draw that ends. -/
  patience : σ → Nat

/-- The keystream repeats after 2^68 words: 2^64 blocks of sixteen. -/
instance : WordSource Keystream where
  next := Keystream.next
  patience := fun _ => 16 * UInt64.size

/-- A list of words served one after another and zeros for ever after it;
`used` counts the words served. -/
structure Tape where
  words : List UInt32
  used : Nat := 0
  deriving DecidableEq, Repr

namespace Tape

/-- Serves the next word of the list, or zero when none is left. -/
def next (t : Tape) : UInt32 × Tape :=
  match t.words with
  | w :: rest => (w, ⟨rest, t.used + 1⟩)
  | [] => (0, ⟨[], t.used + 1⟩)

end Tape

instance : WordSource Tape where
  next := Tape.next
  patience := fun t => t.words.length

namespace Uniform

variable {σ : Type} [WordSource σ]

/-! ### One word -/

/-- The largest low part that is accepted: `n` moved to the top of the word,
less one. -/
def zone (bits n : Nat) : Nat :=
  n <<< (bits - (n.log2 + 1)) - 1

/-- The result of a word `v` for the range below `n`, unless it is rejected: the
word times `n` is split at the word size, the high part is the result and the
low part has to lie in the zone. -/
def accept? {bits n : Nat} (pos : 0 < n) (v : BitVec bits) : Option (Fin n) :=
  if (BitVec.ofNat bits (v.toNat * n)).toNat ≤ zone bits n then
    some ⟨(v.toNat * n) >>> bits, by
      rw [Nat.shiftRight_eq_div_pow, Nat.div_lt_iff_lt_mul (Nat.two_pow_pos bits), Nat.mul_comm n]
      exact Nat.mul_lt_mul_of_pos_right v.isLt pos⟩
  else none

/-- Zero is never rejected. -/
theorem accept?_zero (bits : Nat) {n : Nat} (pos : 0 < n) :
    accept? pos (BitVec.zero bits) = some ⟨0, pos⟩ := by
  simp [accept?]

/-! ### Drawing -/

/-- The size of the word that a draw is made from. -/
inductive Width
  | single
  | double
  deriving DecidableEq, Repr

/-- The bits of a word. -/
def Width.bits : Width → Nat
  | .single => 32
  | .double => 64

/-- The number of 32-bit words that make up a word. -/
def Width.words : Width → Nat
  | .single => 1
  | .double => 2

/-- Takes a word from a source; a word of 64 bits has its low half first. -/
def take : (w : Width) → σ → BitVec w.bits × σ
  | .single, s =>
    let (v, s) := WordSource.next s
    (v.toBitVec, s)
  | .double, s =>
    let (low, s) := WordSource.next s
    let (high, s) := WordSource.next s
    (high.toBitVec ++ low.toBitVec, s)

/-- The first accepted word of at most `attempts`, as a number below `n`. -/
def drawWithin (w : Width) {n : Nat} (pos : 0 < n) : Nat → σ → Option (Fin n × σ)
  | 0, _ => none
  | attempts + 1, s =>
    let (v, s) := take w s
    match accept? pos v with
    | some r => some (r, s)
    | none => drawWithin w pos attempts s

/-- A uniform draw below `n`; none if it never ends. -/
def draw? (w : Width) (n : Nat) (s : σ) (pos : 0 < n := by decide) : Option (Fin n × σ) :=
  drawWithin w pos (WordSource.patience s + 1) s

/-- A uniform draw below `n`. A draw that never ends is given the value 0 and
takes no words. -/
def draw (w : Width) (n : Nat) (s : σ) (pos : 0 < n := by decide) : Fin n × σ :=
  (draw? w n s pos).getD (⟨0, pos⟩, s)

end Uniform
end StressBench
