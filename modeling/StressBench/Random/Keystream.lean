/-
# The keystream of a seed

A seed of 64 bits is spread over eight key words by a linear congruential
generator with a permuted output. The keystream is the ChaCha cipher's with
twelve rounds, a 64-bit block counter from 0 and no nonce: block after block,
the sixteen words of each in order. `Keystream.word` is the stream as a function
of the position, and a `Keystream` is a place in it.

Key definitions: `ChaCha.block`, `Keystream.ofSeed`, `Keystream.word`, `Keystream.next`.
-/
import StressBench.Text.Basic

namespace StressBench

/-! ### Seed expansion -/

namespace Seed

/-- One step of the congruential generator. -/
def advance (state : UInt64) : UInt64 :=
  state * 6364136223846793005 + 11634580027462260723

/-- The bits of a word turned right by `n` places. -/
def rotateRight (w : UInt32) (n : UInt32) : UInt32 :=
  (w >>> n) ||| (w <<< (32 - n))

/-- The output word of a state: its high bits folded down, turned by the five
highest. -/
def output (state : UInt64) : UInt32 :=
  rotateRight (((state >>> 18) ^^^ state) >>> 27).toUInt32 (state >>> 59).toUInt32

/-- The states after the given one, `n` of them. -/
def states (state : UInt64) : Nat → List UInt64
  | 0 => []
  | n + 1 => advance state :: states (advance state) n

theorem length_states (state : UInt64) (n : Nat) : (states state n).length = n := by
  induction n generalizing state with
  | zero => rfl
  | succ n ih => simp [states, ih]

/-- The key words of a seed. -/
def key (seed : UInt64) : Vector UInt32 8 :=
  ⟨((states seed 8).map output).toArray, by simp [length_states]⟩

end Seed

/-! ### The block function -/

namespace ChaCha

/-- The sixteen words that a block is mixed from and consists of. -/
abbrev Block := Vector UInt32 16

/-- The bits of a word turned left by `n` places. -/
def rotateLeft (w : UInt32) (n : UInt32) : UInt32 :=
  (w <<< n) ||| (w >>> (32 - n))

/-- Mixes four words of a block. -/
def quarterRound (a b c d : Fin 16) (s : Block) : Block :=
  let s := s.set a (s[a] + s[b])
  let s := s.set d (rotateLeft (s[d] ^^^ s[a]) 16)
  let s := s.set c (s[c] + s[d])
  let s := s.set b (rotateLeft (s[b] ^^^ s[c]) 12)
  let s := s.set a (s[a] + s[b])
  let s := s.set d (rotateLeft (s[d] ^^^ s[a]) 8)
  let s := s.set c (s[c] + s[d])
  s.set b (rotateLeft (s[b] ^^^ s[c]) 7)

/-- Mixes the columns, then the diagonals. -/
def doubleRound (s : Block) : Block :=
  let s := quarterRound 0 4 8 12 s
  let s := quarterRound 1 5 9 13 s
  let s := quarterRound 2 6 10 14 s
  let s := quarterRound 3 7 11 15 s
  let s := quarterRound 0 5 10 15 s
  let s := quarterRound 1 6 11 12 s
  let s := quarterRound 2 7 8 13 s
  quarterRound 3 4 9 14 s

/-- The words that block number `counter` is mixed from. -/
def initial (key : Vector UInt32 8) (counter : UInt64) : Block :=
  #v[0x61707865, 0x3320646e, 0x79622d32, 0x6b206574,
    key[0], key[1], key[2], key[3], key[4], key[5], key[6], key[7],
    counter.toUInt32, (counter >>> 32).toUInt32, 0, 0]

/-- Block number `counter`: six double rounds, then the unmixed words added. -/
def block (key : Vector UInt32 8) (counter : UInt64) : Block :=
  let start := initial key counter
  Vector.zipWith (· + ·) (Nat.repeat doubleRound 6 start) start

end ChaCha

/-! ### The stream and a place in it -/

/-- A place in the keystream of a key: the words of the current block that have
not been served, and the number of the block after it. -/
structure Keystream where
  key : Vector UInt32 8
  unread : List UInt32
  following : UInt64
  deriving DecidableEq, Repr

namespace Keystream

/-- The beginning of the keystream of a seed. -/
def ofSeed (seed : UInt64) : Keystream :=
  ⟨Seed.key seed, [], 0⟩

/-- The words of the stream by position: the words of block 0, of block 1, and
so on. -/
def word (key : Vector UInt32 8) (i : Nat) : UInt32 :=
  (ChaCha.block key (UInt64.ofNat (i / 16)))[i % 16]

/-- Serves the next word. -/
def next (k : Keystream) : UInt32 × Keystream :=
  match k.unread with
  | w :: rest => (w, { k with unread := rest })
  | [] =>
    let b := ChaCha.block k.key k.following
    (b[0], { k with unread := b.toList.tail, following := k.following + 1 })

end Keystream
end StressBench
