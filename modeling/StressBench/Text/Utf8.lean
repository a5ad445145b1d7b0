/-
# UTF-8, strictly and leniently

The decoder is a machine that reads one byte at a time. Between characters it
stands at `start`; inside a character it knows how many bytes are owed, which
values the next one may have and the code read so far. What it reads is a list
of pieces: a character, or a break, which is a longest run of bytes that begins
a character and cannot go on. The strict reading exists when there is no break;
the lenient one puts U+FFFD for each.

Key definitions: `Utf8.encode`, `Utf8.pieces`, `Utf8.decode?`, `Utf8.decodeLossy`.
Key theorem: `Utf8.pieces_append_of_rest`.
-/
import StressBench.Text.Basic

namespace StressBench
namespace Utf8

/-- The bytes of a text. -/
def encode (s : Text) : Bytes :=
  s.flatMap String.utf8EncodeChar

/-- Where the machine stands: between characters, or `owed` more bytes from the
end of one, the next between `low` and `high`, with `code` read so far. -/
inductive State
  | start
  | inside (owed : Nat) (low high : UInt8) (code : Nat)
  deriving DecidableEq, Repr

/-- A character, or a break in the encoding. -/
abbrev Piece := Option Char

/-! ### One byte at a time -/

/-- The byte as the first of a character. `C0`, `C1` and all above `F4` begin
none; after `E0`, `ED`, `F0` and `F4` the second byte is narrowed, which keeps
out overlong forms, surrogates and codes above `10FFFF`. -/
def lead (b : UInt8) : List Piece × State :=
  if b < 0x80 then ([some (Char.ofNat b.toNat)], .start)
  else if b < 0xC2 then ([none], .start)
  else if b < 0xE0 then ([], .inside 1 0x80 0xBF (b.toNat - 0xC0))
  else if b < 0xF0 then
    ([], .inside 2 (if b = 0xE0 then 0xA0 else 0x80) (if b = 0xED then 0x9F else 0xBF)
      (b.toNat - 0xE0))
  else if b < 0xF5 then
    ([], .inside 3 (if b = 0xF0 then 0x90 else 0x80) (if b = 0xF4 then 0x8F else 0xBF)
      (b.toNat - 0xF0))
  else ([none], .start)

/-- What one byte brings, and where it leaves the machine. A byte that cannot
go on with a character breaks it off and is read as a first byte. -/
def step : State → UInt8 → List Piece × State
  | .start, b => lead b
  | .inside owed low high code, b =>
    if low ≤ b ∧ b ≤ high then
      let code := code * 64 + (b.toNat - 0x80)
      if owed ≤ 1 then ([some (Char.ofNat code)], .start)
      else ([], .inside (owed - 1) 0x80 0xBF code)
    else
      let (pieces, state) := lead b
      (none :: pieces, state)

/-- The end of the bytes breaks off a character that is still owed some. -/
def finish : State → List Piece
  | .start => []
  | .inside .. => [none]

/-- The pieces read so far, latest first, and where the machine stands. -/
def feed (st : List Piece × State) (b : UInt8) : List Piece × State :=
  let (pieces, state) := step st.2 b
  (pieces.reverse ++ st.1, state)

/-- The machine after the bytes. -/
def scan (st : List Piece × State) (bs : Bytes) : List Piece × State :=
  bs.foldl feed st

/-- The characters and breaks of a byte string, in order. -/
def pieces (bs : Bytes) : List Piece :=
  let (read, state) := scan ([], .start) bs
  (finish state ++ read).reverse

/-- The text of a well-formed byte string. -/
def decode? (bs : Bytes) : Option Text :=
  (pieces bs).mapM id

/-- The text of any byte string, with U+FFFD for each break. -/
def decodeLossy (bs : Bytes) : Text :=
  (pieces bs).map fun p => p.getD '\uFFFD'

/-- The text at the beginning of a byte string up to the first break, and the
bytes from there on. -/
def splitAtBreak (bs : Bytes) : Text × Bytes :=
  let text := ((pieces bs).takeWhile Option.isSome).filterMap id
  (text, bs.drop (encode text).length)

/-! ### Reading in two parts -/

theorem feed_acc (acc : List Piece) (state : State) (b : UInt8) :
    feed (acc, state) b = ((feed ([], state) b).1 ++ acc, (feed ([], state) b).2) := by
  simp [feed]

theorem scan_acc (acc : List Piece) (state : State) (bs : Bytes) :
    scan (acc, state) bs = ((scan ([], state) bs).1 ++ acc, (scan ([], state) bs).2) := by
  induction bs generalizing acc state with
  | nil => simp [scan]
  | cons b bs ih =>
    simp only [scan, List.foldl_cons] at ih ⊢
    rw [feed_acc, ih, ih (feed ([], state) b).1]
    simp

/-- Bytes after which the machine stands between characters are read on their own. -/
theorem pieces_append_of_rest {a : Bytes} (h : (scan ([], .start) a).2 = .start) (c : Bytes) :
    pieces (a ++ c) = pieces a ++ pieces c := by
  simp only [pieces, scan, List.foldl_append]
  rw [show List.foldl feed ([], State.start) a = scan ([], .start) a from rfl,
    show List.foldl feed (scan ([], .start) a) c = scan (scan ([], .start) a) c from rfl,
    show List.foldl feed ([], State.start) c = scan ([], .start) c from rfl]
  rw [show scan ([], State.start) a = ((scan ([], .start) a).1, State.start) from Prod.ext rfl h,
    scan_acc]
  simp [finish]

end Utf8
end StressBench
