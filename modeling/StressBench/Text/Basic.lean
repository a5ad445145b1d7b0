/-
# Text, bytes and blanks

A text is the list of its characters and a byte string the list of its bytes,
so that every reader of this library is a recursion on a list. A blank is a
character of the Unicode property `White_Space`; the tokens of a text are its
maximal runs without blanks, and trimming takes the blanks off both ends. Texts are
ordered by their first characters that differ.

Key definitions: `Text`, `Bytes`, `Text.isBlank`, `Text.tokens`, `Text.trim`,
`Text.order`.
-/
namespace StressBench

/-- A text is the list of its characters. -/
abbrev Text := List Char

/-- A byte string is the list of its bytes. -/
abbrev Bytes := List UInt8

namespace Text

/-- The characters of the Unicode property `White_Space`. -/
def isBlank (c : Char) : Bool :=
  let n := c.toNat
  (0x09 ≤ n && n ≤ 0x0D) || n == 0x20 || n == 0x85 || n == 0xA0 || n == 0x1680 ||
    (0x2000 ≤ n && n ≤ 0x200A) || n == 0x2028 || n == 0x2029 || n == 0x202F || n == 0x205F ||
    n == 0x3000

/-- The maximal runs of characters that are not blank, in order. -/
def tokens (s : Text) : List Text :=
  (s.splitOnP isBlank).filter fun t => !t.isEmpty

/-- The text without the blanks at its end. -/
def trimEnd (s : Text) : Text :=
  (s.reverse.dropWhile isBlank).reverse

/-- The text without the blanks at both ends. -/
def trim (s : Text) : Text :=
  trimEnd (s.dropWhile isBlank)

/-- The order of two texts: by their first characters that differ, and a text comes after those
that it begins with. -/
def order : Text → Text → Ordering
  | [], [] => .eq
  | [], _ :: _ => .lt
  | _ :: _, [] => .gt
  | a :: s, b :: t => if a == b then order s t else compare a.toNat b.toNat

theorem tokens_ne_nil {s t : Text} (h : t ∈ tokens s) : t ≠ [] := by
  intro ht
  simp [tokens, ht] at h

end Text
end StressBench
