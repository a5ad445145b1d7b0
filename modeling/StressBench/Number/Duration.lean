/-
# Spans of time

A span of time is a whole number of nanoseconds. A number of seconds becomes the
nearest span, a half nanosecond going to the even neighbour; spans of 2^64
seconds or more do not exist. A span is shown as its seconds in 64-bit binary
floating point.

Key definitions: `Duration`, `Duration.ofSeconds?`, `Duration.inSeconds`.
-/
import StressBench.Number.Binary64

namespace StressBench

/-- A span of time in nanoseconds. -/
structure Duration where
  total : Nat
  deriving DecidableEq, Repr

namespace Duration

/-- The nanoseconds of a second. -/
def perSecond : Nat := 1000000000

/-- The whole seconds of a span. -/
def seconds (d : Duration) : Nat :=
  d.total / perSecond

/-- The nanoseconds of a span beyond its whole seconds. -/
def nanoseconds (d : Duration) : Nat :=
  d.total % perSecond

/-- The span of some seconds and nanoseconds. -/
def ofParts (seconds nanoseconds : Nat) : Duration :=
  ⟨seconds * perSecond + nanoseconds⟩

/-- The span nearest to a number of seconds that is not negative. -/
def ofSeconds? (q : Rat) : Option Duration :=
  let total := roundHalfEven (q * (perSecond : Rat))
  if total < UInt64.size * perSecond then some ⟨total⟩ else none

/-- The span in seconds: the floating-point sum of its whole seconds and of the
quotient of its nanoseconds, each rounded. -/
def inSeconds (d : Duration) : Rat :=
  Binary64.nearest
    (Binary64.nearest (d.seconds : Rat) +
      Binary64.nearest ((d.nanoseconds : Rat) / (perSecond : Rat)))

/-- The text of a span in seconds. -/
def render (d : Duration) : Text :=
  Binary64.render d.inSeconds

end Duration
end StressBench
