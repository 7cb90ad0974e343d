/-!
# Spans of time

A span is a signed number of nanoseconds. Spans reach as far as `2 ^ 63 - 1` milliseconds in either
direction.
-/

namespace Switchyard

/-- A signed length of time. -/
structure Span where
  nanoseconds : Int
deriving DecidableEq, Inhabited, Repr

namespace Span

/-- The largest number of milliseconds in a span. -/
def maxMilliseconds : Int := Int.pow 2 63 - 1

/-- The span of a number of milliseconds. -/
def ofMilliseconds (n : Int) : Span := ⟨n * 1000000⟩

/-- The span of a number of milliseconds, if it is in range. -/
def ofMilliseconds? (n : Int) : Option Span :=
  if n.natAbs ≤ maxMilliseconds.natAbs then some (ofMilliseconds n) else none

/-- Whole milliseconds, a fraction being dropped. -/
def milliseconds (s : Span) : Int := s.nanoseconds.tdiv 1000000

/-- Whole seconds, a fraction being dropped. -/
def seconds (s : Span) : Int := s.nanoseconds.tdiv 1000000000

/-- The nanoseconds beyond the whole seconds, with the sign of the span. -/
def subsecond (s : Span) : Int := s.nanoseconds.tmod 1000000000

/-- The span turned round. -/
def neg (s : Span) : Span := ⟨-s.nanoseconds⟩

/-- Spans are ordered by their nanoseconds. -/
def compare (a b : Span) : Ordering := Ord.compare a.nanoseconds b.nanoseconds

/-- The text of a span is its number of milliseconds. -/
def render (s : Span) : String := toString s.milliseconds ++ "ms"

end Span

end Switchyard
