import Switchyard.Time.Calendar
import Switchyard.Time.Span

/-!
# Instants

An instant is a number of seconds since the start of 1970 in UTC and the nanoseconds beyond, of
which there are fewer than two seconds. A leap second belongs to the second before it: its
nanoseconds are `10 ^ 9` or more. Instants are ordered by seconds first and nanoseconds second.
-/

namespace Switchyard

/-- A point in time. -/
structure Instant where
  seconds : Int
  /-- The nanoseconds beyond the seconds, with those of a leap second. -/
  nanos : Fin 2000000000
deriving DecidableEq, Inhabited, Repr

/-- So numerals may be written for nanoseconds. -/
instance Instant.neZeroNanos : @NeZero Nat Zero.ofOfNat0 2000000000 :=
  ⟨Nat.succ_ne_zero 1999999999⟩

namespace Instant

/-- One second in nanoseconds. -/
def second : Nat := 1000000000

/-- The day number of the instant. -/
def day (t : Instant) : Int := t.seconds.fdiv 86400

/-- The second of its day. -/
def secondOfDay (t : Instant) : Int := t.seconds.fmod 86400

/-- Whether the instant lies in a leap second. -/
def isLeapSecond (t : Instant) : Bool := decide (second ≤ t.nanos)

/-- The earlier instant comes first. -/
def compare (a b : Instant) : Ordering :=
  (Ord.compare a.seconds b.seconds).then (Ord.compare a.nanos b.nanos)

/-- Whether `a` is at or before `b`. -/
def atOrBefore (a b : Instant) : Bool := compare a b != .gt

/-- The seconds that the calendar covers. -/
def inRange (seconds : Int) : Bool :=
  decide (Calendar.firstDay * 86400 ≤ seconds ∧ seconds < (Calendar.lastDay + 1) * 86400)

/-- The instant a number of milliseconds after the start of 1970. -/
def ofMilliseconds? (n : Int) : Option Instant :=
  let s := n.fdiv 1000
  have hnanos : (n.fmod 1000).toNat * 1000000 < 2000000000 := by
    have := Int.fmod_lt_of_pos n (by decide : (0 : Int) < 1000)
    omega
  if inRange s then some ⟨s, ⟨_, hnanos⟩⟩ else none

/-- The span from `b` to `a`. A leap second counts as passed only once its second of the day is
over. -/
def since (a b : Instant) : Span :=
  let adjust : Int :=
    if b.secondOfDay < a.secondOfDay then (if b.isLeapSecond then 1 else 0)
    else if a.secondOfDay < b.secondOfDay then (if a.isLeapSecond then -1 else 0)
    else 0
  ⟨(a.seconds - b.seconds + adjust) * second + a.nanos - b.nanos⟩

/-- The instant a number of seconds later, if the calendar reaches it. Moving off a leap second
drops the extra second. -/
def addSeconds? (t : Instant) (n : Nat) : Option Instant :=
  let nanos := if t.isLeapSecond ∧ 0 < n then ⟨t.nanos - second, by omega⟩ else t.nanos
  let s := t.seconds + n
  if inRange s then some ⟨s, nanos⟩ else none

end Instant

end Switchyard
