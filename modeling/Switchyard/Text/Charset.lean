/-!
# Sets of characters

A set of code points as a list of ranges with both ends in it, in increasing order, no two of them
touching. `ofRanges` brings any list of ranges into that form; the other operations keep it.
`ofTable` reads a set from a table written as text: ranges in hexadecimal, `lo-hi` or a single
code point, with blanks between them.
-/

namespace Switchyard.Text

/-- A set of code points. -/
structure Charset where
  ranges : List (Nat × Nat)
deriving DecidableEq, Inhabited, Repr

namespace Charset

/-- The set without characters. -/
def empty : Charset := ⟨[]⟩

/-- Every Unicode scalar value. -/
def full : Charset := ⟨[(0, 0xD7FF), (0xE000, 0x10FFFF)]⟩

/-- Whether a code point is in the set. -/
def has (s : Charset) (n : Nat) : Bool :=
  s.ranges.any fun r => r.1 ≤ n && n ≤ r.2

/-- Whether a character is in the set. -/
def contains (s : Charset) (c : Char) : Bool := s.has c.toNat

/-- Joins ranges that touch; the ranges must be sorted by their lower ends. -/
def joinSorted : List (Nat × Nat) → List (Nat × Nat)
  | [] => []
  | [r] => [r]
  | (a, b) :: (c, d) :: rest =>
    if c ≤ b + 1 then joinSorted ((a, max b d) :: rest)
    else (a, b) :: joinSorted ((c, d) :: rest)
termination_by rs => rs.length

/-- The set of the code points in any of the ranges. -/
def ofRanges (rs : List (Nat × Nat)) : Charset :=
  ⟨joinSorted (rs.mergeSort fun a b => a.1 ≤ b.1)⟩

/-- The set of one character. -/
def ofChar (c : Char) : Charset := ⟨[(c.toNat, c.toNat)]⟩

/-- The set of some code points. -/
def ofCodes (ns : List Nat) : Charset := ofRanges (ns.map fun n => (n, n))

/-- What is in one of two sets or in both. -/
def union (a b : Charset) : Charset := ofRanges (a.ranges ++ b.ranges)

/-- The common part of two lists of ranges in increasing order. -/
def interRanges : List (Nat × Nat) → List (Nat × Nat) → List (Nat × Nat)
  | [], _ => []
  | _, [] => []
  | (a, b) :: xs, (c, d) :: ys =>
    let lo := max a c
    let hi := min b d
    let rest := if b ≤ d then interRanges xs ((c, d) :: ys) else interRanges ((a, b) :: xs) ys
    if lo ≤ hi then (lo, hi) :: rest else rest
termination_by xs ys => xs.length + ys.length

/-- What is in both of two sets. -/
def inter (a b : Charset) : Charset := ⟨interRanges a.ranges b.ranges⟩

/-- The gaps between ranges in increasing order, from `start` up to the last code point. -/
def gaps (start : Nat) : List (Nat × Nat) → List (Nat × Nat)
  | [] => if start ≤ 0x10FFFF then [(start, 0x10FFFF)] else []
  | (a, b) :: rest => if start < a then (start, a - 1) :: gaps (b + 1) rest else gaps (b + 1) rest

/-- The scalar values that are not in the set. -/
def complement (s : Charset) : Charset := inter full ⟨gaps 0 s.ranges⟩

/-- What is in the first of two sets and not in the second. -/
def diff (a b : Charset) : Charset := inter a ⟨gaps 0 b.ranges⟩

/-- What is in exactly one of the two sets. -/
def symmDiff (a b : Charset) : Charset := union (diff a b) (diff b a)

/-! ## Tables -/

/-- The number that a run of hexadecimal digits denotes. -/
def hexNat (cs : List Char) : Nat :=
  cs.foldl (fun n c => 16 * n + (if c.isDigit then c.toNat - '0'.toNat else
    c.toUpper.toNat - 'A'.toNat + 10)) 0

/-- The words of a text, cut at blanks. -/
def words (s : String) : List (List Char) :=
  (s.toList.splitBy fun a b => (a == ' ') == (b == ' ')).filter fun w => w.head? != some ' '

/-- A range as it stands in a table. -/
def rangeOfWord (w : List Char) : Nat × Nat :=
  let lo := w.takeWhile (· ≠ '-')
  match w.dropWhile (· ≠ '-') with
  | _ :: hi => (hexNat lo, hexNat hi)
  | [] => (hexNat lo, hexNat lo)

/-- The set in a table. -/
def ofTable (table : String) : Charset := ⟨(words table).map rangeOfWord⟩

end Charset

end Switchyard.Text
