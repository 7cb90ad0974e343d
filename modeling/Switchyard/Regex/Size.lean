import Switchyard.Regex.Basic

/-!
# The size of a regular expression

How much memory the automaton of an expression takes, in bytes: 32 for a state, 8 for each
transition of a state that branches on the next byte, 4 for each alternative of a state that
branches without reading. Counted repetitions are written out, so the size bounds them. An
automaton is built for either direction of reading, and `Regex.size` is that of the larger one.
-/

namespace Switchyard.Regex

/-- A range of bytes, both ends in it. -/
abbrev ByteRange := Nat × Nat

/-- The UTF-8 form of a code point. -/
def utf8 (n : Nat) : List Nat :=
  if n < 0x80 then [n]
  else if n < 0x800 then [0xC0 + n / 64, 0x80 + n % 64]
  else if n < 0x10000 then [0xE0 + n / 4096, 0x80 + n / 64 % 64, 0x80 + n % 64]
  else [0xF0 + n / 262144, 0x80 + n / 4096 % 64, 0x80 + n / 64 % 64, 0x80 + n % 64]

/-- Where a range of code points has to be cut so that the UTF-8 forms of each part are the
combinations of one byte range for every byte: the last code point of the first part. -/
def cutBehind? (lo hi : Nat) : Option Nat :=
  match [0x7F, 0x7FF, 0xFFFF].find? fun m => lo ≤ m && m < hi with
  | some m => some m
  | none =>
    if hi ≤ 0x7F then none
    else [64, 4096, 262144].findSome? fun block =>
      if lo / block = hi / block then none
      else if lo % block ≠ 0 then some (lo / block * block + block - 1)
      else if hi % block ≠ block - 1 then some (hi / block * block - 1)
      else none

/-- The byte ranges of the UTF-8 forms of a range of code points. A range is cut a few times at
most; `fuel` bounds how often. -/
def sequences : Nat → Nat → Nat → List (List ByteRange)
  | 0, _, _ => []
  | fuel + 1, lo, hi =>
    match cutBehind? lo hi with
    | some m => sequences fuel lo m ++ sequences fuel (m + 1) hi
    | none => [List.zip (utf8 lo) (utf8 hi)]

/-- The byte ranges of the UTF-8 forms of a set. -/
def byteSequences (set : Text.Charset) : List (List ByteRange) :=
  set.ranges.flatMap fun (lo, hi) => sequences 24 lo hi

/-- What follows each first range, in a list that is sorted by first ranges. -/
def branches (seqs : List (List ByteRange)) : List (List (List ByteRange)) :=
  (seqs.splitBy fun a b => a.head? == b.head?).map fun group => group.map List.tail

/-- The distinct rests of the sequences after `depth` bytes. -/
def restsAfter (seqs : List (List ByteRange)) : Nat → List (List (List ByteRange))
  | 0 => [seqs]
  | depth + 1 => ((restsAfter seqs depth).flatMap branches).eraseDups.filter
      fun rest => rest != [[]]

/-- The size of an automaton that reads the byte sequences and shares equal rests: a state for each
and a transition for each range, and a state behind the last byte. -/
def forwardSetSize (seqs : List (List ByteRange)) : Nat :=
  let nodes := (List.range 4).flatMap (restsAfter seqs)
  32 + nodes.foldr (fun node size => 32 + 8 * (branches node).length + size) 0

/-- How many distinct nonempty first parts of at most `depth` bytes the sequences have. -/
def firstParts : Nat → List (List ByteRange) → Nat
  | 0, _ => 0
  | depth + 1, seqs =>
    (branches (seqs.filter fun s => !s.isEmpty)).foldr
      (fun rest n => 1 + firstParts depth rest + n) 0

/-- The size of an automaton that reads the byte sequences from their ends and shares equal first
parts. -/
def backwardSetSize (seqs : List (List ByteRange)) : Nat :=
  64 + 32 * firstParts 4 seqs + 4 * seqs.length

/-- The size of an automaton for one character of a set. -/
def setSize (backward : Bool) (set : Text.Charset) : Nat :=
  match set.ranges with
  | [] => 32
  | [(lo, hi)] =>
    if lo = hi then 32 * (utf8 lo).length
    else if hi < 128 then 72
    else
      let seqs := byteSequences set
      if backward then backwardSetSize seqs else forwardSetSize seqs
  | ranges =>
    if ranges.all fun r => r.2 < 128 then 64 + 8 * ranges.length
    else
      let seqs := byteSequences set
      if backward then backwardSetSize seqs else forwardSetSize seqs

mutual

/-- The size of the automaton for one direction. -/
def sizeIn (backward : Bool) : Regex → Nat
  | .empty | .look _ => 32
  | .chars set => setSize backward set
  | .capture r => r.sizeIn backward + if backward then 0 else 64
  | .repeat r least most =>
    let one := r.sizeIn backward
    match least, most with
    | 0, none => if r.isNullable then one + 112 else one + 40
    | least, none => least * one + 40
    | 0, some 1 => one + 72
    | least, some most =>
      let fixed := if least = 0 then 32 else least * one
      if most ≤ least then fixed else fixed + 32 + (most - least) * (one + 40)
  | .seq rs => sizeSum backward rs
  | .alt rs => 64 + 4 * rs.length + sizeSum backward rs

/-- The sizes of the automata of several expressions together. -/
def sizeSum (backward : Bool) : List Regex → Nat
  | [] => 0
  | r :: rs => r.sizeIn backward + sizeSum backward rs

end

/-- The size of the larger of the two automata; the forward one has four states of its own and the
backward one two. -/
def size (r : Regex) : Nat :=
  max (r.sizeIn false + 128) (r.sizeIn true + 64)

end Switchyard.Regex
