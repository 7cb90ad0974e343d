import Switchyard.Decimal.Numeral

/-!
# Socket addresses

`isSocketAddress` says which texts are socket addresses: an IPv4 address, or an IPv6 address in
brackets with a possible scope, and behind it a colon and a number of 16 bits. Each piece is read by
a function that gives the rest of the text behind it.
-/

namespace Switchyard.Config

/-- The rest of a text behind a piece of an address, or nothing if the piece is not there. -/
abbrev Piece := List Char → Option (List Char)

/-- One given character. -/
def mark (c : Char) : Piece
  | d :: cs => if d = c then some cs else none
  | [] => none

/-- A decimal number that is at most `most`; zeros may come first. -/
def numberUpTo (most : Nat) : Piece := fun cs =>
  let digits := cs.takeWhile Char.isDigit
  if digits.isEmpty ∨ most < Numeral.ofDigits digits then none else some (cs.dropWhile Char.isDigit)

/-- A number below 256 of at most three digits; one of several digits does not start with zero. -/
def octet : Piece := fun cs =>
  let digits := cs.takeWhile Char.isDigit
  if 3 < digits.length ∨ (digits.head? = some '0' ∧ 1 < digits.length) then none
  else numberUpTo 255 cs

/-- An IPv4 address. -/
def ipv4 : Piece := fun cs => do
  octet (← mark '.' (← octet (← mark '.' (← octet (← mark '.' (← octet cs))))))

/-- Whether a character is a hexadecimal digit of either case. -/
def isHexDigit (c : Char) : Bool :=
  c.isDigit || ('a' ≤ c && c ≤ 'f') || ('A' ≤ c && c ≤ 'F')

/-- A group of one to four hexadecimal digits. -/
def hexGroup : Piece := fun cs =>
  let n := (cs.takeWhile isHexDigit).length
  if n = 0 ∨ 4 < n then none else some (cs.drop n)

/-- What a run of groups of an IPv6 address amounts to. -/
structure Groups where
  size : Nat
  /-- Whether an IPv4 address stands for the last two. -/
  endsInIpv4 : Bool
  rest : List Char

/-- As many groups as can be read, but no more than `room`. All but the first have a colon before
them, and an IPv4 address may stand for two. -/
def groups (isFirst : Bool) : Nat → List Char → Groups
  | 0, cs => ⟨0, false, cs⟩
  | room + 1, cs =>
    let start := if isFirst then some cs else mark ':' cs
    match (if 0 < room then start.bind ipv4 else none), start.bind hexGroup with
    | some rest, _ => ⟨2, true, rest⟩
    | none, some rest =>
      let more := groups false room rest
      { more with size := more.size + 1 }
    | none, none => ⟨0, false, cs⟩

/-- An IPv6 address: eight groups, or fewer with two colons that stand for the ones left out. -/
def ipv6 : Piece := fun cs =>
  let head := groups true 8 cs
  if head.size = 8 then some head.rest
  else if head.endsInIpv4 then none
  else do
    let rest ← mark ':' (← mark ':' head.rest)
    some (groups true (7 - head.size) rest).rest

/-- The scope of an IPv6 address, which may be missing. -/
def scope : Piece := fun cs => some (((mark '%' cs).bind (numberUpTo (Nat.pow 2 32 - 1))).getD cs)

/-- A colon and a number of 16 bits. -/
def service : Piece := fun cs => (mark ':' cs).bind (numberUpTo 65535)

/-- An IPv6 address in brackets, with a possible scope. -/
def bracketed : Piece := fun cs => do mark ']' (← scope (← ipv6 (← mark '[' cs)))

/-- Whether a text is a socket address. -/
def isSocketAddress (text : String) : Bool :=
  ((ipv4 text.toList).or (bracketed text.toList)).bind service == some []

end Switchyard.Config
