/-!
# Byte lengths

Positions in filter text and limits on identifiers count UTF-8 bytes. Text is handled as a list of
characters, so the byte length of a piece of text is the sum of the lengths of its characters.

* `byteLength_append`: the length of joined text is the sum of the lengths.
* `utf8ByteSize_ofList`: the length is the one of the text as a string.
* `byteLength_take_add_drop`: cutting a text in two loses no byte.
-/

namespace Switchyard.Text

/-- The number of bytes that the UTF-8 form of a text takes. -/
def byteLength (cs : List Char) : Nat :=
  cs.foldr (fun c n => c.utf8Size + n) 0

@[simp] theorem byteLength_nil : byteLength [] = 0 := rfl

@[simp] theorem byteLength_cons (c : Char) (cs : List Char) :
    byteLength (c :: cs) = c.utf8Size + byteLength cs := rfl

@[simp] theorem byteLength_append (xs ys : List Char) :
    byteLength (xs ++ ys) = byteLength xs + byteLength ys := by
  induction xs with
  | nil => simp
  | cons c xs ih => simp [ih, Nat.add_assoc]

theorem utf8ByteSize_ofList (cs : List Char) :
    (String.ofList cs).utf8ByteSize = byteLength cs := by
  induction cs with
  | nil => simp
  | cons c cs ih =>
    rw [← List.singleton_append, String.ofList_append, String.utf8ByteSize_append, ih,
      byteLength_append, byteLength_cons, byteLength_nil, Nat.add_zero,
      ← String.singleton_eq_ofList, String.utf8ByteSize_singleton]

theorem byteLength_take_add_drop (n : Nat) (cs : List Char) :
    byteLength (cs.take n) + byteLength (cs.drop n) = byteLength cs := by
  rw [← byteLength_append, List.take_append_drop]

/-- The byte order of UTF-8 texts is the order of their code points, which is the order of
`String`. -/
def order (a b : String) : Ordering :=
  compareOfLessAndEq a b

end Switchyard.Text
