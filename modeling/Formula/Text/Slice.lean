set_option autoImplicit false

/-!
# Spans of a text by position

A span is cut by two positions, which may be negative and then count from the end, and
may lie outside the text, where they are moved to the nearer end.  A span whose stop is
not beyond its start is empty.
-/

namespace Formula.Text

/-- The position that `i` means in a text of the given length. -/
def clampIndex (length : Nat) (i : Int) : Nat :=
  if i < 0 then (i + length).toNat else min i.toNat length

/-- The part of the text before position `stop`. -/
def takeTo (s : List Char) (stop : Int) : List Char := s.take (clampIndex s.length stop)

/-- The part of the text from position `start` on. -/
def dropTo (s : List Char) (start : Int) : List Char := s.drop (clampIndex s.length start)

/-- The part of the text between two positions. -/
def cut (s : List Char) (start stop : Int) : List Char :=
  (s.take (clampIndex s.length stop)).drop (clampIndex s.length start)

/-- `n` copies of a character; none for a negative count. -/
def copies (c : Char) (n : Int) : List Char := List.replicate n.toNat c

end Formula.Text
