import Formula.Text.Ranges
set_option autoImplicit false

/-!
# Blank characters

The characters that separate tokens and are dropped around a name: the space separators
and the characters that end a line, a paragraph or a segment.
-/

namespace Formula.Text

/-- The blank characters, ascending. -/
def blanks : Ranges :=
  [(0x9, 0xD), (0x1C, 0x20), (0x85, 0x85), (0xA0, 0xA0), (0x1680, 0x1680), (0x2000, 0x200A),
    (0x2028, 0x2029), (0x202F, 0x202F), (0x205F, 0x205F), (0x3000, 0x3000)]

theorem blanks_ascend : blanks.ascendsFrom 0 = true := by decide +kernel

/-- Is `c` blank? -/
def isBlank (c : Char) : Bool := blanks.contains c.toNat

theorem isBlank_of_isWhitespace {c : Char} (h : c.isWhitespace = true) : isBlank c = true := by
  simp only [Char.isWhitespace, Bool.or_eq_true, decide_eq_true_eq] at h
  rcases h with ((rfl | rfl) | rfl) | rfl <;> decide +kernel

/-- Drops the blank characters at both ends. -/
def trimBlank (s : List Char) : List Char :=
  ((s.dropWhile isBlank).reverse.dropWhile isBlank).reverse

end Formula.Text
