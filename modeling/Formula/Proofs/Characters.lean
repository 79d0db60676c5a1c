import Formula.Text.Blank
import Formula.Text.Numeral
set_option autoImplicit false

/-!
# Classes of characters that have nothing in common

Letters, digits and blanks are apart.  Their tables are compared interval by interval, once for
each pair of classes.
-/

namespace Formula.Text

namespace Ranges

/-- Does no interval of one list meet an interval of the other? -/
def apart (rs qs : Ranges) : Bool :=
  rs.all fun r => qs.all fun q => r.2 < q.1 || q.2 < r.1

theorem mem_of_contains {rs : Ranges} {c : Nat} (h : rs.contains c = true) :
    ∃ r ∈ rs, r.1 ≤ c ∧ c ≤ r.2 := by
  induction rs with
  | nil => cases h
  | cons r rest ih =>
      obtain ⟨low, high⟩ := r
      rw [contains] at h
      split at h
      · cases h
      · rename_i above
        split at h
        · rename_i within
          exact ⟨(low, high), List.mem_cons_self, Nat.le_of_not_lt above, within⟩
        · obtain ⟨r, hr, bounds⟩ := ih h
          exact ⟨r, List.mem_cons_of_mem _ hr, bounds⟩

/-- A code point is in one of two lists at most, if their intervals do not meet. -/
theorem contains_false_of_apart {rs qs : Ranges} (hapart : rs.apart qs = true) {c : Nat}
    (h : rs.contains c = true) : qs.contains c = false := by
  rw [← Bool.not_eq_true]
  intro h'
  obtain ⟨r, hr, hlow, hhigh⟩ := mem_of_contains h
  obtain ⟨q, hq, hlow', hhigh'⟩ := mem_of_contains h'
  have := List.all_eq_true.1 (List.all_eq_true.1 hapart r hr) q hq
  simp only [Bool.or_eq_true, decide_eq_true_eq] at this
  omega

end Ranges

/-- The blocks of decimal digits. -/
def decimalBlocks : Ranges := decimalZeros.map fun first => (first, first + 9)

theorem contains_decimalBlocks (zeros : List Nat) (c : Nat) :
    Ranges.contains (zeros.map fun first => (first, first + 9)) c = (decimalValueIn zeros c).isSome := by
  induction zeros with
  | nil => rfl
  | cons first rest ih =>
      rw [List.map_cons, Ranges.contains, decimalValueIn]
      split
      · rfl
      · rw [ih]
        by_cases h : c < first + 10
        · rw [if_pos h, if_pos (by omega)]
          rfl
        · rw [if_neg h, if_neg (by omega)]

theorem isDigit_eq (c : Char) :
    isDigit c = (decimalBlocks.contains c.toNat || otherDigits.contains c.toNat) := by
  rw [isDigit, decimalValue?, decimalBlocks, contains_decimalBlocks]

theorem isLetter_apart {qs : Ranges} (hlow : lettersLow.apart qs = true)
    (hbasic : lettersBasic.apart qs = true) (hbeyond : lettersBeyond.apart qs = true) {c : Char}
    (h : isLetter c = true) : qs.contains c.toNat = false := by
  unfold isLetter at h
  split at h
  · exact Ranges.contains_false_of_apart hlow h
  · split at h
    · exact Ranges.contains_false_of_apart hbasic h
    · exact Ranges.contains_false_of_apart hbeyond h

/-- No letter is a digit. -/
theorem isDigit_false_of_isLetter {c : Char} (h : isLetter c = true) : isDigit c = false := by
  rw [isDigit_eq,
    isLetter_apart (by decide +kernel) (by decide +kernel) (by decide +kernel) h,
    isLetter_apart (by decide +kernel) (by decide +kernel) (by decide +kernel) h]
  rfl

/-- No letter is blank. -/
theorem isBlank_false_of_isLetter {c : Char} (h : isLetter c = true) : isBlank c = false := by
  rw [isBlank, isLetter_apart (by decide +kernel) (by decide +kernel) (by decide +kernel) h]

/-- No digit is blank. -/
theorem isBlank_false_of_isDigit {c : Char} (h : isDigit c = true) : isBlank c = false := by
  rw [isDigit_eq, Bool.or_eq_true] at h
  rw [isBlank]
  rcases h with h | h
  · exact Ranges.contains_false_of_apart (by decide +kernel) h
  · exact Ranges.contains_false_of_apart (by decide +kernel) h

end Formula.Text
