set_option autoImplicit false

/-!
# Character classes as interval lists

A class of characters is an ascending list of disjoint intervals of code points, both
ends included.  Membership walks the list and stops at the first interval that begins
beyond the character.
-/

namespace Formula.Text

/-- Ascending, disjoint intervals of code points; both ends belong to the class. -/
abbrev Ranges := List (Nat × Nat)

namespace Ranges

/-- Does one of the intervals hold the code point? -/
def contains : Ranges → Nat → Bool
  | [], _ => false
  | (low, high) :: rest, c =>
      if c < low then false
      else if c ≤ high then true
      else contains rest c

/-- The intervals ascend strictly and none begins below `start`. -/
def ascendsFrom (start : Nat) : Ranges → Bool
  | [] => true
  | (low, high) :: rest => start ≤ low && low ≤ high && ascendsFrom (high + 1) rest

/-- Every interval of an ascending list begins at `start` or later. -/
theorem begins_above {rs : Ranges} {start : Nat} (h : ascendsFrom start rs = true)
    {r : Nat × Nat} (hr : r ∈ rs) : start ≤ r.1 := by
  induction rs generalizing start with
  | nil => cases hr
  | cons q rest ih =>
      obtain ⟨low, high⟩ := q
      simp only [ascendsFrom, Bool.and_eq_true, decide_eq_true_eq] at h
      rcases List.mem_cons.1 hr with rfl | hr
      · exact h.1.1
      · have := ih h.2 hr
        omega

/-- The walk misses no interval: on an ascending list the early stop is sound. -/
theorem contains_iff {rs : Ranges} {start : Nat} (h : ascendsFrom start rs = true) (c : Nat) :
    rs.contains c = true ↔ ∃ r ∈ rs, r.1 ≤ c ∧ c ≤ r.2 := by
  induction rs generalizing start with
  | nil => simp [contains]
  | cons r rest ih =>
      obtain ⟨low, high⟩ := r
      simp only [ascendsFrom, Bool.and_eq_true, decide_eq_true_eq] at h
      have tail := ih h.2
      rw [contains]
      split
      case isTrue below =>
        have outside : ∀ r ∈ rest, high < r.1 := fun r hr => begins_above h.2 hr
        simp only [Bool.false_eq_true, List.mem_cons, exists_eq_or_imp, false_iff, not_or]
        refine ⟨by omega, ?_⟩
        rintro ⟨r, hr, hlow, _⟩
        have := outside r hr
        omega
      case isFalse above =>
        split
        case isTrue within =>
          simp only [true_iff]
          exact ⟨(low, high), List.mem_cons_self, by omega, within⟩
        case isFalse beyond =>
          rw [tail]
          simp only [List.mem_cons, exists_eq_or_imp]
          constructor
          · exact Or.inr
          · rintro (⟨_, hhigh⟩ | found)
            · exact absurd hhigh beyond
            · exact found

end Ranges

end Formula.Text
