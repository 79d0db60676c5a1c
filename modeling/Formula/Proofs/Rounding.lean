import Formula.Proofs.Arithmetic
import Formula.Proofs.Rationals
import Mathlib.Tactic.NormNum
set_option autoImplicit false

/-!
# Rounding to integers without an error

The integer part and the fraction of a double are doubles, and so is every integer next to it: from
`2 ^ 52` on all doubles are integers, and below there is a bit to spare.  So nothing is lost on the
way from a number to the nearest integer, `Arithmetic.roundHalfAway_exact`, although the steps on it
are operations on doubles.
-/

namespace Formula

namespace Double

/-! ## Integer part and fraction -/

theorem splitInteger_snd_lt (m : Nat) (e : Int) : (splitInteger m e).2 < twoTo (-e).toNat := by
  rw [splitInteger]
  split
  · exact twoTo_pos _
  · exact Nat.mod_lt _ (twoTo_pos _)

theorem cast_splitInteger (m : Nat) (e : Int) :
    (m : ℚ) * 2 ^ e = (splitInteger m e).1 + (splitInteger m e).2 / twoTo (-e).toNat := by
  have hscale := cast_twoTo_pos (-e).toNat
  rw [← twoTo_div_twoTo, splitInteger]
  split
  · next he =>
    rw [show (-e).toNat = 0 by omega, twoTo_zero, Nat.cast_zero, Nat.cast_one, zero_div, add_zero,
      div_one, Nat.cast_mul]
  · next he =>
    have hsplit : twoTo (-e).toNat * (m / twoTo (-e).toNat) + m % twoTo (-e).toNat = m :=
      Nat.div_add_mod m _
    rw [show e.toNat = 0 by omega, twoTo_zero, Nat.cast_one, mul_one_div, eq_comm,
      ← mul_div_cancel_left₀ ((m / twoTo (-e).toNat : Nat) : ℚ) hscale.ne', ← add_div]
    congr 1
    exact_mod_cast hsplit

/-- The fraction is not negative and less than one. -/
theorem fraction_bounds (m : Nat) (e : Int) :
    (0 : ℚ) ≤ (splitInteger m e).2 / twoTo (-e).toNat ∧
      ((splitInteger m e).2 : ℚ) / twoTo (-e).toNat < 1 := by
  have hscale := cast_twoTo_pos (-e).toNat
  refine ⟨by positivity, (div_lt_one hscale).2 ?_⟩
  exact Nat.cast_lt.2 (splitInteger_snd_lt m e)

theorem floor_dyadic (m : Nat) (e : Int) : ⌊(m : ℚ) * 2 ^ e⌋ = (splitInteger m e).1 := by
  obtain ⟨hlow, hhigh⟩ := fraction_bounds m e
  rw [Int.floor_eq_iff, cast_splitInteger, Int.cast_natCast]
  constructor <;> linarith

theorem fract_dyadic (m : Nat) (e : Int) :
    Int.fract ((m : ℚ) * 2 ^ e) = (splitInteger m e).2 / twoTo (-e).toNat := by
  rw [Int.fract, floor_dyadic, cast_splitInteger, Int.cast_natCast, add_sub_cancel_left]

/-! ## Integers next to a double -/

theorem abs_value (x : Double) : |x.value| = x.magnitude := by
  rw [value]
  split
  · rw [abs_neg, abs_of_nonneg x.magnitude_nonneg]
  · rw [abs_of_nonneg x.magnitude_nonneg]

/-- A double with a negative exponent has a bit to spare below `2 ^ 53`. -/
theorem magnitude_lt_of_neg (negative : Bool) {m : Nat} {e : Int} (canonical : Canonical m e)
    (he : e < 0) : (finite negative m e canonical).magnitude < 0x10000000000000 := by
  have hm : (m : ℚ) < 0x20000000000000 := by exact_mod_cast canonical.lt_bound
  have hunit : (0 : ℚ) < 2 ^ e := by positivity
  have hhalf : (2 : ℚ) ^ e ≤ 2 ^ (-1 : Int) := zpow_le_zpow_right₀ one_le_two (by omega)
  calc (m : ℚ) * 2 ^ e < 0x20000000000000 * 2 ^ e := mul_lt_mul_of_pos_right hm hunit
    _ ≤ 0x20000000000000 * 2 ^ (-1 : Int) := mul_le_mul_of_nonneg_left hhalf (by norm_num)
    _ = 0x10000000000000 := by norm_num

/-- A double whose exponent is not negative is an integer. -/
theorem value_integral (negative : Bool) {m : Nat} {e : Int} (canonical : Canonical m e)
    (he : 0 ≤ e) :
    (finite negative m e canonical).value = (signed negative m * twoTo e.toNat : Int) := by
  obtain ⟨k, rfl⟩ := Int.eq_ofNat_of_zero_le he
  rw [value_finite, Int.cast_mul, Int.cast_natCast, cast_twoTo, Int.toNat_natCast, zpow_natCast]

/-- The integers next to a double are doubles. -/
theorem representable_of_adjacent {x : Double} (hx : x.isFinite = true) {i : Int}
    (h : |(i : ℚ) - x.value| < 1) : Representable |(i : ℚ)| := by
  cases x with
  | finite negative m e canonical =>
      by_cases he : 0 ≤ e
      · have hvalue := value_integral negative canonical he
        have hi : i = signed negative m * twoTo e.toNat := by
          rw [hvalue, ← Int.cast_sub, ← Int.cast_abs] at h
          have hzero : |i - signed negative m * twoTo e.toNat| < 1 := by exact_mod_cast h
          exact Int.sub_eq_zero.1 (Int.abs_lt_one_iff.1 hzero)
        rw [hi, ← hvalue, abs_value]
        exact representable_magnitude _
      · have hsmall := magnitude_lt_of_neg negative canonical (by omega)
        have hbound : |(i : ℚ)| < 0x10000000000000 + 1 := by
          have hsum := abs_add_le ((i : ℚ) - (finite negative m e canonical).value)
            (finite negative m e canonical).value
          rw [sub_add_cancel, abs_value] at hsum
          linarith
        have hnat : |(i : ℚ)| = i.natAbs := by rw [Nat.cast_natAbs, Int.cast_abs]
        rw [hnat] at hbound ⊢
        refine representable_natCast ?_
        have hlt : i.natAbs < 0x10000000000000 + 1 := by exact_mod_cast hbound
        omega
  | _ => cases hx

/-- The fraction of a double is a double. -/
theorem representable_fract {x : Double} (hx : x.isFinite = true) :
    Representable (Int.fract x.magnitude) := by
  cases x with
  | finite negative m e canonical =>
      have hm := canonical.lt_bound
      rw [magnitude_finite, fract_dyadic, splitInteger]
      split
      · rw [Nat.cast_zero, zero_div]
        exact representable_natCast (k := 0) (Nat.zero_le _)
      · next he =>
        have hrest : m % twoTo (-e).toNat ≤ m := Nat.mod_le _ _
        have hunit : (1 : ℚ) / twoTo (-e).toNat = 2 ^ e := by
          rw [← twoTo_div_twoTo, show e.toNat = 0 by omega, twoTo_zero, Nat.cast_one]
        rw [← mul_one_div, hunit]
        exact representable_of_lt (by omega) canonical.least_le canonical.le_greatest
  | _ => cases hx

/-! ## A half -/

theorem half_isExactly : half.IsExactly (1 / 2) := by
  have heq : half = finite false 0x10000000000000 (-53)
      ⟨by decide, by decide, by decide, .inl (by decide)⟩ := by
    decide +kernel
  rw [heq]
  refine ⟨rfl, ?_⟩
  rw [value_finite, signed, if_neg Bool.false_ne_true]
  norm_num

theorem leastAlwaysIntegral_isExactly : leastAlwaysIntegral.IsExactly (2 ^ 52) := by
  rw [leastAlwaysIntegral_eq]
  refine ⟨rfl, ?_⟩
  rw [value_finite, signed, if_neg Bool.false_ne_true]
  norm_num

/-- Adding a half carries to the next integer if the fraction is a half at least. -/
theorem floor_add_half (r : ℚ) :
    ⌊r + 1 / 2⌋ = if 1 / 2 ≤ Int.fract r then ⌊r⌋ + 1 else ⌊r⌋ := by
  have hsplit := Int.floor_add_fract r
  have hlow := Int.fract_nonneg r
  have hhigh := Int.fract_lt_one r
  rw [Int.floor_eq_iff]
  split
  · push_cast
    constructor <;> linarith
  · constructor <;> linarith

/-! ## Magnitudes and signs -/

theorem isFinite_abs (x : Double) : x.abs.isFinite = x.isFinite := by
  cases x <;> rfl

theorem value_abs (x : Double) : x.abs.value = x.magnitude := by
  cases x with
  | finite negative m e canonical => rfl
  | _ => simp [abs, withSign, value, magnitude]

theorem isFinite_withSign (negative : Bool) (x : Double) :
    (x.withSign negative).isFinite = x.isFinite := by
  cases x <;> rfl

theorem magnitude_withSign (negative : Bool) (x : Double) :
    (x.withSign negative).magnitude = x.magnitude := by
  cases x <;> rfl

theorem isNegative_withSign (negative : Bool) {x : Double} (hx : x.isFinite = true) :
    (x.withSign negative).isNegative = negative := by
  cases x with
  | finite _ _ _ _ => rfl
  | _ => cases hx

/-- The double `y` is the integer nearest to the double `x`, with its sign; of two integers it is
the one away from zero. -/
structure RoundsHalfAway (x y : Double) : Prop where
  finite : y.isFinite = true
  sign : y.isNegative = x.isNegative
  magnitude : y.magnitude = ⌊x.magnitude + 1 / 2⌋

/-- From `2 ^ 52` on every double is the integer nearest to it. -/
theorem roundsHalfAway_self {x : Double} (hx : x.isFinite = true) (h : 2 ^ 52 ≤ x.magnitude) :
    RoundsHalfAway x x := by
  refine ⟨hx, rfl, ?_⟩
  cases x with
  | finite negative m e canonical =>
      have he : 0 ≤ e := by
        refine Int.not_lt.1 fun he => ?_
        have hsmall := magnitude_lt_of_neg negative canonical he
        norm_num at h hsmall
        linarith
      have hvalue := value_integral false canonical he
      rw [floor_add_half, magnitude_finite, show (m : ℚ) * 2 ^ e = (m * twoTo e.toNat : Int) from ?_,
        Int.fract_intCast, if_neg (by norm_num), Int.floor_intCast]
      rw [value_finite] at hvalue
      exact hvalue
  | _ => cases hx

end Double

namespace Arithmetic

open Double (half)

/-! ## The nearest integer -/

/-- Nothing is lost on the way from the magnitude of a double to the nearest integer: the integer
part becomes a double as it is, the fraction behind it is one, its comparison with a half is that of
numbers, and the integer that is returned becomes a double as it is. -/
structure ExactSteps (x : Double) : Prop where
  floor : Library.floor x.abs = .ok ⌊x.magnitude⌋
  whole : ∃ w, Library.double ⌊x.magnitude⌋ = .ok w ∧ w.IsExactly ⌊x.magnitude⌋ ∧
    (x.abs.sub w).IsExactly (Int.fract x.magnitude) ∧
    (half.le (x.abs.sub w) = true ↔ 1 / 2 ≤ Int.fract x.magnitude)
  rounded : ∃ w, Library.double ⌊x.magnitude + 1 / 2⌋ = .ok w ∧ w.IsExactly ⌊x.magnitude + 1 / 2⌋

/-- An integer next to a double becomes a double as it is. -/
theorem double_of_adjacent {x : Double} (hx : x.isFinite = true) {i : Int}
    (h : |(i : ℚ) - x.value| < 1) : ∃ w, Library.double i = .ok w ∧ w.IsExactly i := by
  have hexact := Double.isExactly_ofInt (Double.representable_of_adjacent hx h)
  exact ⟨Double.ofInt i, by rw [Library.double, if_pos hexact.1], hexact⟩

theorem exactSteps {x : Double} (hx : x.isFinite = true) : ExactSteps x := by
  have habs : x.abs.isFinite = true := by rwa [Double.isFinite_abs]
  have hhigh := Int.fract_lt_one x.magnitude
  have hlow := Int.fract_nonneg x.magnitude
  have hsplit := Int.floor_add_fract x.magnitude
  refine ⟨?_, ?_, ?_⟩
  · cases x with
    | finite negative m e canonical =>
        rw [Double.magnitude_finite, Double.floor_dyadic]
        rfl
    | _ => cases hx
  · obtain ⟨w, hw, hexact⟩ : ∃ w, Library.double ⌊x.magnitude⌋ = .ok w ∧ w.IsExactly ⌊x.magnitude⌋ := by
      refine double_of_adjacent habs ?_
      rw [Double.value_abs, abs_lt]
      constructor <;> linarith
    have hfraction : (x.abs.sub w).IsExactly (Int.fract x.magnitude) := by
      have hdifference : x.abs.value - w.value = Int.fract x.magnitude := by
        rw [Double.value_abs, hexact.2, Int.self_sub_floor]
      rw [← hdifference]
      refine Double.isExactly_sub habs hexact.1 ?_
      rw [hdifference, abs_of_nonneg hlow]
      exact Double.representable_fract hx
    refine ⟨w, hw, hexact, hfraction, ?_⟩
    rw [Double.le_iff_value Double.half_isExactly.1 hfraction.1, Double.half_isExactly.2, hfraction.2]
  · refine double_of_adjacent habs ?_
    rw [Double.value_abs, Double.floor_add_half, abs_lt]
    split
    · push_cast
      constructor <;> linarith
    · constructor <;> linarith

/-- Below `2 ^ 52` the steps are taken one after the other. -/
theorem roundHalfAway_of_lt {x : Double} (hx : x.isFinite = true) (h : x.magnitude < 2 ^ 52) :
    ∃ y, roundHalfAway x = .ok y ∧ x.RoundsHalfAway y := by
  have hlt : x.abs.lt Double.leastAlwaysIntegral = true := by
    rw [Double.lt_iff_value (by rwa [Double.isFinite_abs]) Double.leastAlwaysIntegral_isExactly.1,
      Double.value_abs, Double.leastAlwaysIntegral_isExactly.2]
    exact h
  obtain ⟨hfloor, ⟨w, hw, _, _, htest⟩, ⟨z, hz, hexact⟩⟩ := exactSteps hx
  have hnext : (if half.le (x.abs.sub w) = true then ⌊x.magnitude⌋ + 1 else ⌊x.magnitude⌋)
      = ⌊x.magnitude + 1 / 2⌋ := by
    rw [Double.floor_add_half]
    simp only [htest]
  refine ⟨z.withSign x.isNegative, ?_, ?_, ?_, ?_⟩
  · rw [roundHalfAway, ifFinite, if_pos hx, roundFinite]
    dsimp only
    rw [if_pos hlt, hfloor]
    dsimp only
    rw [hw]
    dsimp only
    rw [hnext, hz]
  · rw [Double.isFinite_withSign]
    exact hexact.1
  · exact Double.isNegative_withSign _ hexact.1
  · have hnonneg : (0 : ℚ) ≤ ⌊x.magnitude + 1 / 2⌋ := by
      have hx := x.magnitude_nonneg
      exact_mod_cast Int.floor_nonneg.2 (by linarith)
    rw [Double.magnitude_withSign, ← Double.abs_value, hexact.2, abs_of_nonneg hnonneg]

/-- From `2 ^ 52` on a double is returned as it is. -/
theorem roundHalfAway_of_le {x : Double} (hx : x.isFinite = true) (h : 2 ^ 52 ≤ x.magnitude) :
    roundHalfAway x = .ok x := by
  have hlt : x.abs.lt Double.leastAlwaysIntegral = false := by
    rw [← Bool.not_eq_true, Double.lt_iff_value (by rwa [Double.isFinite_abs])
      Double.leastAlwaysIntegral_isExactly.1, Double.value_abs,
      Double.leastAlwaysIntegral_isExactly.2, not_lt]
    exact h
  rw [roundHalfAway, ifFinite, if_pos hx, roundFinite]
  dsimp only
  rw [hlt, if_neg Bool.false_ne_true]

/-- **Rounding to the nearest integer is exact.**  A finite double is rounded to a double whose
magnitude is the integer part of its own and a half, taken as numbers; it has the same sign, also if
it is a zero; and no step on the way changes a number. -/
theorem roundHalfAway_exact {x : Double} (hx : x.isFinite = true) :
    ∃ y, roundHalfAway x = .ok y ∧ x.RoundsHalfAway y ∧ ExactSteps x := by
  rcases lt_or_ge x.magnitude (2 ^ 52) with h | h
  · obtain ⟨y, hy, hrounds⟩ := roundHalfAway_of_lt hx h
    exact ⟨y, hy, hrounds, exactSteps hx⟩
  · exact ⟨x, roundHalfAway_of_le hx h, Double.roundsHalfAway_self hx h, exactSteps hx⟩

/-- The negative double that is next to minus a half on the side of zero: with a half added it would
be rounded to one. -/
theorem roundHalfAway_exact_below_half :
    let x := Double.finite true 0x1FFFFFFFFFFFFF (-54)
      ⟨by decide, by decide, by decide, .inl (by decide)⟩
    x.isFinite = true ∧ roundHalfAway x = .ok (.zero true) ∧ x.RoundsHalfAway (.zero true) ∧
      ExactSteps x := by
  intro x
  obtain ⟨y, hy, hrounds, hsteps⟩ := roundHalfAway_exact (x := x) rfl
  have hvalue : roundHalfAway x = .ok (.zero true) := by decide +kernel
  rw [hvalue] at hy
  cases hy
  exact ⟨rfl, hvalue, hrounds, hsteps⟩

end Arithmetic

end Formula
