import Formula.Proofs.Arithmetic
import Mathlib.Algebra.Order.Field.Power
import Mathlib.Data.Int.Log
import Mathlib.Data.Rat.Floor
import Mathlib.Tactic.Linarith
import Mathlib.Tactic.Positivity
set_option autoImplicit false

/-!
# Doubles as rational numbers

A finite double is an exact rational number, `Double.value`, and doubles are in the order of these
numbers (`lt_iff_value`).  An operation on doubles rounds the exact result once, by `ofRatio`.  The
exponent that it rounds at is given by the logarithm of the exact result (`exponentFor_eq`), and at
that exponent a number that is a double has a natural number for its significand.  So it is not
changed by being rounded (`ofRatio_of_canonical`).
-/

namespace Formula

theorem cast_twoTo (n : Nat) : (twoTo n : ℚ) = 2 ^ n := by
  rw [twoTo, Nat.pow_eq, Nat.cast_pow, Nat.cast_ofNat]

theorem cast_twoTo_pos (n : Nat) : (0 : ℚ) < twoTo n := Nat.cast_pos.2 (twoTo_pos n)

/-- A power of two with an integer exponent, as a numerator and a denominator. -/
theorem twoTo_div_twoTo (e : Int) : (twoTo e.toNat : ℚ) / twoTo (-e).toNat = 2 ^ e := by
  rw [cast_twoTo, cast_twoTo]
  rcases Int.le_total 0 e with he | he
  · obtain ⟨k, rfl⟩ := Int.eq_ofNat_of_zero_le he
    simp
  · obtain ⟨k, hk⟩ := Int.eq_ofNat_of_zero_le (Int.neg_nonneg_of_nonpos he)
    obtain rfl : e = -(k : Int) := by omega
    simp

/-- A difference of exponents, taken as a natural number, scales from one to the other. -/
theorem twoTo_mul_zpow {r e : Int} (h : r ≤ e) : (twoTo (e - r).toNat : ℚ) * 2 ^ r = 2 ^ e := by
  rw [cast_twoTo, ← zpow_natCast, ← zpow_add₀ two_ne_zero, Int.toNat_of_nonneg (by omega)]
  congr 1
  omega

namespace Double

/-! ## Exact numbers -/

/-- The exact number that a finite double is without its sign. -/
def magnitude : Double → ℚ
  | .finite _ significand exponent _ => significand * 2 ^ exponent
  | _ => 0

/-- The exact number that a finite double is. -/
def value (x : Double) : ℚ := if x.isNegative then -x.magnitude else x.magnitude

/-- The double is the exact number `r`. -/
def IsExactly (x : Double) (r : ℚ) : Prop := x.isFinite = true ∧ x.value = r

theorem magnitude_nonneg (x : Double) : 0 ≤ x.magnitude := by
  cases x with
  | finite negative m e canonical => rw [magnitude]; positivity
  | _ => exact le_refl 0

theorem magnitude_finite (negative : Bool) {m : Nat} {e : Int} (canonical : Canonical m e) :
    (finite negative m e canonical).magnitude = m * 2 ^ e := rfl

theorem value_finite (negative : Bool) {m : Nat} {e : Int} (canonical : Canonical m e) :
    (finite negative m e canonical).value = (signed negative m : ℚ) * 2 ^ e := by
  cases negative <;> simp [value, magnitude, isNegative, signed]

/-! ## Order -/

theorem dyadicLt_iff_lt (a p b q : Int) :
    dyadicLt a p b q = true ↔ (a : ℚ) * 2 ^ p < b * 2 ^ q := by
  have hunit : (0 : ℚ) < 2 ^ min p q := by positivity
  have scaled (c e : Int) (h : min p q ≤ e) :
      (c : ℚ) * 2 ^ e = (c * twoTo (e - min p q).toNat : Int) * 2 ^ min p q := by
    rw [← twoTo_mul_zpow h, Int.cast_mul, Int.cast_natCast, mul_assoc]
  rw [dyadicLt, decide_eq_true_iff, scaled a p (min_le_left p q), scaled b q (min_le_right p q),
    mul_lt_mul_iff_left₀ hunit, Int.cast_lt]

/-- Finite doubles are in the order of the exact numbers. -/
theorem lt_iff_value {x y : Double} (hx : x.isFinite = true) (hy : y.isFinite = true) :
    x.lt y = true ↔ x.value < y.value := by
  cases x with
  | finite s m e canonical =>
      cases y with
      | finite t n f canonical' =>
          rw [value_finite, value_finite]
          exact dyadicLt_iff_lt _ _ _ _
      | _ => cases hy
  | _ => cases hx

theorem le_iff_value {x y : Double} (hx : x.isFinite = true) (hy : y.isFinite = true) :
    x.le y = true ↔ x.value ≤ y.value := by
  have hdef : x.le y = (x.lt y || (!x.lt y && !y.lt x)) := by
    cases x with
    | finite _ _ _ _ =>
        cases y with
        | finite _ _ _ _ => rfl
        | _ => cases hy
    | _ => cases hx
  have horder := lt_iff_value hy hx
  rw [← not_lt, ← horder, hdef]
  have hthis := lt_iff_value hx hy
  cases hxy : x.lt y with
  | false => simp
  | true =>
      have hless := hthis.1 hxy
      simp [horder, hless.le]

/-! ## Rounding an exact number -/

theorem cast_scaled (n d : Nat) (e : Int) :
    ((scaled n d e).1 : ℚ) / (scaled n d e).2 = n / d / 2 ^ e := by
  rw [← twoTo_div_twoTo e, scaled]
  dsimp only
  rw [Nat.cast_mul, Nat.cast_mul, div_div_div_eq]

theorem scaled_pos (n : Nat) {d : Nat} (hd : d ≠ 0) (e : Int) : 0 < (scaled n d e).2 :=
  Nat.mul_pos (Nat.pos_of_ne_zero hd) (twoTo_pos _)

/-- The quotient of two numbers has as many bits as their difference in bits, or one less. -/
theorem log_div {n d : Nat} (hn : n ≠ 0) (hd : d ≠ 0) :
    (Nat.log2 n : Int) - Nat.log2 d - 1 ≤ Int.log 2 ((n : ℚ) / d) ∧
      Int.log 2 ((n : ℚ) / d) ≤ (Nat.log2 n : Int) - Nat.log2 d := by
  have hn' : (0 : ℚ) < n := Nat.cast_pos.2 (Nat.pos_of_ne_zero hn)
  have hd' : (0 : ℚ) < d := Nat.cast_pos.2 (Nat.pos_of_ne_zero hd)
  have bounds {k : Nat} (hk : k ≠ 0) :
      (2 : ℚ) ^ (Nat.log2 k : Int) ≤ k ∧ (k : ℚ) < 2 ^ ((Nat.log2 k : Int) + 1) := by
    constructor
    · rw [zpow_natCast]
      exact_mod_cast Nat.log2_self_le hk
    · rw [← Nat.cast_succ, zpow_natCast]
      exact_mod_cast Nat.lt_log2_self
  obtain ⟨hnlow, hnhigh⟩ := bounds hn
  obtain ⟨hdlow, hdhigh⟩ := bounds hd
  constructor
  · refine (Int.zpow_le_iff_le_log one_lt_two (div_pos hn' hd')).1 ?_
    rw [Nat.cast_ofNat, le_div_iff₀ hd']
    calc (2 : ℚ) ^ ((Nat.log2 n : Int) - Nat.log2 d - 1) * d
        ≤ 2 ^ ((Nat.log2 n : Int) - Nat.log2 d - 1) * 2 ^ ((Nat.log2 d : Int) + 1) := by gcongr
      _ = 2 ^ (Nat.log2 n : Int) := by rw [← zpow_add₀ two_ne_zero]; congr 1; omega
      _ ≤ n := hnlow
  · refine Int.lt_add_one_iff.1 ((Int.lt_zpow_iff_log_lt one_lt_two (div_pos hn' hd')).1 ?_)
    rw [Nat.cast_ofNat, div_lt_iff₀ hd']
    calc (n : ℚ) < 2 ^ ((Nat.log2 n : Int) + 1) := hnhigh
      _ = 2 ^ ((Nat.log2 n : Int) - Nat.log2 d + 1) * 2 ^ (Nat.log2 d : Int) := by
        rw [← zpow_add₀ two_ne_zero]; congr 1; omega
      _ ≤ 2 ^ ((Nat.log2 n : Int) - Nat.log2 d + 1) * d := by gcongr

/-- **The exponent of a rounded quotient** is the one at which it has 53 bits, or the least one. -/
theorem exponentFor_eq {n d : Nat} (hn : n ≠ 0) (hd : d ≠ 0) :
    exponentFor n d = max (-1074) (Int.log 2 ((n : ℚ) / d) - 52) := by
  have hpos : (0 : ℚ) < (n : ℚ) / d :=
    div_pos (Nat.cast_pos.2 (Nat.pos_of_ne_zero hn)) (Nat.cast_pos.2 (Nat.pos_of_ne_zero hd))
  have hbits := log_div hn hd
  -- whether the integer part has at most 53 bits is seen from the logarithm
  have htest (e : Int) : (scaled n d e).1 / (scaled n d e).2 < 0x20000000000000 ↔
      Int.log 2 ((n : ℚ) / d) < e + 53 := by
    have hscaled : (0 : ℚ) < (scaled n d e).2 := Nat.cast_pos.2 (scaled_pos n hd e)
    have hpower : (0x20000000000000 : ℚ) = 2 ^ (53 : Int) := by norm_num
    have hunit : (0 : ℚ) < 2 ^ e := by positivity
    rw [Nat.div_lt_iff_lt_mul (scaled_pos n hd e), ← Int.lt_zpow_iff_log_lt one_lt_two hpos,
      ← Nat.cast_lt (α := ℚ), Nat.cast_mul, ← div_lt_iff₀ hscaled, cast_scaled, Nat.cast_ofNat,
      hpower, div_lt_iff₀ hunit, ← zpow_add₀ two_ne_zero, Nat.cast_ofNat, add_comm]
  unfold exponentFor
  dsimp only
  split
  · next h =>
    rw [htest] at h
    omega
  · next h =>
    rw [htest] at h
    omega

/-! ## Numbers that are doubles -/

/-- The number is a double without its sign. -/
def Representable (r : ℚ) : Prop := ∃ m e, Canonical m e ∧ r = m * 2 ^ e

/-- A double of fewer bits is brought to the exponent at which it has all of them. -/
theorem representable_of_lt {m : Nat} {e : Int} (hm : m < 0x20000000000000) (least : -1074 ≤ e)
    (greatest : e ≤ 971) : Representable (m * 2 ^ e) := by
  -- on the exponents that are left below
  induction hk : (e + 1074).toNat generalizing m e with
  | zero => exact ⟨m, e, ⟨hm, least, greatest, Or.inr (by omega)⟩, rfl⟩
  | succ k ih =>
      by_cases hfull : 0x10000000000000 ≤ m
      · exact ⟨m, e, ⟨hm, least, greatest, Or.inl hfull⟩, rfl⟩
      · have hdouble : ((2 * m : Nat) : ℚ) * 2 ^ (e - 1) = m * 2 ^ e := by
          rw [zpow_sub_one₀ two_ne_zero, Nat.cast_mul, Nat.cast_ofNat]
          ring
        rw [← hdouble]
        exact ih (by omega) (by omega) (by omega) (by omega)

theorem representable_natCast {k : Nat} (h : k ≤ 0x20000000000000) : Representable k := by
  rcases Nat.lt_or_eq_of_le h with hlt | rfl
  · have hzero := representable_of_lt (e := 0) hlt (by decide) (by decide)
    rwa [zpow_zero, mul_one] at hzero
  · exact ⟨0x10000000000000, 1, ⟨by decide, by decide, by decide, Or.inl (Nat.le_refl _)⟩, by norm_num⟩

theorem representable_magnitude (x : Double) : Representable x.magnitude := by
  cases x with
  | finite negative m e canonical => exact ⟨m, e, canonical, rfl⟩
  | _ => exact representable_natCast (k := 0) (Nat.zero_le _)

theorem divideToEven_mul (m : Nat) {d : Nat} (hd : 0 < d) : divideToEven (m * d) d = m :=
  Nat.le_antisymm (divideToEven_le hd (Nat.le_refl _)) (le_divideToEven hd (Nat.le_refl _))

/-- The exponent of a double is the one that it is rounded at. -/
theorem exponentFor_of_canonical {m n d : Nat} {e : Int} (canonical : Canonical m e) (hn : n ≠ 0)
    (hd : d ≠ 0) (h : (n : ℚ) / d = m * 2 ^ e) : exponentFor n d = e := by
  have hpos : (0 : ℚ) < (m : ℚ) * 2 ^ e := by
    rw [← h]
    exact div_pos (Nat.cast_pos.2 (Nat.pos_of_ne_zero hn)) (Nat.cast_pos.2 (Nat.pos_of_ne_zero hd))
  have hunit : (0 : ℚ) < 2 ^ e := by positivity
  have hbelow : Int.log 2 ((m : ℚ) * 2 ^ e) < 53 + e := by
    have hm : (m : ℚ) < 2 ^ (53 : Int) := by
      rw [show (2 : ℚ) ^ (53 : Int) = (0x20000000000000 : Nat) by norm_num]
      exact Nat.cast_lt.2 canonical.lt_bound
    rw [← Int.lt_zpow_iff_log_lt one_lt_two hpos, Nat.cast_ofNat, zpow_add₀ two_ne_zero]
    exact mul_lt_mul_of_pos_right hm hunit
  have habove : 0x10000000000000 ≤ m → 52 + e ≤ Int.log 2 ((m : ℚ) * 2 ^ e) := by
    intro hfull
    have hm : (2 : ℚ) ^ (52 : Int) ≤ m := by
      rw [show (2 : ℚ) ^ (52 : Int) = (0x10000000000000 : Nat) by norm_num]
      exact Nat.cast_le.2 hfull
    rw [← Int.zpow_le_iff_le_log one_lt_two hpos, Nat.cast_ofNat, zpow_add₀ two_ne_zero]
    exact mul_le_mul_of_nonneg_right hm hunit.le
  have hleast := canonical.least_le
  rw [exponentFor_eq hn hd, h]
  rcases canonical.full_or_least with hfull | heq
  · have hfull := habove hfull
    omega
  · omega

/-- **A quotient that is a double is not changed by being rounded.** -/
theorem ofRatio_of_canonical (negative : Bool) {m n d : Nat} {e : Int} (canonical : Canonical m e)
    (hd : d ≠ 0) (h : (n : ℚ) / d = m * 2 ^ e) :
    ofRatio negative n d = finite negative m e canonical := by
  have hd' : (d : ℚ) ≠ 0 := Nat.cast_ne_zero.2 hd
  have hunit : (0 : ℚ) < 2 ^ e := by positivity
  rw [ofRatio]
  split
  · next hn =>
    have hm : m = 0 := by
      rw [hn, Nat.cast_zero, zero_div, zero_eq_mul] at h
      exact Nat.cast_eq_zero.1 (h.resolve_right hunit.ne')
    subst hm
    obtain rfl : e = -1074 := canonical.full_or_least.resolve_left (by decide)
    rfl
  · next hn =>
    have hscaled := scaled_pos n hd e
    -- at the exponent of the double the quotient is its significand
    have hexact : (scaled n d e).1 = m * (scaled n d e).2 := by
      have hquotient := cast_scaled n d e
      rw [h, mul_div_cancel_right₀ _ hunit.ne',
        div_eq_iff (Nat.cast_ne_zero.2 (Nat.ne_of_gt hscaled))] at hquotient
      exact_mod_cast hquotient
    dsimp only
    rw [exponentFor_of_canonical canonical hn hd h, hexact, divideToEven_mul m hscaled,
      if_neg (Nat.ne_of_lt canonical.lt_bound), ofParts_of_canonical negative canonical]

/-- A finite double is determined by its sign and its magnitude. -/
theorem eq_of_magnitude {x y : Double} (hx : x.isFinite = true) (hy : y.isFinite = true)
    (sign : x.isNegative = y.isNegative) (h : x.magnitude = y.magnitude) : x = y := by
  cases x with
  | finite s m e canonical =>
      cases y with
      | finite t n f canonical' =>
          obtain rfl : s = t := sign
          have hscale := Nat.ne_of_gt (twoTo_pos (-e).toNat)
          have hquotient : ((m * twoTo e.toNat : Nat) : ℚ) / twoTo (-e).toNat = m * 2 ^ e := by
            rw [Nat.cast_mul, mul_div_assoc, twoTo_div_twoTo]
          -- both are what the same quotient is rounded to
          rw [← ofRatio_of_canonical s canonical hscale hquotient]
          exact ofRatio_of_canonical s canonical' hscale (hquotient.trans h)
      | _ => cases hy
  | _ => cases hx

theorem ofDyadic_of_canonical (negative : Bool) {m k : Nat} {e exponent : Int}
    (canonical : Canonical m e) (h : (k : ℚ) * 2 ^ exponent = m * 2 ^ e) :
    ofDyadic negative k exponent = finite negative m e canonical := by
  refine ofRatio_of_canonical negative canonical (Nat.ne_of_gt (twoTo_pos _)) ?_
  rw [Nat.cast_mul, mul_div_assoc, twoTo_div_twoTo, h]

/-- A dyadic that is a double is not changed by being rounded. -/
theorem isExactly_ofSignedDyadic (zeroNegative : Bool) {a exponent : Int}
    (h : Representable |(a : ℚ) * 2 ^ exponent|) :
    (ofSignedDyadic zeroNegative a exponent).IsExactly (a * 2 ^ exponent) := by
  obtain ⟨m, e, canonical, hvalue⟩ := h
  have hunit : (0 : ℚ) < 2 ^ exponent := by positivity
  rw [abs_mul, abs_of_pos hunit] at hvalue
  rw [ofSignedDyadic]
  split
  · next ha =>
    rw [ha, Int.cast_zero, zero_mul]
    refine ⟨rfl, ?_⟩
    cases zeroNegative <;> simp [value, magnitude, zero, isNegative]
  · have hnat : (a.natAbs : ℚ) * 2 ^ exponent = m * 2 ^ e := by
      rw [← hvalue, Nat.cast_natAbs, Int.cast_abs]
    rw [ofDyadic_of_canonical _ canonical hnat]
    refine ⟨rfl, ?_⟩
    rw [value, magnitude_finite, ← hvalue, isNegative]
    by_cases ha : a < 0
    · rw [decide_eq_true ha, if_pos rfl, abs_of_neg (Int.cast_lt_zero.2 ha), neg_eq_iff_eq_neg,
        neg_mul]
    · rw [decide_eq_false ha, if_neg Bool.false_ne_true,
        abs_of_nonneg (Int.cast_nonneg (Int.not_lt.1 ha))]

/-! ## Operations whose result is a double -/

theorem isExactly_ofInt {i : Int} (h : Representable |(i : ℚ)|) : (ofInt i).IsExactly i := by
  have hscale : (i : ℚ) * 2 ^ (0 : Int) = i := by rw [zpow_zero, mul_one]
  have hexact : (ofSignedDyadic false i 0).IsExactly ((i : ℚ) * 2 ^ (0 : Int)) :=
    isExactly_ofSignedDyadic false (by rwa [hscale])
  rwa [hscale] at hexact

theorem value_neg (x : Double) : x.neg.value = -x.value := by
  cases x with
  | finite negative m e canonical => cases negative <;> simp [value, magnitude, neg, isNegative]
  | infinity negative => cases negative <;> simp [value, magnitude, neg, isNegative]
  | nan => simp [value, magnitude, neg]

/-- A sum that is a double is not changed by being rounded. -/
theorem isExactly_add {x y : Double} (hx : x.isFinite = true) (hy : y.isFinite = true)
    (h : Representable |x.value + y.value|) : (x.add y).IsExactly (x.value + y.value) := by
  cases x with
  | finite s m e canonical =>
      cases y with
      | finite t n f canonical' =>
          have hsum : (finite s m e canonical).value + (finite t n f canonical').value =
              (signed s m * twoTo (e - min e f).toNat + signed t n * twoTo (f - min e f).toNat : Int)
                * 2 ^ min e f := by
            rw [value_finite, value_finite, ← twoTo_mul_zpow (min_le_left e f),
              ← twoTo_mul_zpow (min_le_right e f)]
            push_cast
            ring
          rw [hsum] at h ⊢
          exact isExactly_ofSignedDyadic _ h
      | _ => cases hy
  | _ => cases hx

theorem isFinite_neg (x : Double) : x.neg.isFinite = x.isFinite := by
  cases x <;> rfl

theorem isExactly_sub {x y : Double} (hx : x.isFinite = true) (hy : y.isFinite = true)
    (h : Representable |x.value - y.value|) : (x.sub y).IsExactly (x.value - y.value) := by
  rw [sub_eq_add_neg, ← value_neg] at h ⊢
  exact isExactly_add hx (by rwa [isFinite_neg]) h

end Double

end Formula
