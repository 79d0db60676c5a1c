import Formula.Double.Integral
import Formula.Double.Power
set_option autoImplicit false

/-!
# Integers that are finite doubles

An integer up to the greatest finite double is rounded to a finite double: at the scale that
rounding chooses it has 53 bits, and there is room for one carry except at the very top, where
none arises.  The integers that a finite double is rounded to are among them.
-/

namespace Formula

namespace Double

theorem twoTo_le {a b : Nat} (h : a ≤ b) : twoTo a ≤ twoTo b := Nat.pow_le_pow_right (by decide) h

/-- The greatest finite double is this integer. -/
def greatestFinite : Nat := 0x1FFFFFFFFFFFFF * twoTo 971

theorem greatestFinite_lt : greatestFinite < twoTo 1024 := by
  have hscale : twoTo 1024 = twoTo 53 * twoTo 971 := twoTo_add 53 971
  rw [hscale]
  exact Nat.mul_lt_mul_of_pos_right (by decide) (twoTo_pos 971)

theorem le_greatestFinite {n : Nat} (h : n ≤ 0x20000000000000) : n ≤ greatestFinite := by
  have hscale : 2 ≤ twoTo 971 := by
    rw [twoTo_succ]
    exact Nat.le_mul_of_pos_left 2 (twoTo_pos 970)
  calc n ≤ 0x1FFFFFFFFFFFFF * 2 := by omega
    _ ≤ greatestFinite := Nat.mul_le_mul_left _ hscale

theorem divideToEven_le {n d bound : Nat} (hd : 0 < d) (h : n ≤ bound * d) :
    divideToEven n d ≤ bound := by
  have hq : n / d ≤ bound := Nat.div_le_of_le_mul (by rwa [Nat.mul_comm] at h)
  have hsplit : d * (n / d) + n % d = n := Nat.div_add_mod n d
  -- the next integer is taken only if there is a remainder
  have hnext : 0 < n % d → n / d + 1 ≤ bound := by
    intro hr
    rcases Nat.lt_or_ge (n / d) bound with hlt | hge
    · exact hlt
    · have : bound * d ≤ d * (n / d) := by rw [Nat.mul_comm]; exact Nat.mul_le_mul_left d hge
      omega
  unfold divideToEven
  dsimp only
  split
  · exact hq
  · split
    · exact hnext (by omega)
    · split
      · exact hq
      · exact hnext (by omega)

theorem le_divideToEven {n d bound : Nat} (hd : 0 < d) (h : bound * d ≤ n) :
    bound ≤ divideToEven n d := by
  have hq : bound ≤ n / d := (Nat.le_div_iff_mul_le hd).2 h
  unfold divideToEven
  dsimp only
  split
  · exact hq
  · split
    · omega
    · split <;> omega

theorem log2_lt_of_lt {n bits : Nat} (hn : n ≠ 0) (h : n < twoTo bits) : Nat.log2 n < bits :=
  (Nat.log2_lt hn).2 h

/-- At the scale that is `k` bits below its first bit, an integer has `k + 1` bits. -/
theorem scaled_bounds {n : Nat} (h : n ≠ 0) (k : Nat) :
    twoTo k * (scaled n 1 (Nat.log2 n - k)).2 ≤ (scaled n 1 (Nat.log2 n - k)).1 ∧
      (scaled n 1 (Nat.log2 n - k)).1 < twoTo (k + 1) * (scaled n 1 (Nat.log2 n - k)).2 := by
  have hlow : twoTo (Nat.log2 n) ≤ n := Nat.log2_self_le h
  have hhigh : n < twoTo (Nat.log2 n + 1) := Nat.lt_log2_self
  dsimp only [scaled]
  rcases Nat.le_total (Nat.log2 n) k with hk | hk
  · have hup : (-((Nat.log2 n : Int) - k)).toNat = k - Nat.log2 n := by omega
    have hdown : ((Nat.log2 n : Int) - k).toNat = 0 := by omega
    have hsplit : twoTo k = twoTo (Nat.log2 n) * twoTo (k - Nat.log2 n) := by
      rw [← twoTo_add, Nat.add_sub_cancel' hk]
    have hsplit' : twoTo (k + 1) = twoTo (Nat.log2 n + 1) * twoTo (k - Nat.log2 n) := by
      rw [← twoTo_add, show Nat.log2 n + 1 + (k - Nat.log2 n) = k + 1 by omega]
    rw [hup, hdown, twoTo_zero, Nat.mul_one, Nat.mul_one, hsplit, hsplit']
    exact ⟨Nat.mul_le_mul_right _ hlow, Nat.mul_lt_mul_of_pos_right hhigh (twoTo_pos _)⟩
  · have hup : (-((Nat.log2 n : Int) - k)).toNat = 0 := by omega
    have hdown : ((Nat.log2 n : Int) - k).toNat = Nat.log2 n - k := by omega
    rw [hup, hdown, twoTo_zero, Nat.mul_one, Nat.one_mul, ← twoTo_add, ← twoTo_add,
      Nat.add_sub_cancel' hk, show k + 1 + (Nat.log2 n - k) = Nat.log2 n + 1 by omega]
    exact ⟨hlow, hhigh⟩

theorem exponentFor_one {n : Nat} (h : n ≠ 0) : exponentFor n 1 = (Nat.log2 n : Int) - 52 := by
  have hguess : max (-1074) ((Nat.log2 n : Int) - (Nat.log2 1 : Int) - 53)
      = (Nat.log2 n : Int) - (53 : Nat) := by
    rw [show Nat.log2 1 = 0 from by decide]
    omega
  have hfull : ¬ (scaled n 1 ((Nat.log2 n : Int) - (53 : Nat))).1
      / (scaled n 1 ((Nat.log2 n : Int) - (53 : Nat))).2 < 0x20000000000000 := by
    have hpos : 0 < (scaled n 1 ((Nat.log2 n : Int) - (53 : Nat))).2 := by
      rw [scaled, Nat.one_mul]
      exact twoTo_pos _
    rw [Nat.not_lt, Nat.le_div_iff_mul_le hpos]
    exact (scaled_bounds h 53).1
  unfold exponentFor
  dsimp only
  rw [hguess, if_neg hfull]
  omega

theorem isFinite_ofParts (negative : Bool) {significand : Nat} {exponent : Int}
    (h : Canonical significand exponent) : (ofParts negative significand exponent).isFinite = true := by
  rw [ofParts_of_canonical negative h]
  rfl

/-- An integer that is not greater than the greatest finite double is rounded to a finite one. -/
theorem isFinite_ofRatio_one (negative : Bool) {n : Nat} (h : n ≤ greatestFinite) :
    (ofRatio negative n 1).isFinite = true := by
  by_cases hn : n = 0
  · rw [hn, ofRatio, if_pos rfl]
    rfl
  have hbits : Nat.log2 n < 1024 := log2_lt_of_lt hn (Nat.lt_of_le_of_lt h greatestFinite_lt)
  have hbounds := scaled_bounds hn 52
  have hpos : 0 < (scaled n 1 ((Nat.log2 n : Int) - (52 : Nat))).2 := by
    rw [scaled, Nat.one_mul]
    exact twoTo_pos _
  rw [ofRatio, if_neg hn]
  dsimp only
  rw [exponentFor_one hn]
  have hleast := le_divideToEven hpos hbounds.1
  have hmost := divideToEven_le hpos (Nat.le_of_lt hbounds.2)
  have hleast : 0x10000000000000 ≤ _ := hleast
  have hmost : _ ≤ 0x20000000000000 := hmost
  split
  · rename_i hcarry
    -- no carry at the greatest exponent, where the significand is at most its greatest one
    have hbelow : Nat.log2 n < 1023 := by
      refine Nat.lt_of_le_of_ne (by omega) fun htop => ?_
      have hlast : divideToEven (scaled n 1 ((Nat.log2 n : Int) - (52 : Nat))).1
          (scaled n 1 ((Nat.log2 n : Int) - (52 : Nat))).2 ≤ 0x1FFFFFFFFFFFFF := by
        refine divideToEven_le hpos ?_
        have hup : (-(((1023 : Nat) : Int) - (52 : Nat))).toNat = 0 := rfl
        have hdown : (((1023 : Nat) : Int) - (52 : Nat)).toNat = 971 := rfl
        rw [htop, scaled, hup, hdown]
        dsimp only
        rw [twoTo_zero, Nat.one_mul, Nat.mul_one]
        rwa [greatestFinite] at h
      have hcarry : divideToEven (scaled n 1 ((Nat.log2 n : Int) - (52 : Nat))).1
          (scaled n 1 ((Nat.log2 n : Int) - (52 : Nat))).2 = 0x20000000000000 := hcarry
      omega
    exact isFinite_ofParts negative
      ⟨by decide, by omega, by omega, .inl (Nat.le_refl _)⟩
  · rename_i hcarry
    exact isFinite_ofParts negative
      ⟨Nat.lt_of_le_of_ne hmost hcarry, by omega, by omega, .inl hleast⟩

theorem ofInt_eq (i : Int) : ofInt i = if i = 0 then zero false else ofRatio (decide (i < 0)) i.natAbs 1 := by
  rw [ofInt, ofSignedDyadic, ofDyadic]
  simp only [Int.toNat_zero, Int.neg_zero, twoTo_zero, Nat.mul_one]

theorem isFinite_ofInt {i : Int} (h : i.natAbs ≤ greatestFinite) : (ofInt i).isFinite = true := by
  rw [ofInt_eq]
  split
  · rfl
  · exact isFinite_ofRatio_one _ h

theorem ofInt_natCast (n : Nat) : ofInt n = ofNat n := by
  rw [ofInt_eq, ofNat]
  by_cases h : n = 0
  · simp [h, ofRatio]
  · have hpos : ¬ ((n : Int) < 0) := by omega
    simp [h, hpos]

/-! ## Integers next to a finite double -/

theorem splitInteger_le {m : Nat} {e : Int} (canonical : Canonical m e) :
    (splitInteger m e).1 + (if (splitInteger m e).2 = 0 then 0 else 1) ≤ greatestFinite := by
  have hm : m ≤ 0x1FFFFFFFFFFFFF := Nat.le_of_lt_succ canonical.lt_bound
  have he := canonical.le_greatest
  rw [splitInteger]
  split
  · rw [if_pos rfl]
    have hscale : twoTo e.toNat ≤ twoTo 971 := twoTo_le (by omega)
    calc m * twoTo e.toNat ≤ 0x1FFFFFFFFFFFFF * twoTo 971 := Nat.mul_le_mul hm hscale
      _ = greatestFinite := by rw [greatestFinite]
  · have hwhole : m / twoTo (-e).toNat ≤ m := Nat.div_le_self _ _
    refine le_greatestFinite ?_
    dsimp only
    split <;> omega

theorem floorOf_le {m : Nat} {e : Int} (negative : Bool) (canonical : Canonical m e) :
    (floorOf negative m e).natAbs ≤ greatestFinite := by
  refine Nat.le_trans ?_ (splitInteger_le canonical)
  unfold floorOf
  cases negative with
  | false => simp
  | true =>
      by_cases h : (splitInteger m e).2 = 0 <;> simp [h]
      omega

theorem ceilOf_le {m : Nat} {e : Int} (negative : Bool) (canonical : Canonical m e) :
    (ceilOf negative m e).natAbs ≤ greatestFinite := by
  refine Nat.le_trans ?_ (splitInteger_le canonical)
  unfold ceilOf
  cases negative with
  | false =>
      by_cases h : (splitInteger m e).2 = 0 <;> simp [h]
      omega
  | true => simp

/-! ## Integers that are written as doubles -/

/-- An integral double at a scale below one. -/
theorem scale_integral {m n : Nat} {e r : Int} (h : splitInteger m e = (n, 0)) (hr : r ≤ min e 0) :
    m * twoTo (e - r).toNat = n * twoTo (-r).toNat := by
  unfold splitInteger at h
  split at h
  · rename_i he
    have hn : m * twoTo e.toNat = n := congrArg Prod.fst h
    have hsum : (e - r).toNat = e.toNat + (-r).toNat := by omega
    rw [← hn, hsum, twoTo_add, Nat.mul_assoc]
  · rename_i he
    have hn : m / twoTo (-e).toNat = n := congrArg Prod.fst h
    have hrest : m % twoTo (-e).toNat = 0 := congrArg Prod.snd h
    have hm : n * twoTo (-e).toNat = m := by
      rw [← hn]
      exact Nat.div_mul_cancel (Nat.dvd_of_mod_eq_zero hrest)
    have hsum : (-r).toNat = (-e).toNat + (e - r).toNat := by omega
    rw [← hm, hsum, twoTo_add, Nat.mul_assoc]

theorem lt_integral {a b k n : Nat} {p q : Int} (canonical : Canonical a p)
    (canonical' : Canonical b q) (ha : splitInteger a p = (k, 0)) (hb : splitInteger b q = (n, 0))
    (hp : p ≤ 0) :
    (finite false a p canonical).lt (finite false b q canonical') = decide (k < n) := by
  have hleft := scale_integral ha (r := min p q) (by omega)
  have hright := scale_integral hb (r := min p q) (by omega)
  have hscale := twoTo_pos (-min p q).toNat
  rw [lt, dyadicLt, signed, signed]
  simp only [Bool.false_eq_true, if_false, ← Int.natCast_mul, hleft, hright, Int.ofNat_lt,
    Nat.mul_lt_mul_right hscale]

theorem natFactorial_le {m n : Nat} (h : m ≤ n) : natFactorial m ≤ natFactorial n := by
  induction h with
  | refl => exact Nat.le_refl _
  | step _ ih =>
      rw [natFactorial]
      exact Nat.le_trans ih (Nat.le_mul_of_pos_left _ (Nat.succ_pos _))

/-- The greatest factorial that is taken is a finite double. -/
theorem natFactorial_le_greatestFinite {n : Nat} (h : n ≤ greatestFactorial) :
    natFactorial n ≤ greatestFinite :=
  Nat.le_trans (natFactorial_le h) (by decide +kernel)

end Double

end Formula
